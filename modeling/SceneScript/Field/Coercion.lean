import SceneScript.Field.Checked
import SceneScript.Json.Display
import SceneScript.Number.Numeral

/-!
How the value of a field is read. Flags and numbers may be written in several ways; a comparison
text may be any value, and takes the form in which an editor would show it.
-/

namespace SceneScript.Field

def text : Json → Checked String
  | .str value => .ok value
  | _ => Checked.fail .notText

def textOrNull : Json → Checked (Option String)
  | .null => .ok none
  | .str value => .ok (some value)
  | _ => Checked.fail .notText

def object : Json → Checked (Table Json)
  | .obj fields => .ok fields
  | _ => Checked.fail .notObject

def list {α : Type} (check : Json → Checked α) : Json → Checked (List α)
  | .arr items => Checked.items check 0 items
  | _ => Checked.fail .notList

def flagWord? (word : String) : Option Bool :=
  let plain := String.ofList (word.toList.map Char.toLower)
  if plain ∈ ["0", "off", "f", "false", "n", "no"] then some false
  else if plain ∈ ["1", "on", "t", "true", "y", "yes"] then some true
  else none

/-- Whole numbers of 64 bits count as attempts at a flag, greater ones do not. -/
def flag : Json → Checked Bool
  | .bool value => .ok value
  | .num (.int 0) => .ok false
  | .num (.int 1) => .ok true
  | .num (.int value) =>
      if -9223372036854775808 ≤ value ∧ value < 9223372036854775808 then
        Checked.fail .unreadableFlag
      else Checked.fail .notFlag
  | .num (.double value) =>
      match value.toInt? with
      | some 0 => .ok false
      | some 1 => .ok true
      | _ => Checked.fail .notFlag
  | .str word =>
      match flagWord? word with
      | some value => .ok value
      | none => Checked.fail .unreadableFlag
  | _ => Checked.fail .notFlag

def ofFlag (value : Bool) : Int := if value then 1 else 0

/-- A value that reads neither as a whole number nor as a double is at fault twice. -/
def neither {α : Type} (whole double : FieldFault) : Checked α :=
  .error [⟨[.key "int"], whole⟩, ⟨[.key "float"], double⟩]

/-- Why a text is no whole number. -/
def unreadable (word : String) : FieldFault :=
  if Numeral.isOverlong word then .tooLarge else .unreadableWhole

def numberOrNull : Json → Checked (Option Number)
  | .null => .ok none
  | .num value => .ok (some value)
  | .bool value => .ok (some (.int (ofFlag value)))
  | .str word =>
      match Numeral.number? word with
      | some value => .ok (some value)
      | none => neither (unreadable word) .unreadableNumber
  | _ => neither .notWhole .notNumber

/-- Doubles are read within 64 bits only. -/
def wholeOfDouble (value : Double) : Checked Int :=
  match value.toInt? with
  | some whole =>
      if -9223372036854775808 < whole ∧ whole < 9223372036854775808 then .ok whole
      else Checked.fail .tooLarge
  | none => if value.isFinite then Checked.fail .fractional else Checked.fail .notFinite

def whole : Json → Checked Int
  | .num (.int value) => .ok value
  | .num (.double value) => wholeOfDouble value
  | .bool value => .ok (ofFlag value)
  | .str word =>
      match Numeral.int? word with
      | some value => .ok value
      | none => Checked.fail (unreadable word)
  | _ => Checked.fail .notWhole

/-- The text that stands for any value; a whole number is shown without a point. -/
def shownText : Json → String
  | .null => ""
  | .bool value => if value then "true" else "false"
  | .num value => ((value.toInt?).map toString).getD value.write
  | other => other.display

def shownOr (default : String) : Json → String
  | .null => default
  | other => shownText other

end SceneScript.Field
