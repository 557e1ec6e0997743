import SceneScript.Table
import SceneScript.Number.Basic

/-!
Values of documents. The fields of an object are a table: they keep their order, and a key has one
value when the value was read or built through `Table.insert`.
-/

namespace SceneScript

inductive Json where
  | null
  | bool (value : Bool)
  | num (value : Number)
  | str (value : String)
  | arr (items : List Json)
  | obj (fields : List (String × Json))

namespace Json

def int (value : Int) : Json := num (.int value)

def ofOption (option : Option String) : Json :=
  match option with
  | some text => str text
  | none => null

def string? : Json → Option String
  | str value => some value
  | _ => none

def fields? : Json → Option (Table Json)
  | obj fields => some fields
  | _ => none

/-- A missing list has no items, as has a value that is no list. -/
def items : Json → List Json
  | arr items => items
  | _ => []

def isNull : Json → Bool
  | null => true
  | _ => false

/-- Null and the empty text stand for a field that was left empty. -/
def isEmpty : Json → Bool
  | null => true
  | str value => value == ""
  | _ => false

mutual

/-- Doubles that no text format holds become null. -/
def finite : Json → Json
  | num (.double value) => if value.isFinite then num (.double value) else null
  | arr items => arr (finiteItems items)
  | obj fields => obj (finiteFields fields)
  | other => other

def finiteItems : List Json → List Json
  | [] => []
  | item :: rest => finite item :: finiteItems rest

def finiteFields : List (String × Json) → List (String × Json)
  | [] => []
  | (key, value) :: rest => (key, finite value) :: finiteFields rest

end

end Json

/-- The value of a field that may be missing. -/
def Table.string? (table : Table Json) (key : String) : Option String :=
  (Table.get? table key).bind Json.string?

end SceneScript
