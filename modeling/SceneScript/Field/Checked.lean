import SceneScript.Json.Basic

/-!
Values that are built field by field, and everything that is wrong with one. `Checked.and` goes on
after a fault, so that the faults of all fields are reported in the order of the fields.
-/

namespace SceneScript

inductive FieldFault where
  | missing
  | notText
  | notFlag
  | unreadableFlag
  | notWhole
  | unreadableWhole
  | fractional
  | notFinite
  | tooLarge
  | notNumber
  | unreadableNumber
  | notPositive
  | notList
  | notObject
  | notRecord (kind : String)
  | rejected (reason : String)
  deriving DecidableEq

namespace FieldFault

def code : FieldFault → String
  | missing => "missing"
  | notText => "string_type"
  | notFlag => "bool_type"
  | unreadableFlag => "bool_parsing"
  | notWhole => "int_type"
  | unreadableWhole => "int_parsing"
  | fractional => "int_from_float"
  | notFinite => "finite_number"
  | tooLarge => "int_parsing_size"
  | notNumber => "float_type"
  | unreadableNumber => "float_parsing"
  | notPositive => "greater_than"
  | notList => "list_type"
  | notObject => "dict_type"
  | notRecord _ => "model_type"
  | rejected _ => "value_error"

def message : FieldFault → String
  | missing => "Field required"
  | notText => "Input should be a valid string"
  | notFlag => "Input should be a valid boolean"
  | unreadableFlag => "Input should be a valid boolean, unable to interpret input"
  | notWhole => "Input should be a valid integer"
  | unreadableWhole =>
      "Input should be a valid integer, unable to parse string as an integer"
  | fractional => "Input should be a valid integer, got a number with a fractional part"
  | notFinite => "Input should be a finite number"
  | tooLarge => "Unable to parse input string as an integer, exceeded maximum size"
  | notNumber => "Input should be a valid number"
  | unreadableNumber => "Input should be a valid number, unable to parse string as a number"
  | notPositive => "Input should be greater than 0"
  | notList => "Input should be a valid list"
  | notObject => "Input should be a valid dictionary"
  | notRecord kind => "Input should be a valid dictionary or instance of " ++ kind
  | rejected reason => "Value error, " ++ reason

end FieldFault

inductive PathStep where
  | key (name : String)
  | item (position : Nat)
  deriving DecidableEq

structure FieldError where
  path : List PathStep
  fault : FieldFault
  deriving DecidableEq

abbrev Checked (α : Type) := Except (List FieldError) α

namespace Checked

variable {α β : Type}

def fail (fault : FieldFault) : Checked α := .error [⟨[], fault⟩]

def and (function : Checked (α → β)) (argument : Checked α) : Checked β :=
  match function, argument with
  | .ok function, .ok argument => .ok (function argument)
  | .ok _, .error faults => .error faults
  | .error faults, .ok _ => .error faults
  | .error faults, .error more => .error (faults ++ more)

def under (step : PathStep) : Checked α → Checked α
  | .ok value => .ok value
  | .error faults => .error (faults.map fun fault => { fault with path := step :: fault.path })

/-- Checks the items of a list, from a position on. -/
def items (check : Json → Checked α) (position : Nat) : List Json → Checked (List α)
  | [] => .ok []
  | item :: rest =>
      ((List.cons <$> (check item).under (.item position)).and (items check (position + 1) rest))

theorem and_eq_ok_iff {function : Checked (α → β)} {argument : Checked α} {value : β} :
    function.and argument = .ok value ↔
      ∃ f a, function = .ok f ∧ argument = .ok a ∧ f a = value := by
  cases function <;> cases argument <;> simp [and]

end Checked

end SceneScript
