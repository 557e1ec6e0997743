import Mathlib.Data.Stream.Defs
import SceneScript.Action.Basic
import SceneScript.Proofs.Scan

/-!
Playing an action list along a stream of choices. A branch record takes the next choice and gives
way to the actions of that side; every other action stays as it is. Main statements: how a list is
played that begins with actions other than branches, and which actions those are.
-/

namespace SceneScript

namespace Table

universe u
variable {α : Type u}

theorem sizeOf_lt_of_get? [SizeOf α] {table : Table α} {key : String} {value : α}
    (found : get? table key = some value) : sizeOf value < sizeOf table := by
  induction table with
  | nil => cases found
  | cons entry rest ih =>
      obtain ⟨other, held⟩ := entry
      rw [get?] at found
      split at found
      · cases found
        simp only [List.cons.sizeOf_spec, Prod.mk.sizeOf_spec]
        omega
      · have smaller := ih found
        simp only [List.cons.sizeOf_spec]
        omega

end Table

namespace Json

def sideKey (side : Bool) : String := if side then "true_actions" else "false_actions"

/-- The actions of one side of a branch record. -/
def sideOf (fields : Table Json) (side : Bool) : List Json :=
  ((Table.get? fields (sideKey side)).getD null).items

theorem sizeOf_items_le (value : Json) : sizeOf value.items ≤ sizeOf value := by
  cases value with
  | arr items =>
      rw [arr.sizeOf_spec]
      exact Nat.le_add_left (sizeOf items) 1
  | _ => simp [items]

theorem sizeOf_sideOf (fields : Table Json) (side : Bool) :
    sizeOf (sideOf fields side) < 1 + sizeOf fields := by
  have smaller := sizeOf_items_le ((Table.get? fields (sideKey side)).getD null)
  rw [sideOf]
  cases found : Table.get? fields (sideKey side) with
  | none =>
      rw [found] at smaller
      have nonempty : 0 < sizeOf fields := by
        cases fields with
        | nil => exact Nat.one_pos
        | cons entry rest =>
            simp only [List.cons.sizeOf_spec]
            omega
      simp only [Option.getD_none, null.sizeOf_spec] at smaller ⊢
      omega
  | some value =>
      have inside := Table.sizeOf_lt_of_get? found
      rw [found] at smaller
      simp only [Option.getD_some] at smaller ⊢
      omega

/-- The fields of a branch record. -/
def branch? : Json → Option (Table Json)
  | obj fields => if Table.string? fields "type" = some "branch" then some fields else none
  | _ => none

theorem eq_obj_of_branch? {action : Json} {fields : Table Json}
    (isBranch : action.branch? = some fields) : action = obj fields := by
  unfold branch? at isBranch
  split at isBranch
  · split at isBranch
    · cases isBranch
      rfl
    · cases isBranch
  · cases isBranch

/-- What an action list comes to along a stream of choices, and the choices that are left over. -/
def play (choices : Stream' Bool) (actions : List Json) : List Json × Stream' Bool :=
  match actions with
  | [] => ([], choices)
  | action :: rest =>
      match _isBranch : action.branch? with
      | none =>
          let after := play choices rest
          (action :: after.1, after.2)
      | some fields =>
          let taken := play choices.tail (sideOf fields choices.head)
          let after := play taken.2 rest
          (taken.1 ++ after.1, after.2)
termination_by sizeOf actions
decreasing_by
  · simp only [List.cons.sizeOf_spec]
    omega
  · have smaller := sizeOf_sideOf fields choices.head
    rw [eq_obj_of_branch? _isBranch]
    simp only [List.cons.sizeOf_spec, obj.sizeOf_spec]
    omega
  · simp only [List.cons.sizeOf_spec]
    omega

def played (choices : Stream' Bool) (actions : List Json) : List Json := (play choices actions).1

theorem play_nil (choices : Stream' Bool) : play choices [] = ([], choices) := by
  rw [play]

theorem played_nil (choices : Stream' Bool) : played choices [] = [] := by
  rw [played, play_nil]

theorem played_cons_of_plain {action : Json} (plain : action.branch? = none)
    (choices : Stream' Bool) (rest : List Json) :
    played choices (action :: rest) = action :: played choices rest := by
  rw [played, play]
  split
  · rfl
  · rename_i isBranch
    rw [plain] at isBranch
    cases isBranch

theorem played_append_of_plain {first : List Json} (plain : ∀ action ∈ first, action.branch? = none)
    (choices : Stream' Bool) (rest : List Json) :
    played choices (first ++ rest) = first ++ played choices rest := by
  induction first with
  | nil => rfl
  | cons action others ih =>
      rw [List.cons_append, played_cons_of_plain (plain action List.mem_cons_self),
        ih fun other member => plain other (List.mem_cons_of_mem action member), List.cons_append]

/-- A list that ends in a branch record goes on with the side that is chosen. -/
theorem played_branch {action : Json} {fields : Table Json} (isBranch : action.branch? = some fields)
    (choices : Stream' Bool) :
    played choices [action] = played choices.tail (sideOf fields choices.head) := by
  rw [played, play]
  split
  · rename_i plain
    rw [isBranch] at plain
    cases plain
  · rename_i others again
    cases again.symm.trans isBranch
    simp only [play_nil, List.append_nil, played]

end Json

namespace Action

theorem listJson_append (first second : List Action) :
    listJson (first ++ second) = listJson first ++ listJson second := by
  induction first with
  | nil => rfl
  | cons action rest ih => rw [List.cons_append, listJson, listJson, ih, List.cons_append]

def IsPlain (action : Action) : Prop := action.toJson.branch? = none

theorem branch?_listJson {actions : List Action} (plain : ∀ action ∈ actions, action.IsPlain) :
    ∀ action ∈ listJson actions, action.branch? = none := by
  induction actions with
  | nil =>
      intro action member
      cases member
  | cons first rest ih =>
      intro action member
      rcases List.mem_cons.mp member with rfl | later
      · exact plain first List.mem_cons_self
      · exact ih (fun other listed => plain other (List.mem_cons_of_mem first listed)) action later

theorem isPlain_mark (name : String) : (mark name).IsPlain := rfl

theorem isPlain_wait (seconds : Number) : (wait seconds).IsPlain := rfl

theorem isPlain_guarded (guard : Guard) (actions : List Action) : (guarded guard actions).IsPlain :=
  rfl

theorem isPlain_parallel (lanes : List (List Action)) : (parallel lanes).IsPlain := rfl

/-- A node keeps its type in its record unless a parameter takes that place. -/
theorem type_recordFields {node : Node} (untyped : "type" ∉ Table.keys node.params) :
    Table.get? (recordFields node) "type" = some (.str node.type) := by
  unfold recordFields
  refine (Table.get?_foldl_insert_of_not_mem ?_).trans rfl
  intro copied
  obtain ⟨entry, listed, isType⟩ := List.mem_map.mp copied
  exact untyped (List.mem_map.mpr ⟨entry, (List.mem_filter.mp listed).1, isType⟩)

theorem isPlain_ofNode {node : Node} (step : node.role = .step)
    (untyped : "type" ∉ Table.keys node.params) : (ofNode node).IsPlain := by
  have other : node.type ≠ "branch" := by
    intro isBranch
    rw [Node.role, isBranch] at step
    cases step
  apply if_neg
  rw [Table.string?, type_recordFields untyped]
  rintro same
  exact other (Option.some.inj same)

theorem branch?_branch (condition : String) (sides : Bool → List Action) :
    ∃ fields, (branch condition (sides true) (sides false)).toJson.branch? = some fields ∧
      ∀ side, Json.sideOf fields side = listJson (sides side) := by
  refine ⟨_, rfl, fun side => ?_⟩
  cases side <;> rfl

end Action

end SceneScript
