import SceneScript.Proofs.Playback

/-!
Written action lists without their marks. Marks are taken out of a list and of the lists inside it:
the sides of a branch, the actions under a guard, the lanes of a fork. A lane that is left with
nothing to do is taken out as well, and one that is left with a single record becomes that record.
Main statements: what is left of each kind of record, and of a lane.
-/

namespace SceneScript

namespace Json

def isMark : Json → Bool
  | obj fields => Table.string? fields "type" == some "mark_node"
  | _ => false

/-- A guard around nothing. -/
def isIdleGuard : Json → Bool
  | obj fields =>
      Table.string? fields "type" == some "guard_global" &&
        match Table.get? fields "actions" with
        | some (arr []) => true
        | _ => false
  | _ => false

/-- The element that a lane adds to those of its fork, if it adds one. -/
def laneForm : List Json → List Json
  | [] => []
  | [action] => if action.isIdleGuard then [] else [action]
  | actions => [arr actions]

/-- What a field of a record is to the actions of a scene. -/
inductive Holds where
  | noActions
  | actions
  | lanes
  deriving DecidableEq, Repr

def holds : String → String → Holds
  | "branch", "true_actions" => .actions
  | "branch", "false_actions" => .actions
  | "guard_global", "actions" => .actions
  | "parallel", "actions" => .lanes
  | _, _ => .noActions

mutual

/-- A record without the marks inside it. -/
def unmarked : Json → Json
  | obj fields => obj (unmarkedFields ((Table.string? fields "type").getD "") fields)
  | other => other

def unmarkedFields (type : String) : List (String × Json) → List (String × Json)
  | [] => []
  | (key, value) :: rest => (key, unmarkedField (holds type key) value) :: unmarkedFields type rest

def unmarkedField : Holds → Json → Json
  | .actions, arr items => arr (unmarkedList items)
  | .lanes, arr items => arr (unmarkedLanes items)
  | _, other => other

/-- An action list without the marks in it and inside it. -/
def unmarkedList : List Json → List Json
  | [] => []
  | action :: rest =>
      if action.isMark then unmarkedList rest else unmarked action :: unmarkedList rest

def unmarkedLanes : List Json → List Json
  | [] => []
  | arr items :: rest => laneForm (unmarkedList items) ++ unmarkedLanes rest
  | action :: rest =>
      laneForm (if action.isMark then [] else [unmarked action]) ++ unmarkedLanes rest

end

@[simp]
theorem unmarkedList_append (first second : List Json) :
    unmarkedList (first ++ second) = unmarkedList first ++ unmarkedList second := by
  induction first with
  | nil => rfl
  | cons action rest ih =>
      rw [List.cons_append, unmarkedList, unmarkedList, ih]
      split
      · rfl
      · rw [List.cons_append]

@[simp]
theorem unmarkedLanes_append (first second : List Json) :
    unmarkedLanes (first ++ second) = unmarkedLanes first ++ unmarkedLanes second := by
  induction first with
  | nil => rfl
  | cons lane rest ih => cases lane <;> simp [unmarkedLanes, ih]

theorem unmarkedField_noActions (value : Json) : unmarkedField .noActions value = value := by
  cases value <;> rfl

/-- Records of other types hold no actions. -/
theorem unmarked_of_type {fields : Table Json} {type : String}
    (typed : Table.string? fields "type" = some type)
    (plain : type ∉ ["branch", "guard_global", "parallel"]) : (obj fields).unmarked = obj fields := by
  have none (key : String) : holds type key = .noActions := by
    unfold holds
    split <;> simp_all
  rw [unmarked, typed, Option.getD_some]
  congr 1
  clear typed
  induction fields with
  | nil => rfl
  | cons entry rest ih => rw [unmarkedFields, none, unmarkedField_noActions, ih]

end Json

namespace Guard

open Json

variable {guard : Guard} {items : List Json}

theorem not_isMark_toJson : (guard.toJson items).isMark = false := rfl

/-- A guard around nothing is one whose list is empty, whatever it waits for. -/
theorem isIdleGuard_toJson : (guard.toJson items).isIdleGuard = items.isEmpty := by
  cases items <;> rfl

theorem unmarked_toJson : (guard.toJson items).unmarked = guard.toJson (unmarkedList items) := by
  obtain ⟨global, equals, ifFalse, stopWhen, stop⟩ := guard
  rcases stopWhen with _ | condition <;> rcases stop with _ | (_ | _ | _) <;> rfl

end Guard

namespace Action

open Json

variable {condition : String} {whenTrue whenFalse lane : List Action} {lanes : List (List Action)}

@[simp]
theorem lanesJson_append (first second : List (List Action)) :
    lanesJson (first ++ second) = lanesJson first ++ lanesJson second := by
  induction first with
  | nil => rfl
  | cons lane rest ih => rcases lane with _ | ⟨one, _ | ⟨two, others⟩⟩ <;> simp [lanesJson, ih]

theorem unmarked_branch : (branch condition whenTrue whenFalse).toJson.unmarked =
    .obj [("type", .str "branch"), ("condition", .str condition),
      ("true_actions", .arr (unmarkedList (listJson whenTrue))),
      ("false_actions", .arr (unmarkedList (listJson whenFalse)))] := rfl

theorem unmarked_parallel : (parallel lanes).toJson.unmarked =
    .obj [("type", .str "parallel"), ("actions", .arr (unmarkedLanes (lanesJson lanes)))] := rfl

/-- Whether a lane is written as a list or as its one record, its marks are taken out first, and
what is left is written anew. -/
theorem unmarkedLanes_singleton :
    unmarkedLanes (lanesJson [lane]) = laneForm (unmarkedList (listJson lane)) := by
  rcases lane with _ | ⟨first, _ | ⟨second, rest⟩⟩
  · rfl
  · have single : unmarkedLanes [first.toJson] =
        laneForm (if first.toJson.isMark then [] else [first.toJson.unmarked]) ++ [] := by
      cases first <;> rfl
    rw [lanesJson, lanesJson, single, List.append_nil]
    rfl
  · exact List.append_nil _

/-- A lane that is not idle is written as it is once its marks are out. -/
theorem lanesJson_of_busy (busy : ∀ action ∈ lane, action.toJson.isIdleGuard = false) :
    lanesJson (if lane.isEmpty then [] else [lane]) = laneForm (listJson lane) := by
  rcases lane with _ | ⟨first, _ | ⟨second, rest⟩⟩
  · rfl
  · have one := busy first List.mem_cons_self
    simp [lanesJson, listJson, laneForm, one]
  · rfl

/-- A list without its marks comes to another, in which no guard is around nothing. -/
structure StripsTo (marked bare : List Action) : Prop where
  written : Json.unmarkedList (listJson marked) = listJson bare
  busy : ∀ action ∈ bare, action.toJson.isIdleGuard = false

namespace StripsTo

theorem nil : StripsTo [] [] where
  written := rfl
  busy := nofun

theorem mark (name : String) : StripsTo [.mark name] [] where
  written := rfl
  busy := nofun

theorem record {marked bare : Action} (isRecord : marked.toJson.isMark = false)
    (inside : marked.toJson.unmarked = bare.toJson) (busy : bare.toJson.isIdleGuard = false) :
    StripsTo [marked] [bare] where
  written := by simp [listJson, Json.unmarkedList, isRecord, inside]
  busy := by simp [busy]

/-- A guard stays when the marks inside it are taken out, even around nothing. -/
theorem written_guarded (guard : Guard) {marked bare : List Action}
    (inside : StripsTo marked bare) :
    Json.unmarkedList (listJson [.guarded guard marked]) = listJson [.guarded guard bare] := by
  simp only [listJson, toJson, Json.unmarkedList, Guard.not_isMark_toJson, Guard.unmarked_toJson,
    inside.written, Bool.false_eq_true, if_false]

theorem guarded (guard : Guard) {marked bare : List Action} (inside : StripsTo marked bare)
    (some : bare ≠ []) : StripsTo [.guarded guard marked] [.guarded guard bare] where
  written := inside.written_guarded guard
  busy := by
    intro action member
    rw [List.mem_singleton.mp member, toJson, Guard.isIdleGuard_toJson]
    cases bare with
    | nil => exact (some rfl).elim
    | cons action rest => rfl

theorem append {marked bare others rest : List Action} (first : StripsTo marked bare)
    (second : StripsTo others rest) : StripsTo (marked ++ others) (bare ++ rest) where
  written := by
    rw [listJson_append, listJson_append, Json.unmarkedList_append, first.written, second.written]
  busy action member :=
    (List.mem_append.mp member).elim (first.busy action) (second.busy action)

end StripsTo

end Action

end SceneScript
