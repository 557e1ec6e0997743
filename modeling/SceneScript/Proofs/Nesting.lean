import SceneScript.Compile.Walk

/-!
What is inside an action list. Its parts are its actions and the parts of the lists inside them:
under a guard, on a side of a branch, in a lane. Main statements: which parts the actions of a
node, of an edge and of a lane have.
-/

namespace SceneScript

namespace Action

mutual

/-- An action and all that is inside it. -/
def parts : Action → List Action
  | guarded guard actions => guarded guard actions :: listParts actions
  | branch condition whenTrue whenFalse =>
      branch condition whenTrue whenFalse :: (listParts whenTrue ++ listParts whenFalse)
  | parallel lanes => parallel lanes :: lanesParts lanes
  | action => [action]

def listParts : List Action → List Action
  | [] => []
  | action :: rest => parts action ++ listParts rest

def lanesParts : List (List Action) → List Action
  | [] => []
  | lane :: rest => listParts lane ++ lanesParts rest

end

variable {sought : Action}

theorem mem_parts_self (action : Action) : action ∈ action.parts := by
  cases action <;> simp [parts]

theorem mem_listParts_of_mem {actions : List Action} (listed : sought ∈ actions) :
    sought ∈ listParts actions := by
  induction actions with
  | nil => cases listed
  | cons action rest ih =>
      rw [listParts, List.mem_append]
      rcases List.mem_cons.mp listed with rfl | later
      · exact Or.inl (mem_parts_self sought)
      · exact Or.inr (ih later)

@[simp]
theorem listParts_append (first second : List Action) :
    listParts (first ++ second) = listParts first ++ listParts second := by
  induction first with
  | nil => rfl
  | cons action rest ih => rw [List.cons_append, listParts, listParts, ih, List.append_assoc]

@[simp]
theorem listParts_singleton (action : Action) : listParts [action] = action.parts := by
  rw [listParts, listParts, List.append_nil]

theorem mem_lanesParts_iff {lanes : List (List Action)} :
    sought ∈ lanesParts lanes ↔ ∃ lane ∈ lanes, sought ∈ listParts lane := by
  induction lanes with
  | nil => simp [lanesParts]
  | cons lane rest ih => simp [lanesParts, ih]

/-- Putting actions under a guard adds the guard to their parts. -/
theorem mem_listParts_underGuard_iff {mark : String} {edge : Edge} {actions : List Action} :
    sought ∈ listParts (underGuard mark edge actions) ↔
      (∃ guard, Guard.ofEdge? mark edge = some guard ∧ sought = .guarded guard actions) ∨
        sought ∈ listParts actions := by
  unfold underGuard
  cases Guard.ofEdge? mark edge with
  | none => simp
  | some guard => simp [parts]

end Action

namespace Compile

variable {settings : Settings} {edge : Edge} {sought : Action}

theorem mem_marks_iff {node : Node} :
    sought ∈ marks settings node ↔
      settings.markNamedNodes = true ∧ node.displayName ≠ "" ∧ sought = .mark node.displayName := by
  unfold marks
  by_cases marked : (settings.markNamedNodes && node.displayName != "") = true
  · rw [if_pos marked, List.mem_singleton]
    simp only [Bool.and_eq_true, bne_iff_ne] at marked
    simp [marked]
  · rw [if_neg marked]
    simp only [Bool.and_eq_true, bne_iff_ne, not_and] at marked
    simp only [List.not_mem_nil, false_iff, not_and]
    intro marking named
    exact (marked marking named).elim

/-- A node other than a join gives its mark, and a step its record. -/
theorem mem_ownActions_iff {node : Node} :
    sought ∈ ownActions settings node ↔
      (node.role ≠ .join ∧ sought ∈ marks settings node) ∨
        (node.role = .step ∧ sought = .ofNode node) := by
  unfold ownActions
  cases role : node.role <;> simp

/-- Nothing is inside a mark or a record. -/
theorem listParts_ownActions (node : Node) :
    Action.listParts (ownActions settings node) = ownActions settings node := by
  have flat : Action.listParts (marks settings node) = marks settings node := by
    unfold marks
    split <;> rfl
  unfold ownActions
  cases node.role <;> simp [flat, Action.listParts, Action.ofNode, Action.parts]

/-- The parts of what an edge contributes: its wait, and a guard around it. -/
theorem mem_listParts_waitActions {settings : Settings}
    (inside : sought ∈ Action.listParts (waitActions settings edge)) :
    ∃ seconds, edge.wait? = some seconds ∧ (sought = .wait seconds ∨
      ∃ guard, Guard.ofEdge? settings.globalVarPrefix edge = some guard ∧
        sought = .guarded guard [.wait seconds]) := by
  unfold waitActions at inside
  split at inside
  · rename_i seconds waits
    rcases Action.mem_listParts_underGuard_iff.mp inside with ⟨guard, guards, rfl⟩ | within
    · exact ⟨seconds, waits, Or.inr ⟨guard, guards, rfl⟩⟩
    · rw [Action.listParts_singleton] at within
      exact ⟨seconds, waits, Or.inl (List.mem_singleton.mp within)⟩
  · cases inside

theorem mem_listParts_guardLane {actions : List Action}
    (inside : sought ∈ Action.listParts (guardLane settings edge actions)) :
    (∃ guard, Guard.ofEdge? settings.globalVarPrefix edge = some guard ∧
      sought = .guarded guard actions) ∨ sought ∈ Action.listParts actions := by
  unfold guardLane at inside
  split at inside
  · exact Action.mem_listParts_underGuard_iff.mp inside
  · exact Or.inr inside

theorem mem_guardLane_of_mem {actions : List Action} (inside : sought ∈ Action.listParts actions) :
    sought ∈ Action.listParts (guardLane settings edge actions) := by
  unfold guardLane
  split
  · exact Action.mem_listParts_underGuard_iff.mpr (Or.inr inside)
  · exact inside

end Compile

end SceneScript
