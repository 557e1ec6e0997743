import SceneScript.Proofs.Scan
import SceneScript.Report.Lanes

/-!
The handles of edges against the lanes that a fork or a join declares. Main statement: at a fork
about whose lanes there is nothing to say, every edge begins one of the declared lanes, and is the
edge that begins it.
-/

namespace SceneScript

universe u
/-- Where one item at most passes a test, the item that passes it is the one found. -/
theorem find?_eq_some_of_countP_le_one {α : Type u} {p : α → Bool} {items : List α} {item : α}
    (few : items.countP p ≤ 1) (listed : item ∈ items) (holds : p item = true) :
    items.find? p = some item := by
  induction items with
  | nil => cases listed
  | cons first rest ih =>
      by_cases hit : p first = true
      · rw [List.countP_cons_of_pos hit] at few
        have none : ∀ other ∈ rest, ¬ p other = true := List.countP_eq_zero.mp (by omega)
        rcases List.mem_cons.mp listed with rfl | later
        · exact List.find?_cons_of_pos hit
        · exact (none item later holds).elim
      · rw [List.countP_cons_of_neg hit] at few
        rcases List.mem_cons.mp listed with rfl | later
        · exact (hit holds).elim
        · rw [List.find?_cons_of_neg hit]
          exact ih few later

theorem Text.dropStart?_eq_some_iff {start text rest : String} :
    dropStart? start text = some rest ↔ text = start ++ rest := by
  constructor
  · intro dropped
    obtain ⟨chars, split, rfl⟩ := Option.map_eq_some_iff.mp dropped
    have parts := (dropCharsStart?_eq_some_iff start.toList text.toList chars).mp split
    apply String.toList_inj.mp
    rw [parts, String.toList_append, String.toList_ofList]
  · rintro rfl
    exact dropStart?_append start rest

namespace LaneEnd

variable {laneEnd : LaneEnd} {edge : Edge} {lane : String}

theorem handleOf_ne_empty (laneEnd : LaneEnd) (lane : String) : laneEnd.handleOf lane ≠ "" := by
  intro empty
  have marked : laneEnd.mark = "" := (String.append_eq_empty_iff.mp empty).1
  cases laneEnd <;> exact absurd marked (by decide)

theorem laneOf?_eq_some_iff :
    laneEnd.laneOf? edge = some lane ↔ laneEnd.handle edge = some (laneEnd.handleOf lane) := by
  rw [laneOf?, Option.bind_eq_some_iff]
  constructor
  · rintro ⟨handle, held, dropped⟩
    rw [held, Text.dropStart?_eq_some_iff.mp dropped]
    rfl
  · intro held
    exact ⟨_, held, Text.dropStart?_append laneEnd.mark lane⟩

end LaneEnd

namespace Report

variable {laneEnd : LaneEnd} {edge : Edge} {lane : String} {declared : List String}

/-- There is nothing to say about the handle of an edge that names a declared lane. -/
theorem handleProblem?_eq_none_iff :
    handleProblem? laneEnd declared edge = none ↔
      ∃ lane ∈ declared, laneEnd.laneOf? edge = some lane := by
  unfold handleProblem?
  constructor
  · intro fine
    split at fine
    · cases fine
    · cases fine
    · rename_i handle full held
      split at fine
      · cases fine
      · rename_i lane dropped
        split at fine
        · rename_i isDeclared
          exact ⟨lane, isDeclared, Option.bind_eq_some_iff.mpr ⟨handle, held, dropped⟩⟩
        · cases fine
  · rintro ⟨lane, isDeclared, named⟩
    have held := LaneEnd.laneOf?_eq_some_iff.mp named
    split
    · rename_i none
      rw [none] at held
      cases held
    · rename_i empty
      rw [empty] at held
      exact absurd (Option.some.inj held).symm (laneEnd.handleOf_ne_empty lane)
    · rename_i handle full given
      rw [given] at held
      cases held
      have dropped : Text.dropStart? laneEnd.mark (laneEnd.handleOf lane) = some lane :=
        Text.dropStart?_append laneEnd.mark lane
      simp [dropped, isDeclared]

theorem laneProblem?_eq_none_iff {used : List String} :
    laneProblem? used lane = none ↔ used.count lane = 1 := by
  unfold laneProblem?
  split <;> simp_all

/-- Where there is nothing to say about lanes, each edge is on a declared lane, alone. -/
theorem alone_of_laneProblems {lanes : List String} {edges : List Edge}
    (clean : laneProblems laneEnd lanes edges = []) (listed : edge ∈ edges) :
    ∃ lane ∈ lanes, laneEnd.laneOf? edge = some lane ∧
      edges.countP (fun edge => laneEnd.laneOf? edge == some lane) = 1 := by
  simp only [laneProblems, List.append_eq_nil_iff, List.filterMap_eq_nil_iff] at clean
  -- The handles say that the lane is a declared one, the counts that no other edge is on it.
  obtain ⟨⟨-, handles⟩, counts⟩ := clean
  obtain ⟨lane, isDeclared, named⟩ := handleProblem?_eq_none_iff.mp (handles edge listed)
  have once := laneProblem?_eq_none_iff.mp (counts lane isDeclared)
  rw [List.count_filterMap] at once
  exact ⟨lane, List.mem_eraseDups.mp isDeclared, named, once⟩

end Report

/-- At a fork about whose lanes there is nothing to say, every edge begins a declared lane. -/
theorem Graph.laneEdge_of_laneProblems {graph : Graph} {fork : Node} {edge : Edge}
    (clean : Report.laneProblems .fork fork.laneIds (graph.outEdges fork.id) = [])
    (listed : edge ∈ graph.outEdges fork.id) :
    ∃ lane ∈ fork.laneIds, graph.laneEdge fork.id lane = some edge := by
  obtain ⟨lane, isDeclared, named, once⟩ := Report.alone_of_laneProblems clean listed
  have begins (other : Edge) : (LaneEnd.fork.laneOf? other == some lane) =
      (other.sourceHandle == some ("out_" ++ lane)) := by
    rw [Bool.eq_iff_iff, beq_iff_eq, beq_iff_eq, LaneEnd.laneOf?_eq_some_iff]
    rfl
  have onLane := beq_iff_eq.mpr named
  simp only [begins] at once onLane
  exact ⟨lane, isDeclared, find?_eq_some_of_countP_le_one (Nat.le_of_eq once) listed onLane⟩

end SceneScript
