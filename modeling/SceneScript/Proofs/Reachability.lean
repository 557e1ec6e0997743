import Mathlib.Logic.Relation
import SceneScript.Graph.Reach
import SceneScript.Proofs.Scan

/-!
The worklist finds what it should. Marked ids are led to from the start, and once an id is taken
from the list everything it leads to is marked; with nothing left on the list the marked ids are
closed. Main statement: the ids reached are those that flow edges lead to, in any number of steps.
-/

namespace SceneScript

/-- One step along a flow edge, whether or not the ids are those of nodes. -/
def Graph.Leads (graph : Graph) (source target : String) : Prop :=
  ∃ edge ∈ graph.flowEdges, edge.source = source ∧ edge.target = target

namespace Reach

theorem mem_targets_iff {graph : Graph} {source target : String} :
    target ∈ targets (.ofGraph graph) source ↔ graph.Leads source target := by
  simp [targets, Graph.mem_outEdges_iff, Graph.Leads, and_assoc]

theorem mem_reached_enqueue_iff {work : Work} {target id : String} :
    id ∈ (enqueue work target).reached ↔ id = target ∨ id ∈ work.reached := by
  unfold enqueue
  split
  · rename_i marked
    constructor
    · exact Or.inr
    · rintro (rfl | old)
      · exact marked
      · exact old
  · exact List.mem_cons

theorem mem_pending_enqueue_iff {work : Work} {target id : String} :
    id ∈ (enqueue work target).pending ↔
      id ∈ work.pending ∨ (id = target ∧ id ∉ work.reached) := by
  unfold enqueue
  split
  · rename_i marked
    constructor
    · exact Or.inl
    · rintro (old | ⟨rfl, fresh⟩)
      · exact old
      · exact (fresh marked).elim
  · rename_i fresh
    rw [List.mem_append, List.mem_singleton]
    refine or_congr_right ⟨?_, And.left⟩
    rintro rfl
    exact ⟨rfl, fresh⟩

theorem mem_reached_scan_iff {found : List String} {work : Work} {id : String} :
    id ∈ (scan found work).reached ↔ id ∈ found ∨ id ∈ work.reached := by
  induction found generalizing work with
  | nil => simp [scan]
  | cons target rest ih =>
      rw [scan, ih, mem_reached_enqueue_iff, List.mem_cons, or_left_comm, or_assoc]

theorem mem_pending_scan_iff {found : List String} {work : Work} {id : String} :
    id ∈ (scan found work).pending ↔
      id ∈ work.pending ∨ (id ∈ found ∧ id ∉ work.reached) := by
  induction found generalizing work with
  | nil => simp [scan]
  | cons target rest ih =>
      rw [scan, ih, mem_pending_enqueue_iff, mem_reached_enqueue_iff, List.mem_cons]
      by_cases isTarget : id = target
      · simp [isTarget]
      · simp [isTarget]

structure Invariant (graph : Graph) (start : String) (work : Work) : Prop where
  begun : start ∈ work.reached
  led : ∀ id ∈ work.reached, Relation.ReflTransGen graph.Leads start id
  marked : ∀ id ∈ work.pending, id ∈ work.reached
  closed : ∀ source ∈ work.reached, source ∉ work.pending → ∀ target,
    graph.Leads source target → target ∈ work.reached

variable {graph : Graph} {start : String}

theorem invariant_begin : Invariant graph start ⟨[start], [start]⟩ where
  begun := List.mem_singleton_self start
  led := by
    intro id marked
    rw [List.mem_singleton.mp marked]
  marked id pending := pending
  closed := by
    intro source marked taken
    exact (taken marked).elim

/-- Taking an id from the list and marking what it leads to keeps the invariant. -/
theorem invariant_scan {source : String} {reached rest : List String}
    (holds : Invariant graph start ⟨reached, source :: rest⟩) :
    Invariant graph start (scan (targets (.ofGraph graph) source) ⟨reached, rest⟩) where
  begun := mem_reached_scan_iff.mpr (Or.inr holds.begun)
  led := by
    intro id marked
    rcases mem_reached_scan_iff.mp marked with new | old
    · have here := holds.led source (holds.marked source List.mem_cons_self)
      exact here.tail (mem_targets_iff.mp new)
    · exact holds.led id old
  marked := by
    intro id pending
    rcases mem_pending_scan_iff.mp pending with old | ⟨new, -⟩
    · exact mem_reached_scan_iff.mpr (Or.inr (holds.marked id (List.mem_cons_of_mem source old)))
    · exact mem_reached_scan_iff.mpr (Or.inl new)
  closed := by
    intro id marked taken target leads
    -- An id that is marked only now is put on the list, so one that is not there was marked before.
    have old : id ∈ reached := by
      by_contra fresh
      rcases mem_reached_scan_iff.mp marked with new | old
      · exact taken (mem_pending_scan_iff.mpr (Or.inr ⟨new, fresh⟩))
      · exact fresh old
    by_cases isSource : id = source
    · subst isSource
      exact mem_reached_scan_iff.mpr (Or.inl (mem_targets_iff.mpr leads))
    · have before : id ∉ source :: rest := by
        intro pending
        rcases List.mem_cons.mp pending with same | later
        · exact isSource same
        · exact taken (mem_pending_scan_iff.mpr (Or.inl later))
      exact mem_reached_scan_iff.mpr (Or.inr (holds.closed id old before target leads))

theorem mem_close_iff {work : Work} (holds : Invariant graph start work) {id : String} :
    id ∈ close (.ofGraph graph) work ↔ Relation.ReflTransGen graph.Leads start id := by
  induction work using close.induct (.ofGraph graph) with
  | case1 reached =>
      rw [close]
      constructor
      · exact holds.led id
      · intro led
        -- Nothing is left on the list, so no step leads away from the marked ids.
        induction led with
        | refl => exact holds.begun
        | tail _ leads ih => exact holds.closed _ ih List.not_mem_nil _ leads
  | case2 reached source rest ih =>
      rw [close]
      exact ih (invariant_scan holds)

end Reach

/-- The ids reached are the closure of the flow edges from the start. -/
theorem Index.mem_reachable_iff {graph : Graph} {start id : String} :
    id ∈ (Index.ofGraph graph).reachable start ↔
      Relation.ReflTransGen graph.Leads start id :=
  Reach.mem_close_iff Reach.invariant_begin

/-- Only where the flow edges lead matters to what is reached, not how the tables list them. -/
theorem Index.mem_reachable_of_leads {graph other : Graph} (leads : other.Leads = graph.Leads)
    (start id : String) :
    id ∈ (Index.ofGraph other).reachable start ↔ id ∈ (Index.ofGraph graph).reachable start := by
  rw [mem_reachable_iff, mem_reachable_iff, leads]

end SceneScript
