import SceneScript.Graph.Index
import SceneScript.Graph.Unseen

/-!
The ids that flow edges lead to from a node, found with a worklist. An id is marked before it is
put on the list, so it is taken from there once, whether or not a node has it.
-/

namespace SceneScript

namespace Reach

structure Work where
  reached : List String
  pending : List String

def enqueue (work : Work) (target : String) : Work :=
  if target ∈ work.reached then work
  else { reached := target :: work.reached, pending := work.pending ++ [target] }

def scan : List String → Work → Work
  | [], work => work
  | target :: rest, work => scan rest (enqueue work target)

def targets (index : Index) (source : String) : List String :=
  (index.outEdges source).map Edge.target

def allTargets (index : Index) : List String :=
  index.outgoing.flatMap fun entry => entry.2.map Edge.target

/-- Each target adds to the list at most once, so this never grows. -/
def weight (all : List String) (work : Work) : Nat :=
  unseen all work.reached + work.pending.length

theorem targets_subset (index : Index) (source target : String)
    (found : target ∈ targets index source) : target ∈ allTargets index := by
  obtain ⟨edge, led, rfl⟩ := List.mem_map.1 found
  obtain ⟨entry, stored, held⟩ := Table.mem_group led
  exact List.mem_flatMap.2 ⟨entry, stored, List.mem_map.2 ⟨edge, held, rfl⟩⟩

theorem enqueue_weight {all : List String} {target : String} (listed : target ∈ all)
    (work : Work) : weight all (enqueue work target) ≤ weight all work := by
  unfold enqueue
  split
  · exact Nat.le_refl _
  · rename_i fresh
    have fewer := unseen_cons_lt listed fresh
    simp only [weight, List.length_append, List.length_singleton]
    omega

theorem scan_weight {all : List String} (found : List String) (work : Work)
    (listed : ∀ target ∈ found, target ∈ all) :
    weight all (scan found work) ≤ weight all work := by
  induction found generalizing work with
  | nil => exact Nat.le_refl _
  | cons target rest ih =>
    exact Nat.le_trans (ih (enqueue work target) fun other h => listed other (.tail _ h))
      (enqueue_weight (listed target (.head _)) work)

def close (index : Index) (work : Work) : List String :=
  match work with
  | ⟨reached, []⟩ => reached
  | ⟨reached, source :: rest⟩ => close index (scan (targets index source) ⟨reached, rest⟩)
termination_by weight (allTargets index) work
decreasing_by
  have := scan_weight (targets index source) ⟨reached, rest⟩ (targets_subset index source)
  simp only [weight, List.length_cons] at this ⊢
  omega

end Reach

/-- The ids reached from a node along flow edges, its own included. -/
def Index.reachable (index : Index) (start : String) : List String :=
  Reach.close index { reached := [start], pending := [start] }

end SceneScript
