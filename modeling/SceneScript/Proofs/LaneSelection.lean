import Mathlib.Data.List.FinRange
import Mathlib.Data.List.Nodup
import Mathlib.Data.List.Perm.Subperm
import Mathlib.Data.Set.Function
import SceneScript.Proofs.LaneMatching
import SceneScript.Proofs.Walked

/-!
Which edge begins, or ends, which lane. Main statement: there is nothing to say about the lanes of a
fork or a join exactly when it declares none of them twice and the handles of its edges are the
handles of the declared lanes, one for one; and then the edges that the compiler takes for the lanes
of a fork, in the order in which they are declared, are all of its edges, each of them once.
-/

namespace SceneScript

universe u v

section Repetition

variable {α : Type u} [BEq α] [LawfulBEq α] {items : List α}

theorem nodup_eraseDups (items : List α) : items.eraseDups.Nodup := by
  match items with
  | [] => exact List.nodup_nil
  | item :: rest =>
      rw [List.eraseDups_cons]
      apply List.nodup_cons.mpr
      constructor
      · simp [List.mem_eraseDups]
      · exact nodup_eraseDups _
termination_by items.length
decreasing_by exact Nat.lt_succ_of_le (List.length_filter_le _ _)

theorem eraseDups_of_nodup (distinct : items.Nodup) : items.eraseDups = items := by
  induction items with
  | nil => rfl
  | cons item rest ih =>
      obtain ⟨fresh, distinct⟩ := List.nodup_cons.mp distinct
      have kept : rest.filter (fun other => !other == item) = rest := by
        rw [List.filter_eq_self]
        intro other member
        have apart : other ≠ item := fun same => fresh (same ▸ member)
        simp [apart]
      rw [List.eraseDups_cons, kept, ih distinct]

/-- Repetitions show in the length. -/
theorem length_eraseDups_iff : items.eraseDups.length = items.length ↔ items.Nodup := by
  constructor
  · intro same
    have within : items.eraseDups ⊆ items := fun _ => List.mem_eraseDups.mp
    have shuffled := ((nodup_eraseDups items).subperm within).perm_of_length_le same.ge
    exact shuffled.nodup_iff.mp (nodup_eraseDups items)
  · intro distinct
    rw [eraseDups_of_nodup distinct]

end Repetition

/-- To send the places of a list one for one onto some targets is to list the targets, each once. -/
theorem bijOn_places_iff {α : Type u} {β : Type v} {items : List α} {f : α → β} {targets : Set β} :
    Set.BijOn (fun place : Fin items.length => f items[place]) Set.univ targets ↔
      (items.map f).Nodup ∧ ∀ target, target ∈ items.map f ↔ target ∈ targets := by
  have places : items.map f = List.ofFn fun place : Fin items.length => f items[place] :=
    List.ext_getElem (by simp) (by simp)
  simp only [places, List.nodup_ofFn, List.mem_ofFn]
  constructor
  · rintro ⟨maps, injective, onto⟩
    refine ⟨Set.injOn_univ.mp injective, fun target => ⟨?_, fun isTarget => ?_⟩⟩
    · rintro ⟨place, rfl⟩
      exact maps trivial
    · obtain ⟨place, -, same⟩ := onto isTarget
      exact ⟨place, same⟩
  · rintro ⟨injective, listed⟩
    refine ⟨fun place _ => (listed _).mp ⟨place, rfl⟩, Set.injOn_univ.mpr injective, ?_⟩
    intro target isTarget
    obtain ⟨place, same⟩ := (listed target).mpr isTarget
    exact ⟨place, trivial, same⟩

namespace LaneEnd

/-- The role of the nodes that have this end of lanes. -/
def role : LaneEnd → Role
  | fork => .fork
  | join => .join

/-- The handles of an end of lanes match the declared lanes: no lane is declared twice, and the
edges have the handles of the declared lanes, one for one. -/
structure Matches (laneEnd : LaneEnd) (lanes : List String) (edges : List Edge) : Prop where
  distinct : lanes.Nodup
  handles : Set.BijOn (fun place : Fin edges.length => laneEnd.handle edges[place]) Set.univ
    {handle | ∃ lane ∈ lanes, handle = some (laneEnd.handleOf lane)}

/-- The edge that is taken for a lane: the first one with its handle. -/
def edgeFor (laneEnd : LaneEnd) (edges : List Edge) (lane : String) : Option Edge :=
  edges.find? fun edge => laneEnd.handle edge == some (laneEnd.handleOf lane)

variable {laneEnd : LaneEnd} {lanes : List String} {edges : List Edge}

theorem handleOf_injective : Function.Injective laneEnd.handleOf := by
  intro lane other same
  have dropped := Text.dropStart?_append laneEnd.mark lane
  rw [← handleOf, same, handleOf, Text.dropStart?_append] at dropped
  exact (Option.some.inj dropped).symm

theorem matches_iff : Matches laneEnd lanes edges ↔
    lanes.Nodup ∧ (edges.map laneEnd.handle).Nodup ∧
      ∀ handle, handle ∈ edges.map laneEnd.handle ↔
        ∃ lane ∈ lanes, handle = some (laneEnd.handleOf lane) := by
  constructor
  · rintro ⟨distinct, handles⟩
    exact ⟨distinct, bijOn_places_iff.mp handles⟩
  · rintro ⟨distinct, handles⟩
    exact ⟨distinct, bijOn_places_iff.mpr handles⟩

/-- Where the handles match, the edges taken for the lanes are all the edges, one for each lane. -/
theorem Matches.exists_order (fits : Matches laneEnd lanes edges) :
    ∃ order : List Edge, order.Perm edges ∧ lanes.map (laneEnd.edgeFor edges) = order.map some ∧
      order.map laneEnd.handle = lanes.map fun lane => some (laneEnd.handleOf lane) := by
  obtain ⟨distinct, handles, listed⟩ := matches_iff.mp fits
  have found : ∀ lane ∈ lanes, ∃ edge ∈ edges, laneEnd.edgeFor edges lane = some edge ∧
      laneEnd.handle edge = some (laneEnd.handleOf lane) := by
    intro lane declared
    obtain ⟨other, member, handle⟩ := List.mem_map.mp ((listed _).mpr ⟨lane, declared, rfl⟩)
    obtain ⟨edge, taken⟩ : ∃ edge, laneEnd.edgeFor edges lane = some edge :=
      Option.isSome_iff_exists.mp (List.find?_isSome.mpr ⟨other, member, beq_iff_eq.mpr handle⟩)
    exact ⟨edge, List.mem_of_find?_eq_some taken, taken, by simpa using List.find?_some taken⟩
  have : Nonempty Edge := ⟨{ id := "", source := "", target := "" }⟩
  choose! pick inEdges taken named using found
  have handlesOf : (lanes.map pick).map laneEnd.handle =
      lanes.map fun lane => some (laneEnd.handleOf lane) := by
    rw [List.map_map]
    exact List.map_congr_left named
  refine ⟨lanes.map pick, ?_, ?_, handlesOf⟩
  · have once : (lanes.map fun lane => some (laneEnd.handleOf lane)).Nodup :=
      distinct.map fun _ _ same => handleOf_injective (Option.some.inj same)
    rw [List.perm_ext_iff_of_nodup (.of_map _ (handlesOf ▸ once)) (.of_map _ handles)]
    intro edge
    constructor
    · intro picked
      obtain ⟨lane, declared, rfl⟩ := List.mem_map.mp picked
      exact inEdges lane declared
    · intro member
      -- No other edge has the handle of this one, so it is the one picked for its lane.
      obtain ⟨lane, declared, handle⟩ := (listed _).mp (List.mem_map_of_mem member)
      have same := List.inj_on_of_nodup_map handles member (inEdges lane declared)
        (handle.trans (named lane declared).symm)
      exact same ▸ List.mem_map_of_mem declared
  · rw [List.map_map]
    exact List.map_congr_left taken

end LaneEnd

namespace Report

variable {laneEnd : LaneEnd} {lanes : List String} {edges : List Edge}

/-- There is nothing to say about lanes exactly when the handles match them. -/
theorem laneProblems_eq_nil_iff :
    laneProblems laneEnd lanes edges = [] ↔ laneEnd.Matches lanes edges := by
  have repeated : (if lanes.eraseDups.length ≠ lanes.length then [LaneProblem.repeatedIds] else []) =
      [] ↔ lanes.Nodup := by
    rw [← length_eraseDups_iff]
    simp
  have used (lane : String) : (edges.filterMap laneEnd.laneOf?).count lane =
      (edges.map laneEnd.handle).count (some (laneEnd.handleOf lane)) := by
    rw [List.count_filterMap, List.count, List.countP_map]
    apply List.countP_congr
    intro edge _
    simp [LaneEnd.laneOf?_eq_some_iff]
  simp only [laneProblems, List.append_eq_nil_iff, repeated, List.filterMap_eq_nil_iff,
    handleProblem?_eq_none_iff, laneProblem?_eq_none_iff, List.mem_eraseDups,
    LaneEnd.laneOf?_eq_some_iff, used, LaneEnd.matches_iff, and_assoc]
  refine and_congr_right fun distinct => ?_
  constructor
  · rintro ⟨handles, counts⟩
    have ofLane : ∀ handle ∈ edges.map laneEnd.handle,
        ∃ lane ∈ lanes, handle = some (laneEnd.handleOf lane) := by
      intro handle member
      obtain ⟨edge, listed, rfl⟩ := List.mem_map.mp member
      exact handles edge listed
    constructor
    · rw [List.nodup_iff_count_le_one]
      intro handle
      by_cases member : handle ∈ edges.map laneEnd.handle
      · obtain ⟨lane, declared, rfl⟩ := ofLane handle member
        exact Nat.le_of_eq (counts lane declared)
      · rw [List.count_eq_zero_of_not_mem member]
        exact Nat.zero_le 1
    · intro handle
      refine ⟨ofLane handle, ?_⟩
      rintro ⟨lane, declared, rfl⟩
      exact List.count_pos_iff.mp (counts lane declared ▸ Nat.one_pos)
  · rintro ⟨once, listed⟩
    constructor
    · intro edge member
      exact (listed _).mp (List.mem_map_of_mem member)
    · intro lane declared
      exact List.count_eq_one_of_mem once ((listed _).mpr ⟨lane, declared, rfl⟩)

end Report

namespace Compile

/-- The lanes that the given edges begin, one after the other. A lane with nothing to do is left
out. -/
def lanesAlong (settings : Settings) (graph : Graph)
    (walk : String → Except CompileError (List Action)) (order : List Edge) :
    Except CompileError (List (List Action)) := do
  let groups ← order.mapM (along settings (.ofGraph graph) walk)
  .ok ((order.zip groups).filterMap fun (edge, actions) =>
    if actions.isEmpty then none else some (guardLane settings edge actions))

/-- However they are walked, the lanes of a fork are those that the given edges begin. -/
def TakesLanes (settings : Settings) (graph : Graph) (fork : Node) (order : List Edge) : Prop :=
  ∀ walk, lanes settings (.ofGraph graph) walk ((Index.ofGraph graph).outEdges fork.id)
    fork.laneIds.eraseDups = lanesAlong settings graph walk order

variable {settings : Settings} {graph : Graph} {walk : String → Except CompileError (List Action)}

/-- The lanes of a fork are walked along the edges taken for them, and only along these. -/
theorem lanes_eq_of_order {fork : String} {ids : List String} {order : List Edge}
    (taken : ids.map (LaneEnd.fork.edgeFor (graph.outEdges fork)) = order.map some) :
    lanes settings (.ofGraph graph) walk (graph.outEdges fork) ids =
      lanesAlong settings graph walk order := by
  induction ids generalizing order with
  | nil =>
      obtain rfl := List.map_eq_nil_iff.mp taken.symm
      rfl
  | cons id rest ih =>
      obtain ⟨edge, others, rfl, first, later⟩ := List.map_eq_cons_iff.mp taken.symm
      rw [lanes_cons_of_some first.symm, ih later.symm, lanesAlong, lanesAlong, List.mapM_cons]
      cases along settings (.ofGraph graph) walk edge with
      | error error => rfl
      | ok actions =>
          cases others.mapM (along settings (.ofGraph graph) walk) with
          | error error => rfl
          | ok groups =>
              by_cases empty : actions = [] <;>
                simp [bind, Except.bind, pure, Except.pure, empty]

end Compile

/-- The flow edges at an end of lanes: those out of a fork, or those into a join. -/
def Graph.edgesAt (graph : Graph) (laneEnd : LaneEnd) (id : String) : List Edge :=
  match laneEnd with
  | .fork => graph.outEdges id
  | .join => graph.flowEdges.filter fun edge => edge.target = id

namespace Report

variable {graph : Graph} {node : Node} {laneEnd : LaneEnd}

/-- The findings about the lanes of a node are its lane problems. -/
theorem lane_mem_pairFindings_iff (role : node.role = laneEnd.role) {problem : LaneProblem} :
    .lane laneEnd node.id problem ∈ pairFindings (.ofGraph graph) node ↔
      problem ∈ laneProblems laneEnd node.laneIds (graph.edgesAt laneEnd node.id) := by
  cases laneEnd with
  | fork =>
      have linked : .lane .fork node.id problem ∉ joinLinkFindings (.ofGraph graph) node := by
        unfold joinLinkFindings
        grind
      simp only [LaneEnd.role] at role
      simp [pairFindings, role, linked, laneFindings, Graph.edgesAt]
  | join =>
      have linked : .lane .join node.id problem ∉ forkLinkFindings (.ofGraph graph) node := by
        unfold forkLinkFindings
        grind
      simp only [LaneEnd.role] at role
      simp [pairFindings, role, linked, laneFindings, Graph.edgesAt, Index.inEdges_ofGraph]

/-- There is nothing to say about the lanes of a fork or a join exactly when the handles of its
edges match the declared lanes. The edges taken for the lanes of a fork are then all of its edges,
each once, in the order in which their lanes are declared. -/
theorem silent_on_lanes_iff (role : node.role = laneEnd.role) :
    ((∀ problem, .lane laneEnd node.id problem ∉ pairFindings (.ofGraph graph) node) ↔
        laneEnd.Matches node.laneIds (graph.edgesAt laneEnd node.id)) ∧
      (laneEnd.Matches node.laneIds (graph.edgesAt laneEnd node.id) →
        ∃ order : List Edge, order.Perm (graph.edgesAt laneEnd node.id) ∧
          order.map laneEnd.handle =
            (node.laneIds.map fun lane => some (laneEnd.handleOf lane)) ∧
          (laneEnd = .fork → ∀ settings, Compile.TakesLanes settings graph node order)) := by
  constructor
  · simp only [lane_mem_pairFindings_iff role, ← List.eq_nil_iff_forall_not_mem,
      laneProblems_eq_nil_iff]
  · intro fits
    obtain ⟨order, shuffled, taken, named⟩ := fits.exists_order
    refine ⟨order, shuffled, named, ?_⟩
    rintro rfl settings walk
    rw [eraseDups_of_nodup fits.distinct, Index.outEdges_scan]
    exact Compile.lanes_eq_of_order taken

def duetFork : Node where
  id := "p"
  type := "parallel_start"
  params := [("joinId", .str "j"), ("branches", .arr [.str "left", .int 2])]

def duetJoin : Node where
  id := "j"
  type := "parallel_join"
  params := [("pairId", .str "p"), ("branches", .arr [.str "left", .int 2])]

/-- The edges of the fork are listed against the order of its lanes, one of which is named by a
number. Both lanes come into the join on the handle of the same lane. -/
def duetScene : Graph where
  nodes := [
    { id := "s", type := "start" },
    duetFork,
    { id := "a", type := "walk" },
    { id := "b", type := "talk" },
    duetJoin,
    { id := "z", type := "end" }]
  edges := [
    { id := "e1", source := "s", target := "p" },
    { id := "e2", source := "p", target := "b", sourceHandle := some "out_2" },
    { id := "e3", source := "p", target := "a", sourceHandle := some "out_left" },
    { id := "e4", source := "p", target := "j", sourceHandle := some "__pair" },
    { id := "e5", source := "a", target := "j", targetHandle := some "in_left" },
    { id := "e6", source := "b", target := "j", targetHandle := some "in_left" },
    { id := "e7", source := "j", target := "z" }]

theorem silent_on_lanes_iff_duetScene :
    (duetFork.role = LaneEnd.fork.role ∧
        LaneEnd.fork.Matches duetFork.laneIds (duetScene.outEdges "p") ∧
        ∃ order : List Edge, order.Perm (duetScene.outEdges "p") ∧
          order.map Edge.sourceHandle = [some "out_left", some "out_2"] ∧
          ∀ settings, Compile.TakesLanes settings duetScene duetFork order) ∧
      (duetJoin.role = LaneEnd.join.role ∧
        ¬ LaneEnd.join.Matches duetJoin.laneIds (duetScene.edgesAt .join "j")) := by
  have isFork : duetFork.role = LaneEnd.fork.role := by rfl
  have isJoin : duetJoin.role = LaneEnd.join.role := by rfl
  obtain ⟨silent, selected⟩ := @silent_on_lanes_iff duetScene duetFork .fork isFork
  have findings : pairFindings (.ofGraph duetScene) duetFork = [] := by
    with_unfolding_all rfl
  have fits := silent.mp (by simp [findings])
  obtain ⟨order, shuffled, named, taken⟩ := selected fits
  refine ⟨⟨isFork, fits, order, shuffled, named, taken rfl⟩, isJoin, fun joined => ?_⟩
  apply (silent_on_lanes_iff isJoin).1.mpr joined (.unused "2")
  rw [lane_mem_pairFindings_iff isJoin]
  decide +kernel

end Report

end SceneScript
