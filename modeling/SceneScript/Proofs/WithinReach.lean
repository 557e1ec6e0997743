import SceneScript.Proofs.Cycle
import SceneScript.Proofs.Topics
import SceneScript.Proofs.Visits

/-!
What a walk enters against what the report takes to be within reach. The walk jumps from a fork to
the join that its parameter names; the report follows flow edges only. They agree because every lane
that is walked leads to the join edge by edge. Main statement: what is entered is within reach, if
each fork that is entered has an edge for one of its lanes, and so the report calls none of it cut
off; in any case it is linked to from the start.
-/

namespace SceneScript

open Relation

/-- Says of a node that the scene does not come to it. -/
def Finding.isOfSeclusion : Finding → Bool
  | disconnected _ _ | noIncoming _ _ | unreachable _ _ => true
  | _ => false

namespace Report

variable {graph : Graph} {settings : Settings} {report : Report} {finding : Finding} {start : Node}

/-- Where no two nodes share an id, what is within reach of the only start has another node before
it, or is the start itself. -/
theorem not_isCutOff_of_reached (unique : graph.UniqueIds)
    (only : graph.withRole .start = [start]) {node : Node} (listed : node ∈ graph.nodes)
    (reached : ReflTransGen graph.Leads start.id node.id) :
    isCutOff (.ofGraph graph) node = false := by
  obtain ⟨isListed, role⟩ := List.mem_filter.mp
    (only ▸ List.mem_singleton_self start : start ∈ graph.withRole .start)
  rcases reached.cases_tail with same | ⟨before, -, edge, flows, -, target⟩
  · have isStart : node.role = .start := by
      rw [Graph.eq_of_id_eq unique listed isListed same]
      exact beq_iff_eq.mp role
    simp [isCutOff, isStart]
  · have entered : (Index.ofGraph graph).inEdges node.id ≠ [] := by
      rw [Index.inEdges_ofGraph]
      exact List.ne_nil_of_mem (List.mem_filter.mpr ⟨flows, by simpa using target⟩)
    simp [isCutOff, entered]

theorem secluded_of_edgeCount {index : Index} {node : Node}
    (found : finding ∈ edgeCountFindings index node) (secluded : finding.isOfSeclusion = true) :
    isCutOff index node = true ∧ finding.nodeId? = some node.id := by
  unfold edgeCountFindings at found
  grind [Finding.isOfSeclusion, Finding.nodeId?]

theorem missed_of_reachFindings (only : graph.withRole .start = [start])
    (found : finding ∈ reachFindings (.ofGraph graph)) (secluded : finding.isOfSeclusion = true) :
    ∃ node : Node, finding.nodeId? = some node.id ∧
      ¬ ReflTransGen graph.Leads start.id node.id := by
  have same : (Index.ofGraph graph).graph = graph := rfl
  simp only [reachFindings, same, only, List.mem_append] at found
  rcases found with far | endless
  · obtain ⟨node, missed, rfl⟩ := List.mem_map.mp far
    have unmarked := (List.mem_filter.mp missed).2
    simp only [Index.mem_reachable_iff, Bool.and_eq_true, decide_eq_true_eq] at unmarked
    exact ⟨node, rfl, unmarked.1⟩
  · split at endless
    · rw [List.mem_singleton.mp endless] at secluded
      cases secluded
    · cases endless

/-- No finding says of what is within reach that it is not. -/
theorem not_isOfSeclusion_of_reached (unique : graph.UniqueIds)
    (only : graph.withRole .start = [start]) (reported : ofGraph settings graph = .ok report)
    (found : finding ∈ report.findings) {id : String} (about : finding.nodeId? = some id)
    (reached : ReflTransGen graph.Leads start.id id) : finding.isOfSeclusion = false := by
  rw [← Bool.not_eq_true]
  intro secluded
  rw [mem_findings_iff_isOf reported] at found
  cases topic : finding.topic with
  | edgeCounts =>
      rw [topic] at found
      obtain ⟨node, listed, given⟩ := found
      obtain ⟨cutOff, named⟩ := secluded_of_edgeCount given secluded
      cases about.symm.trans named
      rw [not_isCutOff_of_reached unique only listed reached] at cutOff
      cases cutOff
  | reach =>
      rw [topic] at found
      obtain ⟨node, named, missed⟩ := missed_of_reachFindings only found secluded
      cases about.symm.trans named
      exact missed reached
  | _ => cases finding <;> simp [Finding.isOfSeclusion, Finding.topic] at secluded topic

end Report

namespace Compile

variable {graph : Graph} {settings : Settings} {actions : List Action} {config : Config}

/-- A lane that is clear leads to the join of its fork, edge by edge. -/
theorem leads_to_join {path : List String} {fork id : String} {node : Node}
    (clear : Clear graph path (.inLane fork id)) (found : graph.nodeAt? fork = some node) :
    ReflTransGen graph.Leads id (node.textParam "joinId") := by
  generalize place : Config.inLane fork id = config at clear
  -- A lane that never came to its join would come to a node for the second time.
  induction clear generalizing id with
  | intro fresh sound ahead ih =>
      subst place
      obtain ⟨⟨-, -, -, one⟩, -⟩ := sound
      obtain ⟨edge, way⟩ := List.length_eq_one_iff.mp one
      have follows : Follows graph (.inLane fork id) edge :=
        .inLane (way ▸ List.mem_singleton_self edge)
      have leads : graph.Leads id edge.target := leads_of_follows follows
      by_cases atJoin : edge.target = node.textParam "joinId"
      · exact .single (atJoin ▸ leads)
      · exact .head leads (ih _ (.inLane found follows atJoin) rfl)

/-- Every fork that the walk enters has an edge for one of the lanes that it declares. -/
def LanesBegin (settings : Settings) (graph : Graph) : Prop :=
  ∀ fork node, Enters settings graph fork → graph.nodeAt? fork = some node → node.role = .fork →
    ∃ lane ∈ node.laneIds, ∃ edge ∈ graph.outEdges fork, edge.sourceHandle = some ("out_" ++ lane)

section Compiled

variable (compiled : compile settings graph = .ok actions)

include compiled

/-- From a fork with a lane, flow edges lead to the join. -/
theorem leads_from_fork {fork : String} {node : Node} (visited : Visited graph (.plain fork))
    (found : graph.nodeAt? fork = some node) (role : node.role = .fork)
    (begin : ∃ lane ∈ node.laneIds, ∃ edge ∈ graph.outEdges fork,
      edge.sourceHandle = some ("out_" ++ lane)) :
    ReflTransGen graph.Leads fork (node.textParam "joinId") := by
  obtain ⟨lane, declared, other, listed, handle⟩ := begin
  obtain ⟨edge, begins⟩ : ∃ edge, graph.laneEdge fork lane = some edge := by
    rw [← Option.isSome_iff_exists, Graph.laneEdge, List.find?_isSome]
    exact ⟨other, listed, beq_iff_eq.mpr handle⟩
  have follows : Follows graph (.plain fork) edge := .lane lane found role declared begins
  have leads : graph.Leads fork edge.target := leads_of_follows follows
  by_cases atJoin : edge.target = node.textParam "joinId"
  · exact .single (atJoin ▸ leads)
  · obtain ⟨path, clear⟩ :=
      clear_of_visited compiled (visited.step (.intoLane found role follows atJoin))
    exact .head leads (leads_to_join clear found)

/-- Whatever is visited is linked to from the start, for a walk goes along links. -/
theorem linked_of_visited (visited : Visited graph config) :
    ∃ start, graph.withRole .start = [start] ∧ ReflTransGen graph.Links start.id config.node := by
  obtain ⟨start, only, reached⟩ := visited
  refine ⟨start, only, ?_⟩
  induction reached with
  | refl => exact .refl
  | tail before step ih =>
      have sound := sound_of_visited compiled ⟨start, only, before⟩
      exact ih.tail (links_of_next sound.fits step)

theorem led_of_visited (begin : LanesBegin settings graph) (visited : Visited graph config) :
    ∃ start, graph.withRole .start = [start] ∧ ReflTransGen graph.Leads start.id config.node := by
  obtain ⟨start, only, reached⟩ := visited
  refine ⟨start, only, ?_⟩
  induction reached with
  | refl => exact .refl
  | tail before step ih =>
      cases step with
      | join found role =>
          have atFork : Visited graph _ := ⟨start, only, before⟩
          have entered := (enters_iff_visited compiled).mpr ⟨_, atFork, rfl⟩
          exact ih.trans
            (leads_from_fork compiled atFork found role (begin _ _ entered found role))
      | pass _ _ follows | intoLane _ _ follows _ | resume follows | inLane _ follows _ =>
          exact ih.tail (leads_of_follows follows)

end Compiled

/-- What the walk enters is linked to from the start. Where each fork that it enters has an edge for
one of its lanes, it is within the reach that the report finds, and no finding says otherwise. -/
theorem entered_within_reach (compiled : compile settings graph = .ok actions) :
    ∃ start, graph.withRole .start = [start] ∧
      (∀ id, Enters settings graph id → ReflTransGen graph.Links start.id id) ∧
      (LanesBegin settings graph → ∀ id, Enters settings graph id →
        id ∈ (Index.ofGraph graph).reachable start.id ∧
          (graph.UniqueIds → ∀ others report, Report.ofGraph others graph = .ok report →
            ∀ finding ∈ report.findings, finding.nodeId? = some id →
              finding.isOfSeclusion = false)) := by
  obtain ⟨start, only, -⟩ := compile_eq_ok_iff.mp compiled
  refine ⟨start, only, ?_, ?_⟩
  · intro id entered
    obtain ⟨config, visited, rfl⟩ := (enters_iff_visited compiled).mp entered
    obtain ⟨other, again, linked⟩ := linked_of_visited compiled visited
    cases only.symm.trans again
    exact linked
  · intro begin id entered
    obtain ⟨config, visited, rfl⟩ := (enters_iff_visited compiled).mp entered
    obtain ⟨other, again, led⟩ := led_of_visited compiled begin visited
    cases only.symm.trans again
    refine ⟨Index.mem_reachable_iff.mpr led, ?_⟩
    intro unique others report reported finding found about
    exact Report.not_isOfSeclusion_of_reached unique only reported found about led

theorem lanesBegin_wovenScene : LanesBegin {} wovenScene := by
  intro fork node _ found role
  have begin : ∀ node ∈ wovenScene.nodes, node.role = .fork → ∃ lane ∈ node.laneIds,
      ∃ edge ∈ wovenScene.outEdges node.id, edge.sourceHandle = some ("out_" ++ lane) := by
    decide
  obtain ⟨listed, rfl⟩ := Graph.mem_of_nodeAt? found
  exact begin node listed role

theorem entered_within_reach_wovenScene :
    ∃ actions start, compile {} wovenScene = .ok actions ∧ wovenScene.UniqueIds ∧
      LanesBegin {} wovenScene ∧ wovenScene.withRole .start = [start] ∧
      Enters {} wovenScene "k" ∧
      ∀ id, Enters {} wovenScene id → ReflTransGen wovenScene.Links start.id id ∧
        id ∈ (Index.ofGraph wovenScene).reachable start.id ∧
        ∀ others report, Report.ofGraph others wovenScene = .ok report →
          ∀ finding ∈ report.findings, finding.nodeId? = some id →
            finding.isOfSeclusion = false := by
  have unique : wovenScene.UniqueIds := ⟨by decide, by decide⟩
  obtain ⟨actions, compiled⟩ : ∃ actions, compile {} wovenScene = .ok actions :=
    ⟨_, by with_unfolding_all rfl⟩
  have inLane : Enters {} wovenScene "k" := ⟨_, true, rfl, by with_unfolding_all rfl⟩
  obtain ⟨start, only, linked, reached⟩ := entered_within_reach compiled
  refine ⟨actions, start, compiled, unique, lanesBegin_wovenScene, only, inLane, ?_⟩
  intro id entered
  obtain ⟨within, silent⟩ := reached lanesBegin_wovenScene id entered
  exact ⟨linked id entered, within, silent unique⟩

end Compile

end SceneScript
