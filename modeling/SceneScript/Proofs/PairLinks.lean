import SceneScript.Proofs.Reachability
import SceneScript.Proofs.Sharing
import SceneScript.Proofs.Topics

/-!
Links that only tie a fork to its join. They stand among the edges of a graph and are no way from
one node to another. Main statement: without such a link a graph compiles to the same actions or to
the same error, and its report loses what it said of that link and nothing else.
-/

namespace SceneScript

namespace Graph

variable {graph : Graph} {edge : Edge}

/-- The graph without the edges of an id. -/
def without (graph : Graph) (id : String) : Graph :=
  { graph with edges := graph.edges.filter fun edge => edge.id != id }

/-- The flow edges stay when a link that is none of them is taken out. -/
theorem flowEdges_without (unique : graph.UniqueIds) (listed : edge ∈ graph.edges)
    (pair : edge.isPairLink = true) : (graph.without edge.id).flowEdges = graph.flowEdges := by
  rw [flowEdges, without, List.filter_filter, flowEdges]
  apply List.filter_congr
  intro other member
  by_cases same : other.id = edge.id
  · rw [List.inj_on_of_nodup_map unique.2 member listed same]
    simp [pair]
  · simp [same]

end Graph

namespace Report

variable {graph : Graph} {settings : Settings} {report : Report} {finding : Finding} {id : String}

/-- The findings that are not about the edges of an id. -/
def besides (id : String) (findings : List Finding) : List Finding :=
  findings.filter fun finding => finding.edgeId? != some id

@[simp]
theorem besides_append (first second : List Finding) :
    besides id (first ++ second) = besides id first ++ besides id second :=
  List.filter_append first second

theorem besides_eq_self {findings : List Finding}
    (other : ∀ finding ∈ findings, finding.edgeId? ≠ some id) : besides id findings = findings := by
  rw [besides, List.filter_eq_self]
  intro finding member
  exact bne_iff_ne.mpr (other finding member)

/-- Only forks, joins and edges give findings about edges. -/
theorem edgeId?_eq_none_of_topic (pairs : finding.topic ≠ .pairs)
    (references : finding.topic ≠ .references) (guards : finding.topic ≠ .guards) :
    finding.edgeId? = none := by
  cases finding with
  | noFork | unknownFork | wrongFork | lanesDiffer | noJoin | unknownJoin | wrongJoin | lane =>
      exact (pairs rfl).elim
  | unknownSource | unknownTarget | negativeWait => exact (references rfl).elim
  | guard => exact (guards rfl).elim
  | _ => rfl

/-- A lane is at fault for an edge only if that edge is at its end. -/
theorem edgeId?_laneProblems {laneEnd : LaneEnd} {lanes : List String} {edges : List Edge}
    {problem : LaneProblem} (found : problem ∈ laneProblems laneEnd lanes edges)
    (about : problem.edgeId? = some id) : ∃ edge ∈ edges, edge.id = id := by
  simp only [laneProblems, List.mem_append, List.mem_filterMap] at found
  rcases found with (repeated | ⟨edge, listed, handle⟩) | ⟨lane, -, counted⟩
  · split at repeated
    · rw [List.mem_singleton.mp repeated] at about
      cases about
    · cases repeated
  · refine ⟨edge, listed, ?_⟩
    unfold handleProblem? at handle
    grind [LaneProblem.edgeId?]
  · unfold laneProblem? at counted
    grind [LaneProblem.edgeId?]

theorem edgeId?_pairFindings {node : Node} (found : finding ∈ pairFindings (.ofGraph graph) node)
    (about : finding.edgeId? = some id) : ∃ edge ∈ graph.flowEdges, edge.id = id := by
  have ofLanes {laneEnd : LaneEnd} {edges : List Edge}
      (inLane : finding ∈ laneFindings laneEnd node edges) : ∃ edge ∈ edges, edge.id = id := by
    obtain ⟨problem, member, rfl⟩ := List.mem_map.mp inLane
    exact edgeId?_laneProblems member about
  unfold pairFindings at found
  split at found
  · rcases List.mem_append.mp found with link | inLane
    · unfold joinLinkFindings at link
      grind [Finding.edgeId?]
    · obtain ⟨edge, listed, same⟩ := ofLanes inLane
      rw [Index.outEdges_scan] at listed
      exact ⟨edge, (Graph.mem_outEdges_iff.mp listed).1, same⟩
  · rcases List.mem_append.mp found with link | inLane
    · unfold forkLinkFindings at link
      grind [Finding.edgeId?]
    · obtain ⟨edge, listed, same⟩ := ofLanes inLane
      rw [Index.inEdges_ofGraph] at listed
      exact ⟨edge, (List.mem_filter.mp listed).1, same⟩
  · cases found

theorem edgeId?_edgeFindings {index : Index} {edge : Edge}
    (found : finding ∈ edgeFindings index edge) : finding.edgeId? = some edge.id := by
  rcases List.mem_append.mp found with dangling | waits
  · unfold danglingEnds at dangling
    grind [Finding.edgeId?]
  · cases waited : waitFindings edge with
    | error fault =>
        rw [waited] at waits
        cases waits
    | ok found =>
        rw [waited] at waits
        obtain ⟨shown, rfl⟩ := eq_negativeWait waited waits
        rfl

theorem edgeId?_guardFindings {mark : String} {names : List String} {edge : Edge}
    (found : finding ∈ guardFindings mark names edge) : finding.edgeId? = some edge.id := by
  obtain ⟨problem, -, rfl⟩ := List.mem_map.mp found
  rfl

/-- Where every finding is about the edge that it was found at, to leave an edge out is to leave
out what is found at it. -/
theorem besides_flatMap {topic : Edge → List Finding}
    (about : ∀ edge, ∀ finding ∈ topic edge, finding.edgeId? = some edge.id) (edges : List Edge) :
    besides id (edges.flatMap topic) = (edges.filter fun edge => edge.id != id).flatMap topic := by
  induction edges with
  | nil => rfl
  | cons edge rest ih =>
      rw [List.flatMap_cons, besides_append, ih]
      by_cases out : edge.id = id
      · have none : besides id (topic edge) = [] := by
          rw [besides, List.filter_eq_nil_iff]
          intro finding member
          simp [about edge finding member, out]
        simp [none, out]
      · have all : besides id (topic edge) = topic edge := by
          apply besides_eq_self
          intro finding member
          simp [about edge finding member, out]
        simp [all, out]

section Flow

variable (flow : (graph.without id).flowEdges = graph.flowEdges)

include flow

/-- The tables are made of the flow edges alone. -/
theorem index_without : Index.ofGraph (graph.without id) =
    { Index.ofGraph graph with graph := graph.without id } := by
  rw [Index.ofGraph, flow]
  rfl

theorem reachFindings_without :
    reachFindings (.ofGraph (graph.without id)) = reachFindings (.ofGraph graph) := by
  have leads : (graph.without id).Leads = graph.Leads := by
    funext source target
    rw [Graph.Leads, flow, Graph.Leads]
  have cutOff (node : Node) :
      isCutOff (.ofGraph (graph.without id)) node = isCutOff (.ofGraph graph) node := by
    rw [index_without flow]
    rfl
  simp only [reachFindings, Index.mem_reachable_of_leads leads, cutOff]
  rfl

end Flow

/-- What is not of a topic of edges stays. -/
theorem besides_of_topic {topic : Topic} {findings : List Finding}
    (ofTopic : ∀ finding ∈ findings, finding.topic = topic) (pairs : topic ≠ .pairs)
    (references : topic ≠ .references) (guards : topic ≠ .guards) :
    besides id findings = findings := by
  apply besides_eq_self
  intro finding member
  obtain rfl := ofTopic finding member
  simp [edgeId?_eq_none_of_topic pairs references guards]

theorem besides_flatMap_of_topic {topic : Topic} {topicOf : Node → List Finding}
    (ofTopic : ∀ node, ∀ finding ∈ topicOf node, finding.topic = topic) (pairs : topic ≠ .pairs)
    (references : topic ≠ .references) (guards : topic ≠ .guards) :
    besides id (graph.nodes.flatMap topicOf) = graph.nodes.flatMap topicOf := by
  refine besides_of_topic (fun finding member => ?_) pairs references guards
  obtain ⟨node, -, found⟩ := List.mem_flatMap.mp member
  exact ofTopic node finding found

/-- The findings about lanes are about flow edges, so never about a pair link. -/
theorem besides_pairFindings (unique : graph.UniqueIds) {edge : Edge} (listed : edge ∈ graph.edges)
    (pair : edge.isPairLink = true) :
    besides edge.id (graph.nodes.flatMap (pairFindings (.ofGraph graph))) =
      graph.nodes.flatMap (pairFindings (.ofGraph graph)) := by
  apply besides_eq_self
  intro finding member about
  obtain ⟨node, -, found⟩ := List.mem_flatMap.mp member
  obtain ⟨other, flows, same⟩ := edgeId?_pairFindings found about
  obtain ⟨otherListed, proper⟩ := Graph.mem_flowEdges_iff.mp flows
  rw [List.inj_on_of_nodup_map unique.2 otherListed listed same, pair] at proper
  cases proper

/-- What is found without a pair link is what was found, but for what is about that link. -/
theorem allFindings_without (unique : graph.UniqueIds) {edge : Edge} (listed : edge ∈ graph.edges)
    (pair : edge.isPairLink = true) :
    allFindings settings (graph.without edge.id) =
      besides edge.id (allFindings settings graph) := by
  have flow := Graph.flowEdges_without unique listed pair
  have names : besides edge.id (nameFindings graph) = nameFindings graph :=
    besides_of_topic (fun _ => topic_nameFindings) nofun nofun nofun
  have ends : besides edge.id (endFindings graph) = endFindings graph :=
    besides_of_topic (fun _ => topic_endFindings) nofun nofun nofun
  have counts : besides edge.id (graph.nodes.flatMap (edgeCountFindings (.ofGraph graph))) =
      graph.nodes.flatMap (edgeCountFindings (.ofGraph graph)) :=
    besides_flatMap_of_topic (fun _ _ => topic_edgeCountFindings) nofun nofun nofun
  have params : besides edge.id (graph.nodes.flatMap (paramFindings (.ofGraph graph))) =
      graph.nodes.flatMap (paramFindings (.ofGraph graph)) :=
    besides_flatMap_of_topic (fun _ _ => topic_paramFindings) nofun nofun nofun
  have reach : besides edge.id (reachFindings (.ofGraph graph)) = reachFindings (.ofGraph graph) :=
    besides_of_topic (fun _ => topic_reachFindings) nofun nofun nofun
  have guards : besides edge.id
      (graph.edges.flatMap (guardFindings settings.globalVarPrefix (Index.ofGraph graph).names)) =
      (graph.without edge.id).edges.flatMap
        (guardFindings settings.globalVarPrefix (Index.ofGraph graph).names) :=
    besides_flatMap (fun _ _ => edgeId?_guardFindings) graph.edges
  have references : besides edge.id (graph.edges.flatMap (edgeFindings (.ofGraph graph))) =
      (graph.without edge.id).edges.flatMap (edgeFindings (.ofGraph graph)) :=
    besides_flatMap (fun _ _ => edgeId?_edgeFindings) graph.edges
  simp only [allFindings, besides_append, names, ends, counts, params,
    besides_pairFindings unique listed pair, references, guards, reach, reachFindings_without flow]
  rw [index_without flow]
  rfl

end Report

namespace Compile

variable {graph : Graph} {settings : Settings} {edge : Edge}

/-- A walk asks for nodes and for the flow edges that leave them. -/
theorem shares_of_flow {other : Graph} (nodes : other.nodes = graph.nodes)
    (flow : other.flowEdges = graph.flowEdges) : Shares (fun _ => True) graph other where
  nodes _ := by rw [Graph.nodeAt?, nodes, Graph.nodeAt?]
  ways _ _ := by rw [Graph.outEdges, flow, Graph.outEdges]
  leads _ _ _ _ := trivial
  joins _ _ _ _ := trivial

/-- To take out a pair link changes nothing of a compilation, and of a report only what is about
that link: the findings that are left keep their content and their order. -/
theorem pair_link_unseen (unique : graph.UniqueIds) (listed : edge ∈ graph.edges)
    (pair : edge.isPairLink = true) :
    compile settings (graph.without edge.id) = compile settings graph ∧
      ∀ report, Report.ofGraph settings graph = .ok report →
        Report.ofGraph settings (graph.without edge.id) =
          .ok ⟨report.findings.filter fun finding => finding.edgeId? != some edge.id⟩ := by
  have flow := Graph.flowEdges_without unique listed pair
  constructor
  · have walks (id : String) : sequence settings (.ofGraph (graph.without edge.id)) [] id =
        sequence settings (.ofGraph graph) [] id :=
      sequence_of_shares (shares_of_flow rfl flow) trivial
    simp only [compile, walks]
    rfl
  · intro report reported
    obtain ⟨showable, rfl⟩ := Report.ofGraph_eq_ok_iff.mp reported
    rw [Report.ofGraph_eq_ok_iff]
    constructor
    · intro other member
      exact showable other (List.mem_filter.mp member).1
    · rw [Report.allFindings_without unique listed pair]
      rfl

/-- A link from the fork to its join, with a guard that names no variable. -/
def tieEdge : Edge where
  id := "e3"
  source := "p"
  target := "j"
  sourceHandle := some Edge.pairHandle
  waitSeconds := some (.int 2)
  conditionEnabled := true

def tiedScene : Graph where
  nodes := [
    { id := "s", type := "start" },
    { id := "p", type := "parallel_start", params := [("joinId", .str "j")] },
    { id := "j", type := "parallel_join", params := [("pairId", .str "p")] },
    { id := "z", type := "end" }]
  edges := [
    { id := "e1", source := "s", target := "p" },
    { id := "e2", source := "p", target := "j", sourceHandle := some "out_b0",
      targetHandle := some "in_b0" },
    tieEdge,
    { id := "e4", source := "j", target := "z" }]

theorem pair_link_unseen_tiedScene :
    tiedScene.UniqueIds ∧ tieEdge ∈ tiedScene.edges ∧ tieEdge.isPairLink = true ∧
      compile {} (tiedScene.without "e3") = compile {} tiedScene ∧
      ∃ report, Report.ofGraph {} tiedScene = .ok report ∧
        Report.ofGraph {} (tiedScene.without "e3") =
          .ok ⟨report.findings.filter fun finding => finding.edgeId? != some "e3"⟩ := by
  have unique : tiedScene.UniqueIds := ⟨by decide, by decide⟩
  have listed : tieEdge ∈ tiedScene.edges := by simp [tiedScene]
  obtain ⟨compiled, reports⟩ := @pair_link_unseen tiedScene {} tieEdge unique listed rfl
  obtain ⟨report, reported⟩ : ∃ report, Report.ofGraph {} tiedScene = .ok report :=
    ⟨_, by with_unfolding_all rfl⟩
  exact ⟨unique, listed, rfl, compiled, report, reported, reports report reported⟩

end Compile

end SceneScript
