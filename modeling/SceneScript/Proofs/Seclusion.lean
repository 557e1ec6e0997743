import SceneScript.Proofs.WithinReach

/-!
Nodes that the scene does not come to. A node that its own edges show to be cut off is found with
its edges, any other only by the search from the start, which passes over those found before. Main
statement: a report says of a node that the scene does not come to it once if that is so, and
otherwise not at all.
-/

namespace SceneScript

open Relation

/-- In a graph with unique ids the nodes before and after a node have other ids. -/
theorem Graph.split_at_node {graph : Graph} {node : Node} (unique : graph.UniqueIds)
    (listed : node ∈ graph.nodes) :
    ∃ before after, graph.nodes = before ++ node :: after ∧
      ∀ other ∈ before ++ after, other.id ≠ node.id := by
  obtain ⟨before, after, split⟩ := List.append_of_mem listed
  refine ⟨before, after, split, ?_⟩
  have distinct := unique.1
  rw [split, List.map_append, List.map_cons, List.nodup_middle, ← List.map_append] at distinct
  intro other member same
  exact (List.nodup_cons.mp distinct).1 (same ▸ List.mem_map_of_mem member)

namespace Finding

/-- Says of the node of an id that the scene does not come to it. -/
def secludes (id : String) (finding : Finding) : Bool :=
  finding.isOfSeclusion && finding.nodeId? == some id

theorem topic_of_secludes {id : String} {finding : Finding}
    (secludes : finding.secludes id = true) :
    finding.topic = .edgeCounts ∨ finding.topic = .reach := by
  cases finding <;> simp [Finding.secludes, isOfSeclusion, topic] at secludes ⊢

end Finding

namespace Report

variable {graph : Graph} {settings : Settings} {report : Report} {start node : Node} {id : String}

/-- What is said of a node that the scene does not come to: that it has no edges, that none leads
to it, or that none of the ways that lead to it comes from the start. The last is also said of the
nodes whose own edges are left to others to judge. -/
def seclusion (graph : Graph) (node : Node) : Finding :=
  if isCutOff (.ofGraph graph) node then
    if graph.outEdges node.id = [] then .disconnected node.id node.type
    else .noIncoming node.id node.type
  else .unreachable node.id node.type

theorem filter_secludes_of_topic {topic : Topic} {findings : List Finding}
    (ofTopic : ∀ finding ∈ findings, finding.topic = topic) (counts : topic ≠ .edgeCounts)
    (reach : topic ≠ .reach) : findings.filter (Finding.secludes id) = [] := by
  rw [List.filter_eq_nil_iff]
  intro finding member secludes
  obtain rfl := ofTopic finding member
  rcases Finding.topic_of_secludes secludes with same | same
  · exact counts same
  · exact reach same

theorem filter_secludes_flatMap_of_topic {α : Type} {topic : Topic} {items : List α}
    {topicOf : α → List Finding} (ofTopic : ∀ item, ∀ finding ∈ topicOf item, finding.topic = topic)
    (counts : topic ≠ .edgeCounts) (reach : topic ≠ .reach) :
    (items.flatMap topicOf).filter (Finding.secludes id) = [] := by
  refine filter_secludes_of_topic (fun finding member => ?_) counts reach
  obtain ⟨item, -, found⟩ := List.mem_flatMap.mp member
  exact ofTopic item finding found

theorem topic_edgeFindings {index : Index} {edge : Edge} {finding : Finding}
    (found : finding ∈ edgeFindings index edge) : finding.topic = .references := by
  rcases List.mem_append.mp found with dangling | waits
  · exact topic_danglingEnds dangling
  · cases waited : waitFindings edge with
    | error fault =>
        rw [waited] at waits
        cases waits
    | ok found =>
        rw [waited] at waits
        exact topic_waitFindings waited waits

theorem filter_secludes_of_other (finding : Finding) (other : finding.isOfSeclusion = false)
    (p : Prop) [Decidable p] :
    (if p then [finding] else []).filter (Finding.secludes id) = [] := by
  split <;> simp [Finding.secludes, other]

@[simp]
theorem secludes_seclusion (other : Node) :
    (seclusion graph other).secludes id = (other.id == id) := by
  unfold seclusion
  split_ifs <;> simp [Finding.secludes, Finding.isOfSeclusion, Finding.nodeId?]

/-- The edges of a node say that it is cut off, or nothing of this kind; and never of another. -/
theorem filter_secludes_edgeCountFindings (other : Node) :
    (edgeCountFindings (.ofGraph graph) other).filter (Finding.secludes id) =
      if isCutOff (.ofGraph graph) other ∧ other.id = id then [seclusion graph other] else [] := by
  simp only [edgeCountFindings, List.filter_append, Index.outEdges_scan,
    filter_secludes_of_other (.startEntered _ _) rfl, filter_secludes_of_other (.startStuck _) rfl,
    filter_secludes_of_other (.endLeft _ _) rfl,
    filter_secludes_of_other (.severalOutgoing _ _ _) rfl, List.nil_append, List.append_nil]
  by_cases cutOff : isCutOff (.ofGraph graph) other = true
  · have said : (if (graph.outEdges other.id).length = 0 then Finding.disconnected other.id other.type
        else .noIncoming other.id other.type) = seclusion graph other := by
      simp [seclusion, cutOff]
    rw [if_pos cutOff, said]
    by_cases same : other.id = id <;> simp [cutOff, same]
  · simp [cutOff]

/-- Of the nodes with their edges, one is found to be the node of an id. -/
theorem filter_secludes_edgeCounts (unique : graph.UniqueIds) (listed : node ∈ graph.nodes) :
    (graph.nodes.flatMap (edgeCountFindings (.ofGraph graph))).filter (Finding.secludes node.id) =
      if isCutOff (.ofGraph graph) node then [seclusion graph node] else [] := by
  obtain ⟨before, after, split, others⟩ := Graph.split_at_node unique listed
  have apart (part : List Node) (within : part ⊆ before ++ after) :
      part.flatMap (fun other =>
        (edgeCountFindings (.ofGraph graph) other).filter (Finding.secludes node.id)) = [] := by
    rw [List.flatMap_eq_nil_iff]
    intro other member
    rw [filter_secludes_edgeCountFindings, if_neg fun found => others other (within member) found.2]
  rw [List.filter_flatMap, split, List.flatMap_append, List.flatMap_cons,
    apart before (List.subset_append_left before after),
    apart after (List.subset_append_right before after), filter_secludes_edgeCountFindings]
  simp

/-- The search from the start speaks of the nodes that it misses and that were not found before. -/
theorem filter_secludes_reachFindings (unique : graph.UniqueIds)
    (only : graph.withRole .start = [start]) (listed : node ∈ graph.nodes) :
    (reachFindings (.ofGraph graph)).filter (Finding.secludes node.id) =
      if node.id ∉ (Index.ofGraph graph).reachable start.id ∧
          isCutOff (.ofGraph graph) node = false then
        [.unreachable node.id node.type]
      else [] := by
  obtain ⟨before, after, split, others⟩ := Graph.split_at_node unique listed
  have same : (Index.ofGraph graph).graph = graph := rfl
  have apart (part : List Node) (within : part ⊆ before ++ after) :
      part.filter (fun other => other.id == node.id) = [] := by
    rw [List.filter_eq_nil_iff]
    intro other member found
    exact others other (within member) (beq_iff_eq.mp found)
  have alone : graph.nodes.filter (fun other => other.id == node.id) = [node] := by
    rw [split, List.filter_append, List.filter_cons_of_pos (by simp),
      apart before (List.subset_append_left before after),
      apart after (List.subset_append_right before after), List.nil_append]
  have about : Finding.secludes node.id ∘ (fun other : Node => .unreachable other.id other.type) =
      fun other => other.id == node.id := by
    funext other
    simp [Finding.secludes, Finding.isOfSeclusion, Finding.nodeId?]
  simp only [reachFindings, same, only, List.filter_append, filter_secludes_of_other .noEndReachable rfl,
    List.append_nil, List.filter_map, about]
  rw [List.filter_comm, alone]
  by_cases missed : node.id ∉ (Index.ofGraph graph).reachable start.id ∧
      isCutOff (.ofGraph graph) node = false
  · simp [missed]
  · rw [if_neg missed, List.filter_cons_of_neg (by simpa using missed)]
    rfl

/-- Where ids are unique and there is one start, a report says exactly once of a node beyond the
reach of the start that the scene does not come to it, and never of one within reach. -/
theorem secluded_exactly_once (unique : graph.UniqueIds) (only : graph.withRole .start = [start])
    (reported : ofGraph settings graph = .ok report) (listed : node ∈ graph.nodes) :
    (ReflTransGen graph.Leads start.id node.id →
        report.findings.filter (Finding.secludes node.id) = []) ∧
      (¬ ReflTransGen graph.Leads start.id node.id →
        report.findings.filter (Finding.secludes node.id) = [seclusion graph node]) := by
  obtain ⟨-, rfl⟩ := ofGraph_eq_ok_iff.mp reported
  have found : (allFindings settings graph).filter (Finding.secludes node.id) =
      (if isCutOff (.ofGraph graph) node then [seclusion graph node] else []) ++
        (reachFindings (.ofGraph graph)).filter (Finding.secludes node.id) := by
    simp only [allFindings, List.filter_append,
      filter_secludes_of_topic (fun _ => topic_nameFindings) nofun nofun,
      filter_secludes_of_topic (fun _ => topic_endFindings) nofun nofun,
      filter_secludes_flatMap_of_topic (fun _ _ => topic_paramFindings) nofun nofun,
      filter_secludes_flatMap_of_topic (fun _ _ => topic_pairFindings) nofun nofun,
      filter_secludes_flatMap_of_topic (fun _ _ => topic_edgeFindings) nofun nofun,
      filter_secludes_flatMap_of_topic (fun _ _ => topic_guardFindings) nofun nofun,
      filter_secludes_edgeCounts unique listed, List.nil_append, List.append_nil]
  rw [found, filter_secludes_reachFindings unique only listed, ← Index.mem_reachable_iff]
  constructor
  · intro reached
    have joined := not_isCutOff_of_reached unique only listed (Index.mem_reachable_iff.mp reached)
    simp [joined, reached]
  · intro missed
    cases cutOff : isCutOff (.ofGraph graph) node <;> simp [missed, seclusion, cutOff]

/-- A loop that nothing enters from the start, a fork and a step before it, and a step alone; the
way from the start comes back to itself, and one edge leads nowhere. -/
def driftScene : Graph where
  nodes := [
    { id := "s", type := "start" },
    { id := "a", type := "walk" },
    { id := "b", type := "talk" },
    { id := "p", type := "parallel_start" },
    { id := "c", type := "turn" },
    { id := "d", type := "turn" },
    { id := "i", type := "walk" },
    { id := "k", type := "walk" },
    { id := "j", type := "parallel_join" },
    { id := "z", type := "end" }]
  edges := [
    { id := "e1", source := "s", target := "a" },
    { id := "e2", source := "a", target := "b" },
    { id := "e3", source := "b", target := "a" },
    { id := "e4", source := "p", target := "c", sourceHandle := some "out_b0" },
    { id := "e5", source := "c", target := "d" },
    { id := "e6", source := "d", target := "c" },
    { id := "e7", source := "k", target := "nowhere" },
    { id := "e8", source := "b", target := "z" }]

theorem secluded_exactly_once_driftScene :
    driftScene.UniqueIds ∧ driftScene.withRole .start = [{ id := "s", type := "start" }] ∧
      ∃ report, ofGraph {} driftScene = .ok report ∧
        (∀ node ∈ driftScene.nodes, node.id ∈ ["s", "a", "b", "z"] →
          report.findings.filter (Finding.secludes node.id) = []) ∧
        report.findings.filter (Finding.secludes "p") = [.unreachable "p" "parallel_start"] ∧
        report.findings.filter (Finding.secludes "i") = [.disconnected "i" "walk"] ∧
        report.findings.filter (Finding.secludes "k") = [.noIncoming "k" "walk"] := by
  have unique : driftScene.UniqueIds := ⟨by decide, by decide⟩
  have only : driftScene.withRole .start = [{ id := "s", type := "start" }] := by rfl
  obtain ⟨report, reported⟩ : ∃ report, ofGraph {} driftScene = .ok report :=
    ⟨_, by with_unfolding_all rfl⟩
  have within : ∀ node ∈ driftScene.nodes,
      (node.id ∈ (Index.ofGraph driftScene).reachable "s" ↔ node.id ∈ ["s", "a", "b", "z"]) := by
    decide +kernel
  have missed (node : Node) (listed : node ∈ driftScene.nodes)
      (far : node.id ∉ ["s", "a", "b", "z"]) :
      report.findings.filter (Finding.secludes node.id) = [seclusion driftScene node] := by
    apply (secluded_exactly_once unique only reported listed).2
    rwa [← Index.mem_reachable_iff, within node listed]
  refine ⟨unique, only, report, reported, ?_, ?_, ?_, ?_⟩
  · intro node listed near
    apply (secluded_exactly_once unique only reported listed).1
    rwa [← Index.mem_reachable_iff, within node listed]
  · exact missed { id := "p", type := "parallel_start" } (by simp [driftScene]) (by decide)
  · exact missed { id := "i", type := "walk" } (by simp [driftScene]) (by decide)
  · exact missed { id := "k", type := "walk" } (by simp [driftScene]) (by decide)

end Report

end SceneScript
