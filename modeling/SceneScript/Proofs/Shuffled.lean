import SceneScript.Proofs.Findings
import SceneScript.Proofs.Grouping
import SceneScript.Proofs.Reachability

/-!
The order in which a graph lists its nodes and edges. Most topics of a report find the same in a
shuffled graph, at most in another order; a shared name is found with its users in another order.
Main statement: a shuffled graph has a report exactly when the graph has one, and then the two
reports have the same findings of each severity about each node and each edge.
-/

namespace SceneScript

namespace Graph

/-- The same nodes and the same edges, each listed in any order. -/
structure Shuffled (graph other : Graph) : Prop where
  nodes : graph.nodes.Perm other.nodes
  edges : graph.edges.Perm other.edges

namespace Shuffled

variable {graph other : Graph} (same : graph.Shuffled other)

include same

theorem flowEdges : graph.flowEdges.Perm other.flowEdges := same.edges.filter _

theorem outEdges (id : String) :
    ((Index.ofGraph graph).outEdges id).Perm ((Index.ofGraph other).outEdges id) := by
  rw [Index.outEdges_ofGraph, Index.outEdges_ofGraph]
  exact same.flowEdges.filter _

theorem inEdges (id : String) :
    ((Index.ofGraph graph).inEdges id).Perm ((Index.ofGraph other).inEdges id) := by
  rw [Index.inEdges_ofGraph, Index.inEdges_ofGraph]
  exact same.flowEdges.filter _

theorem node? (unique : graph.UniqueIds) (id : String) :
    (Index.ofGraph other).node? id = (Index.ofGraph graph).node? id := by
  rw [Index.node?_ofGraph, Index.node?_ofGraph, nodeAt?_of_perm unique same.nodes same.edges]

theorem hasNode (unique : graph.UniqueIds) (id : String) :
    (Index.ofGraph other).hasNode id = (Index.ofGraph graph).hasNode id := by
  rw [Index.hasNode, same.node? unique, Index.hasNode]

theorem mem_names_iff (name : String) :
    name ∈ (Index.ofGraph other).names ↔ name ∈ (Index.ofGraph graph).names := by
  simp only [Index.mem_names_iff, same.nodes.mem_iff]

/-- The worklist goes through the ids in another order, and comes to the same ones. -/
theorem mem_reachable_iff (start id : String) :
    id ∈ (Index.ofGraph other).reachable start ↔ id ∈ (Index.ofGraph graph).reachable start := by
  apply Index.mem_reachable_of_leads
  funext source target
  simp only [Leads, same.flowEdges.mem_iff]

end Shuffled

end Graph

/-- What a finding is about, and how much it matters; all of it but the wording. -/
structure Site where
  severity : Severity
  nodeId? : Option String
  edgeId? : Option String
  deriving DecidableEq, Repr

def Finding.site (finding : Finding) : Site :=
  ⟨finding.severity, finding.nodeId?, finding.edgeId?⟩

namespace Report

variable {graph other : Graph} {settings : Settings} {report : Report}

section Topics

variable (same : graph.Shuffled other)

include same

theorem endFindings_of_shuffled : endFindings other = endFindings graph := by
  have starts := Graph.withRole_perm same.nodes .start
  have ends := Graph.withRole_perm same.nodes .finish
  simp only [endFindings, starts.isEmpty_eq, starts.length_eq, ends.isEmpty_eq]

theorem isCutOff_of_shuffled (node : Node) :
    isCutOff (.ofGraph other) node = isCutOff (.ofGraph graph) node := by
  simp only [isCutOff, (same.inEdges node.id).isEmpty_eq, (same.outEdges node.id).isEmpty_eq]

theorem edgeCountFindings_of_shuffled (node : Node) :
    edgeCountFindings (.ofGraph other) node = edgeCountFindings (.ofGraph graph) node := by
  simp only [edgeCountFindings, (same.inEdges node.id).length_eq,
    (same.outEdges node.id).length_eq, isCutOff_of_shuffled same]

theorem paramFindings_of_shuffled (node : Node) :
    paramFindings (.ofGraph other) node = paramFindings (.ofGraph graph) node := by
  simp only [paramFindings, typeFindings, (same.outEdges node.id).any_eq]

theorem edgeFindings_of_shuffled (unique : graph.UniqueIds) (edge : Edge) :
    edgeFindings (.ofGraph other) edge = edgeFindings (.ofGraph graph) edge := by
  simp only [edgeFindings, danglingEnds, same.hasNode unique]

/-- Guards ask only whether a name is in use. -/
theorem guardFindings_of_shuffled (mark : String) (edge : Edge) :
    guardFindings mark (Index.ofGraph other).names edge =
      guardFindings mark (Index.ofGraph graph).names edge := by
  simp only [guardFindings, guardProblems, policyProblems, stopProblems, endNodeProblems,
    same.mem_names_iff]

theorem joinLinkFindings_of_shuffled (unique : graph.UniqueIds) (node : Node) :
    joinLinkFindings (.ofGraph other) node = joinLinkFindings (.ofGraph graph) node := by
  simp only [joinLinkFindings, same.node? unique]

theorem forkLinkFindings_of_shuffled (unique : graph.UniqueIds) (node : Node) :
    forkLinkFindings (.ofGraph other) node = forkLinkFindings (.ofGraph graph) node := by
  simp only [forkLinkFindings, same.node? unique]

omit same in
/-- The handles of edges are looked at in the order of the edges; lanes are counted. -/
theorem laneFindings_of_perm {laneEnd : LaneEnd} {node : Node} {edges others : List Edge}
    (shuffled : edges.Perm others) :
    (laneFindings laneEnd node edges).Perm (laneFindings laneEnd node others) := by
  have counted (lane : String) : laneProblem? (edges.filterMap laneEnd.laneOf?) lane =
      laneProblem? (others.filterMap laneEnd.laneOf?) lane := by
    rw [laneProblem?, (shuffled.filterMap laneEnd.laneOf?).count_eq, laneProblem?]
  simp only [laneFindings, laneProblems, counted]
  exact (((shuffled.filterMap _).append_left _).append_right _).map _

theorem pairFindings_of_shuffled (unique : graph.UniqueIds) (node : Node) :
    (pairFindings (.ofGraph graph) node).Perm (pairFindings (.ofGraph other) node) := by
  unfold pairFindings
  split
  · rw [joinLinkFindings_of_shuffled same unique]
    exact (laneFindings_of_perm (same.outEdges node.id)).append_left _
  · rw [forkLinkFindings_of_shuffled same unique]
    exact (laneFindings_of_perm (same.inEdges node.id)).append_left _
  · exact List.Perm.refl _

/-- With one start the ids in its reach are the same; with none or several nothing is out of
reach. -/
theorem reachFindings_of_shuffled :
    (reachFindings (.ofGraph graph)).Perm (reachFindings (.ofGraph other)) := by
  have graphs : (Index.ofGraph graph).graph = graph ∧ (Index.ofGraph other).graph = other :=
    ⟨rfl, rfl⟩
  have starts := Graph.withRole_perm same.nodes .start
  have ends := Graph.withRole_perm same.nodes .finish
  unfold reachFindings
  rw [graphs.1, graphs.2]
  rcases one : graph.withRole .start with _ | ⟨start, _ | ⟨second, rest⟩⟩
  · rw [one] at starts
    rw [← starts.nil_eq]
  · rw [one] at starts
    rw [List.perm_singleton.mp starts.symm]
    simp only [same.mem_reachable_iff, isCutOff_of_shuffled same, ends.isEmpty_eq, ends.all_eq]
    exact ((same.nodes.filter _).map _).append_right _
  · rw [one] at starts
    -- The other graph has as many starts, so it is silent for the same reason.
    rcases two : other.withRole .start with _ | ⟨start, _ | ⟨third, others⟩⟩
    · cases (two ▸ starts).length_eq
    · cases (two ▸ starts).length_eq
    · exact List.Perm.refl _

end Topics

/-- Several of the items have the node's name. -/
def isShared (items : List Node) (node : Node) : Bool :=
  1 < (items.filter fun other => other.displayName = node.displayName).length

theorem isShared_of_perm {items others : List Node} (same : items.Perm others) :
    isShared items = isShared others := by
  funext node
  rw [isShared, (same.filter _).length_eq, isShared]

/-- The nodes without a name of their own, found without groups. -/
def nameSites (graph : Graph) : List Site :=
  let named := graph.nodes.filter (·.displayName != "")
  (graph.nodes.filter (·.displayName == "") ++ named.filter (isShared named)).map
    fun node => ⟨.tip, some node.id, none⟩

/-- A group is spoken of if it has several users; then all of them share their name. -/
theorem sharedName_sites {items users : List Node} {name : String}
    (member : (name, users) ∈ Table.groupBy Node.displayName items) :
    (if users.length ≤ 1 then []
        else users.map fun user => Finding.sharedName user.id name (users.map Node.id)).map
        Finding.site =
      (users.filter (isShared items)).map fun node => ⟨.tip, some node.id, none⟩ := by
  have ofName := Table.eq_filter_of_mem_groupBy member
  have shared : ∀ user ∈ users, isShared items user = decide (1 < users.length) := by
    intro user listed
    rw [ofName, List.mem_filter, decide_eq_true_eq] at listed
    rw [isShared, listed.2, ← ofName]
  rw [List.filter_congr shared]
  by_cases alone : users.length ≤ 1
  · simp [alone, Nat.not_lt.mpr alone]
  · simp [alone, Nat.lt_of_not_le alone, Finding.site, Finding.severity, Finding.nodeId?,
      Finding.edgeId?]

theorem nameFindings_sites : ((nameFindings graph).map Finding.site).Perm (nameSites graph) := by
  let named := graph.nodes.filter (·.displayName != "")
  rw [nameFindings, nameSites, List.map_append, List.map_append, List.map_map, List.map_flatMap]
  refine List.Perm.append_left _ ?_
  -- What each group says is said of its own users, so the groups can be put together again.
  rw [List.flatMap_congr fun entry member => sharedName_sites member, ← List.map_flatMap,
    ← List.filter_flatMap]
  exact (Table.flatMap_groupBy_perm.filter _).map _

theorem nameSites_of_shuffled (same : graph.Shuffled other) :
    (nameSites graph).Perm (nameSites other) := by
  have named := same.nodes.filter (·.displayName != "")
  rw [nameSites, isShared_of_perm named]
  exact ((same.nodes.filter _).append (named.filter _)).map _

/-- In a shuffled graph the same is found, up to order and wording. -/
theorem allFindings_of_shuffled (unique : graph.UniqueIds) (same : graph.Shuffled other) :
    ((allFindings settings graph).map Finding.site).Perm
      ((allFindings settings other).map Finding.site) := by
  have names : ((nameFindings graph).map Finding.site).Perm
      ((nameFindings other).map Finding.site) :=
    nameFindings_sites.trans ((nameSites_of_shuffled same).trans nameFindings_sites.symm)
  have counts : (graph.nodes.flatMap (edgeCountFindings (.ofGraph graph))).Perm
      (other.nodes.flatMap (edgeCountFindings (.ofGraph other))) :=
    same.nodes.flatMap fun node _ => .of_eq (edgeCountFindings_of_shuffled same node).symm
  have params : (graph.nodes.flatMap (paramFindings (.ofGraph graph))).Perm
      (other.nodes.flatMap (paramFindings (.ofGraph other))) :=
    same.nodes.flatMap fun node _ => .of_eq (paramFindings_of_shuffled same node).symm
  have pairs : (graph.nodes.flatMap (pairFindings (.ofGraph graph))).Perm
      (other.nodes.flatMap (pairFindings (.ofGraph other))) :=
    same.nodes.flatMap fun node _ => pairFindings_of_shuffled same unique node
  have references : (graph.edges.flatMap (edgeFindings (.ofGraph graph))).Perm
      (other.edges.flatMap (edgeFindings (.ofGraph other))) :=
    same.edges.flatMap fun edge _ => .of_eq (edgeFindings_of_shuffled same unique edge).symm
  have guards : (graph.edges.flatMap
        (guardFindings settings.globalVarPrefix (Index.ofGraph graph).names)).Perm
      (other.edges.flatMap
        (guardFindings settings.globalVarPrefix (Index.ofGraph other).names)) :=
    same.edges.flatMap fun edge _ => .of_eq (guardFindings_of_shuffled same _ edge).symm
  simp only [allFindings, List.map_append, endFindings_of_shuffled same]
  exact ((((((names.append_right _).append (counts.map _)).append (params.map _)).append
    (pairs.map _)).append (references.map _)).append (guards.map _)).append
    ((reachFindings_of_shuffled same).map _)

theorem hasErrors_of_sites {again : Report}
    (sites : (report.findings.map Finding.site).Perm (again.findings.map Finding.site)) :
    again.hasErrors = report.hasErrors := by
  have atSites (report : Report) : report.hasErrors = true ↔
      ∃ site ∈ report.findings.map Finding.site, site.severity = .error := by
    simp [hasErrors_iff, HasError, Finding.site]
  rw [Bool.eq_iff_iff, atSites, atSites]
  simp only [sites.mem_iff]

/-- The order of nodes and edges has no say in a report: a shuffled graph has one when the graph
has, with errors when it has them, and with as many findings of each severity about each node and
each edge. -/
theorem ofGraph_of_shuffled (unique : graph.UniqueIds) (same : graph.Shuffled other) :
    (∀ fault, ofGraph settings other = .error fault ↔ ofGraph settings graph = .error fault) ∧
      ∀ report, ofGraph settings graph = .ok report →
        ∃ again, ofGraph settings other = .ok again ∧ again.hasErrors = report.hasErrors ∧
          (again.findings.map Finding.site).Perm (report.findings.map Finding.site) := by
  constructor
  · intro fault
    simp only [ofGraph_eq_error_iff, same.edges.mem_iff]
  · intro report reported
    obtain ⟨showable, rfl⟩ := ofGraph_eq_ok_iff.mp reported
    have again : ofGraph settings other = .ok ⟨allFindings settings other⟩ :=
      ofGraph_eq_ok_iff.mpr ⟨fun edge listed => showable edge (same.edges.mem_iff.mpr listed), rfl⟩
    have sites := @allFindings_of_shuffled graph other settings unique same
    exact ⟨_, again, hasErrors_of_sites sites, sites.symm⟩

/-- Three nodes of one name, a lane that is not declared, and an edge that leads to no node. -/
def chorusScene : Graph where
  nodes := [
    { id := "s", type := "start", name := some "Ann" },
    { id := "p", type := "parallel_start", name := some "Ann", params := [("joinId", .str "j")] },
    { id := "j", type := "parallel_join", name := some "Bo", params := [("pairId", .str "p")] },
    { id := "x", type := "walk", name := some " Ann" },
    { id := "z", type := "end" }]
  edges := [
    { id := "e1", source := "s", target := "p" },
    { id := "e2", source := "p", target := "j", sourceHandle := some "out_b0",
      targetHandle := some "in_b0" },
    { id := "e3", source := "p", target := "x", sourceHandle := some "out_b1" },
    { id := "e4", source := "j", target := "y" }]

/-- The same scene, listed from its end. -/
def mirroredScene : Graph where
  nodes := chorusScene.nodes.reverse
  edges := chorusScene.edges.reverse

theorem ofGraph_of_shuffled_chorusScene :
    chorusScene.UniqueIds ∧ chorusScene.Shuffled mirroredScene ∧
      (∀ fault,
        ofGraph {} mirroredScene = .error fault ↔ ofGraph {} chorusScene = .error fault) ∧
      ∃ report again, ofGraph {} chorusScene = .ok report ∧ ofGraph {} mirroredScene = .ok again ∧
        report.findings.length = 8 ∧ again.hasErrors = report.hasErrors ∧
        (again.findings.map Finding.site).Perm (report.findings.map Finding.site) := by
  have unique : chorusScene.UniqueIds := ⟨by decide, by decide⟩
  have same : chorusScene.Shuffled mirroredScene :=
    ⟨(List.reverse_perm _).symm, (List.reverse_perm _).symm⟩
  obtain ⟨faults, reports⟩ := @ofGraph_of_shuffled chorusScene mirroredScene {} unique same
  have reported : ofGraph {} chorusScene = .ok
      ⟨[.unnamed "z" "end", .sharedName "s" "Ann" ["s", "p", "x"],
        .sharedName "p" "Ann" ["s", "p", "x"], .sharedName "x" "Ann" ["s", "p", "x"],
        .lane .fork "p" (.undeclared "e3" "b1"), .unknownTarget "e4" "y", .unreachable "z" "end",
        .noEndReachable]⟩ := by
    with_unfolding_all rfl
  obtain ⟨again, reportedToo, errors, sites⟩ := reports _ reported
  exact ⟨unique, same, faults, _, again, reported, reportedToo, rfl, errors, sites⟩

end Report

end SceneScript
