import SceneScript.Proofs.Configuration
import SceneScript.Proofs.Topics

/-!
The report on a graph against the failure of its compilation. Main statement: a failure for which
the graph has to be mended in its ends, its references or its joins is announced by an error of the
report, and a node with several ways on by a warning; what no error announces is a cycle or the
shape of a branch, of a lane or of a single way on.
-/

namespace SceneScript

/-- The types whose nodes may have any number of edges, as far as a report is concerned. -/
def Report.manyWayTypes : List String :=
  ["start", "end", "branch", "parallel_start", "parallel_join"]

theorem Node.role_eq_step_iff {node : Node} :
    node.role = .step ↔ node.type ∉ Report.manyWayTypes := by
  simp only [Node.role, Role.ofType, Report.manyWayTypes]
  split <;> simp_all

namespace CompileError

/-- Failures that leave a graph without errors in its report. -/
def isOfShape : CompileError → Bool
  | cycle _ _ => true
  | severalOutgoing _ _ => true
  | laneSplits _ _ => true
  | branchEdges _ _ => true
  | branchOutput _ => true
  | laneEnds _ _ => true
  | laneForks _ _ _ => true
  | _ => false

/-- The finding that goes with a failure, where one has to. No walk meets an unknown node. -/
def Foretold (graph : Graph) (findings : List Finding) : CompileError → Prop
  | noStart | severalStarts _ | noEnd =>
      ∃ finding ∈ findings,
        finding.severity = .error ∧ finding.nodeId? = none ∧ finding.edgeId? = none
  | unknownTarget edge _ =>
      ∃ finding ∈ findings, finding.severity = .error ∧ finding.edgeId? = some edge
  | noJoin fork | unknownJoin fork _ | wrongJoin fork _ =>
      ∃ finding ∈ findings, finding.severity = .error ∧ finding.nodeId? = some fork
  | severalOutgoing id _ | laneSplits id _ =>
      ∀ node ∈ graph.nodes, node.id = id → node.type ∉ Report.manyWayTypes →
        ∃ finding ∈ findings, finding.severity = .warning ∧ finding.nodeId? = some id
  | unknownNode _ => False
  | cycle _ _ | branchEdges _ _ | branchOutput _ | laneForks _ _ _ | laneEnds _ _ => True

end CompileError

namespace Report

open Compile

variable {graph : Graph} {settings : Settings} {report : Report}

theorem mem_findings_of_ends (reported : ofGraph settings graph = .ok report) {finding : Finding}
    (found : finding ∈ endFindings graph) : finding ∈ report.findings := by
  rwa [mem_findings_iff_isOf reported, topic_endFindings found]

theorem dangling_mem_findings (reported : ofGraph settings graph = .ok report) {edge : Edge}
    (listed : edge ∈ graph.edges) (missing : ¬ graph.Has edge.target) :
    .unknownTarget edge.id edge.target ∈ report.findings := by
  rw [mem_findings_iff_isOf reported]
  have ends : Finding.unknownTarget edge.id edge.target ∈ danglingEnds (.ofGraph graph) edge := by
    simp [danglingEnds, missing]
  exact ⟨edge, listed, Or.inl ends⟩

theorem joinLink_mem_findings (reported : ofGraph settings graph = .ok report) {fork : Node}
    (listed : fork ∈ graph.nodes) (role : fork.role = .fork) {finding : Finding}
    (found : finding ∈ joinLinkFindings (.ofGraph graph) fork) : finding ∈ report.findings := by
  have paired : finding ∈ pairFindings (.ofGraph graph) fork := by
    rw [pairFindings, role]
    exact List.mem_append_left _ found
  rw [mem_findings_iff_isOf reported, topic_pairFindings paired]
  exact ⟨fork, listed, paired⟩

/-- A plain step with several ways on is warned of. -/
theorem several_mem_findings (reported : ofGraph settings graph = .ok report) {node : Node}
    (listed : node ∈ graph.nodes) (role : node.role = .step)
    (several : 1 < (graph.outEdges node.id).length) :
    .severalOutgoing node.id node.type (graph.outEdges node.id).length ∈ report.findings := by
  rw [mem_findings_iff_isOf reported]
  refine ⟨node, listed, ?_⟩
  simp [edgeCountFindings, role, several]

theorem foretold_several (reported : ofGraph settings graph = .ok report) {id : String}
    (several : 1 < (graph.outEdges id).length) :
    ∀ node ∈ graph.nodes, node.id = id → node.type ∉ manyWayTypes →
      ∃ finding ∈ report.findings, finding.severity = .warning ∧ finding.nodeId? = some id := by
  rintro node listed rfl single
  exact ⟨_, several_mem_findings reported listed (Node.role_eq_step_iff.mpr single) several,
    rfl, rfl⟩

theorem foretold_of_fault (reported : ofGraph settings graph = .ok report) {config : Config}
    {error : CompileError} (fault : Fault graph config error) :
    error.Foretold graph report.findings := by
  cases fault with
  | unknownTarget follows missing =>
      have listed := mem_edges_of_follows follows
      exact ⟨_, dangling_mem_findings reported listed missing, rfl, rfl⟩
  | severalPlain found role several => exact foretold_several reported several
  | severalResumed several => exact foretold_several reported several
  | branchEdges found role many => trivial
  | branchOutput found role side crowded => trivial
  | @noJoin id node found role unnamed =>
      obtain ⟨listed, rfl⟩ := Graph.mem_of_nodeAt? found
      refine ⟨.noJoin node.id, joinLink_mem_findings reported listed role ?_, rfl, rfl⟩
      simp [joinLinkFindings, unnamed]
  | @unknownJoin id node found role named missing =>
      obtain ⟨listed, rfl⟩ := Graph.mem_of_nodeAt? found
      refine ⟨.unknownJoin node.id (node.textParam "joinId"),
        joinLink_mem_findings reported listed role ?_, rfl, rfl⟩
      simp [joinLinkFindings, named, missing]
  | @wrongJoin id node other found role named joins wrong =>
      obtain ⟨listed, rfl⟩ := Graph.mem_of_nodeAt? found
      refine ⟨.wrongJoin node.id (node.textParam "joinId") other.type,
        joinLink_mem_findings reported listed role ?_, rfl, rfl⟩
      simp [joinLinkFindings, named, joins, wrong]
  | laneForks found bent => trivial
  | laneEnds deadEnd => trivial
  | laneSplits found flat several => exact foretold_several reported several

/-- What is foretold by no error is a failure of shape. -/
theorem isOfShape_of_foretold {error : CompileError}
    (foretold : error.Foretold graph report.findings) (clean : report.hasErrors = false) :
    error.kind ≠ .referential ∧ error.isOfShape = true := by
  have mild {finding : Finding} (member : finding ∈ report.findings) :
      finding.severity ≠ .error := by
    intro severe
    rw [hasErrors_iff.mpr ⟨finding, member, severe⟩] at clean
    cases clean
  cases error with
  | noStart | severalStarts | noEnd | unknownTarget | noJoin | unknownJoin | wrongJoin =>
      obtain ⟨finding, member, severe, -⟩ := foretold
      exact (mild member severe).elim
  | unknownNode => exact foretold.elim
  | _ => exact ⟨by simp [CompileError.kind], rfl⟩

/-- Every failure to compile goes with its finding, and without errors in the report only failures
of shape remain. -/
theorem failure_foretold {error : CompileError} (failed : compile settings graph = .error error)
    (reported : ofGraph settings graph = .ok report) :
    error.Foretold graph report.findings ∧
      (report.hasErrors = false → error.kind ≠ .referential ∧ error.isOfShape = true) := by
  have foretold : error.Foretold graph report.findings := by
    rcases compile_eq_error failed with ⟨none, rfl⟩ | ⟨several, rfl⟩ | ⟨endless, rfl⟩ |
      ⟨start, -, path, last, -, ⟨-, rfl⟩ | ⟨-, fault⟩⟩
    · refine ⟨.noStart, mem_findings_of_ends reported ?_, rfl, rfl, rfl⟩
      simp [endFindings, none]
    · refine ⟨.severalStarts (graph.withRole .start).length, mem_findings_of_ends reported ?_,
        rfl, rfl, rfl⟩
      have some : graph.withRole .start ≠ [] := List.ne_nil_of_length_pos (by omega)
      simp [endFindings, several, some]
    · refine ⟨.noEnd, mem_findings_of_ends reported ?_, rfl, rfl, rfl⟩
      simp [endFindings, endless]
    -- A cycle is foretold by nothing.
    · trivial
    · exact foretold_of_fault reported fault
  exact ⟨foretold, isOfShape_of_foretold foretold⟩

/-- The line leads to a node that is not there. -/
def strayScene : Graph where
  nodes := [
    { id := "s", type := "start" },
    { id := "d", type := "dialogue" },
    { id := "z", type := "end" }]
  edges := [
    { id := "e1", source := "s", target := "d" },
    { id := "e2", source := "d", target := "gone" }]

theorem failure_foretold_strayScene :
    compile {} strayScene = .error (.unknownTarget "e2" "gone") ∧
      ∃ report, ofGraph {} strayScene = .ok report ∧
        (CompileError.unknownTarget "e2" "gone").Foretold strayScene report.findings ∧
          (report.hasErrors = false → (CompileError.unknownTarget "e2" "gone").kind ≠ .referential ∧
            (CompileError.unknownTarget "e2" "gone").isOfShape = true) := by
  have failed : compile {} strayScene = .error (.unknownTarget "e2" "gone") := by
    with_unfolding_all rfl
  have reported : ∃ report, ofGraph {} strayScene = .ok report := ⟨_, rfl⟩
  obtain ⟨report, reported⟩ := reported
  exact ⟨failed, report, reported, failure_foretold failed reported⟩

end Report

end SceneScript
