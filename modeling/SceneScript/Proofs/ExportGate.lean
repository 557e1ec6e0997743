import SceneScript.Export.Basic
import SceneScript.Proofs.Findings
import SceneScript.Proofs.Reachability

/-!
Which scenes are not exported. A graph is blocked for its starts and ends, for the links between
forks and joins, for edges that dangle, or because no end can be reached. Main statement: these are
the graphs with errors in their report, they are refused with that report, and every other graph is
compiled and wrapped.
-/

namespace SceneScript

inductive Graph.Blocked (graph : Graph) : Prop where
  | starts (notOne : (graph.withRole .start).length ≠ 1)
  | endless (none : graph.withRole .finish = [])
  | stuck {start : Node} (listed : start ∈ graph.nodes) (role : start.role = .start)
      (none : ∀ edge ∈ graph.flowEdges, edge.source ≠ start.id)
  | noJoin {fork : Node} (listed : fork ∈ graph.nodes) (role : fork.role = .fork)
      (unnamed : fork.textParam "joinId" = "")
  | unknownJoin {fork : Node} (listed : fork ∈ graph.nodes) (role : fork.role = .fork)
      (missing : ¬ graph.Has (fork.textParam "joinId"))
  | wrongJoin {fork other : Node} (listed : fork ∈ graph.nodes) (role : fork.role = .fork)
      (found : other ∈ graph.nodes) (named : other.id = fork.textParam "joinId")
      (wrong : other.role ≠ .join)
  | unknownFork {join : Node} (listed : join ∈ graph.nodes) (role : join.role = .join)
      (named : join.textParam "pairId" ≠ "") (missing : ¬ graph.Has (join.textParam "pairId"))
  | unknownSource {edge : Edge} (listed : edge ∈ graph.edges) (missing : ¬ graph.Has edge.source)
  | unknownTarget {edge : Edge} (listed : edge ∈ graph.edges) (missing : ¬ graph.Has edge.target)
  | outOfReach {start : Node} (only : graph.withRole .start = [start])
      (ends : graph.withRole .finish ≠ [])
      (apart : ∀ finish ∈ graph.withRole .finish,
        ¬ Relation.ReflTransGen graph.Leads start.id finish.id)

namespace Report

variable {graph : Graph} {settings : Settings} {report : Report}

theorem blocked_of_ends (severe : HasError (endFindings graph)) : graph.Blocked := by
  rcases hasError_endFindings_iff.mp severe with notOne | none
  · exact .starts notOne
  · exact .endless none

theorem outEdges_eq_nil_iff {id : String} :
    graph.outEdges id = [] ↔ ∀ edge ∈ graph.flowEdges, edge.source ≠ id := by
  simp [Graph.outEdges]

theorem blocked_of_edgeCount {node : Node} (listed : node ∈ graph.nodes)
    (severe : HasError (edgeCountFindings (.ofGraph graph) node)) : graph.Blocked := by
  obtain ⟨role, none⟩ := hasError_edgeCountFindings_iff.mp severe
  exact .stuck listed role (outEdges_eq_nil_iff.mp none)

theorem nodeAt?_eq_none_iff {id : String} : graph.nodeAt? id = none ↔ ¬ graph.Has id := by
  constructor
  · exact Graph.not_has_of_nodeAt?
  · intro missing
    rw [← Graph.isSome_nodeAt?_iff] at missing
    exact Option.not_isSome_iff_eq_none.mp missing

theorem blocked_of_pair {node : Node} (listed : node ∈ graph.nodes)
    (severe : HasError (pairFindings (.ofGraph graph) node)) : graph.Blocked := by
  rcases hasError_pairFindings_iff.mp severe with ⟨role, severe⟩ | ⟨role, severe⟩
  · rcases hasError_joinLinkFindings_iff.mp severe with unnamed | missing | ⟨other, found, wrong⟩
    · exact .noJoin listed role unnamed
    · exact .unknownJoin listed role (nodeAt?_eq_none_iff.mp missing)
    · obtain ⟨member, named⟩ := Graph.mem_of_nodeAt? found
      exact .wrongJoin listed role member named wrong
  · obtain ⟨named, missing⟩ := hasError_forkLinkFindings_iff.mp severe
    exact .unknownFork listed role named (nodeAt?_eq_none_iff.mp missing)

theorem blocked_of_dangling {edge : Edge} (listed : edge ∈ graph.edges)
    (severe : HasError (danglingEnds (.ofGraph graph) edge)) : graph.Blocked := by
  rcases hasError_danglingEnds_iff.mp severe with missing | missing
  · exact .unknownSource listed missing
  · exact .unknownTarget listed missing

theorem blocked_of_reach (severe : HasError (reachFindings (.ofGraph graph))) : graph.Blocked := by
  obtain ⟨start, only, ends, apart⟩ := hasError_reachFindings_iff.mp severe
  exact .outOfReach only ends fun finish listed led =>
    apart finish listed (Index.mem_reachable_iff.mpr led)

theorem joinLink_hasErrors (reported : ofGraph settings graph = .ok report) {fork : Node}
    (listed : fork ∈ graph.nodes) (role : fork.role = .fork)
    (severe : HasError (joinLinkFindings (.ofGraph graph) fork)) : report.hasErrors = true := by
  rw [hasErrors_iff_topics reported]
  have paired := hasError_pairFindings_iff.mpr (Or.inl ⟨role, severe⟩)
  exact Or.inr (Or.inr (Or.inl ⟨fork, listed, paired⟩))

theorem dangling_hasErrors (reported : ofGraph settings graph = .ok report) {edge : Edge}
    (listed : edge ∈ graph.edges) (severe : HasError (danglingEnds (.ofGraph graph) edge)) :
    report.hasErrors = true := by
  rw [hasErrors_iff_topics reported]
  exact Or.inr (Or.inr (Or.inr (Or.inl ⟨edge, listed, severe⟩)))

/-- Where ids are unique, the graphs that are blocked are those with errors in their report. -/
theorem hasErrors_iff_blocked (unique : graph.UniqueIds)
    (reported : ofGraph settings graph = .ok report) :
    report.hasErrors = true ↔ graph.Blocked := by
  constructor
  · intro severe
    rcases (hasErrors_iff_topics reported).mp severe with
      severe | ⟨node, listed, severe⟩ | ⟨node, listed, severe⟩ | ⟨edge, listed, severe⟩ | severe
    · exact blocked_of_ends severe
    · exact blocked_of_edgeCount listed severe
    · exact blocked_of_pair listed severe
    · exact blocked_of_dangling listed severe
    · exact blocked_of_reach severe
  · intro blocked
    cases blocked with
    | starts notOne =>
        rw [hasErrors_iff_topics reported]
        exact Or.inl (hasError_endFindings_iff.mpr (Or.inl notOne))
    | endless none =>
        rw [hasErrors_iff_topics reported]
        exact Or.inl (hasError_endFindings_iff.mpr (Or.inr none))
    | @stuck start listed role none =>
        rw [hasErrors_iff_topics reported]
        have severe := hasError_edgeCountFindings_iff.mpr ⟨role, outEdges_eq_nil_iff.mpr none⟩
        exact Or.inr (Or.inl ⟨start, listed, severe⟩)
    | noJoin listed role unnamed =>
        exact joinLink_hasErrors reported listed role
          (hasError_joinLinkFindings_iff.mpr (Or.inl unnamed))
    | unknownJoin listed role missing =>
        exact joinLink_hasErrors reported listed role
          (hasError_joinLinkFindings_iff.mpr (Or.inr (Or.inl (nodeAt?_eq_none_iff.mpr missing))))
    | wrongJoin listed role found named wrong =>
        -- Only here do ids have to be unique: the node found must be the one that is looked up.
        have joins := (Graph.nodeAt?_eq_some_iff unique).mpr ⟨found, named⟩
        exact joinLink_hasErrors reported listed role
          (hasError_joinLinkFindings_iff.mpr (Or.inr (Or.inr ⟨_, joins, wrong⟩)))
    | @unknownFork join listed role named missing =>
        rw [hasErrors_iff_topics reported]
        have severe := hasError_forkLinkFindings_iff.mpr
          ⟨named, nodeAt?_eq_none_iff.mpr missing⟩
        have paired := hasError_pairFindings_iff.mpr (Or.inr ⟨role, severe⟩)
        exact Or.inr (Or.inr (Or.inl ⟨join, listed, paired⟩))
    | unknownSource listed missing =>
        exact dangling_hasErrors reported listed (hasError_danglingEnds_iff.mpr (Or.inl missing))
    | unknownTarget listed missing =>
        exact dangling_hasErrors reported listed (hasError_danglingEnds_iff.mpr (Or.inr missing))
    | @outOfReach start only ends apart =>
        rw [hasErrors_iff_topics reported]
        have severe := hasError_reachFindings_iff.mpr ⟨start, only, ends, fun finish listed marked =>
          apart finish listed (Index.mem_reachable_iff.mp marked)⟩
        exact Or.inr (Or.inr (Or.inr (Or.inr severe)))

end Report

namespace Document

variable {settings : Settings} {document : Document} {report : Report}

theorem exported_of_hasErrors (reported : Report.ofGraph settings document.graph = .ok report)
    (severe : report.hasErrors = true) :
    document.exported settings = .error (.blocked report) := by
  rw [exported, reported]
  exact if_pos severe

/-- Without errors an export is what compiling gives, in an envelope. -/
theorem exported_of_clean (reported : Report.ofGraph settings document.graph = .ok report)
    (clean : report.hasErrors ≠ true) :
    document.exported settings =
      ((compile settings document.graph).mapError ExportError.failed).map fun actions =>
        .ofActions settings (some document.title) (Action.listJson actions) := by
  simp only [exported, reported]
  rw [if_neg clean]
  cases compile settings document.graph <;> rfl

/-- The gate: a document whose graph is blocked is refused with its report, and the errors there
are the findings of that severity in their order; every other document is compiled and wrapped. -/
theorem exported_gate (unique : document.graph.UniqueIds)
    (reported : Report.ofGraph settings document.graph = .ok report) :
    (report.hasErrors = true ↔ document.graph.Blocked) ∧
      (∀ refused, document.exported settings = .error (.blocked refused) ↔
        document.graph.Blocked ∧ refused = report) ∧
      report.errors = report.findings.filter (·.severity == .error) ∧
      (¬ document.graph.Blocked → document.exported settings =
        ((compile settings document.graph).mapError ExportError.failed).map fun actions =>
          .ofActions settings (some document.title) (Action.listJson actions)) := by
  have severe_iff := Report.hasErrors_iff_blocked unique reported
  refine ⟨severe_iff, fun refused => ?_, rfl, fun free => ?_⟩
  · by_cases severe : report.hasErrors = true
    · rw [exported_of_hasErrors reported severe]
      simp [severe_iff.mp severe, eq_comm]
    · rw [exported_of_clean reported severe]
      have free := mt severe_iff.mpr severe
      cases compile settings document.graph <;> simp [free, Except.mapError, Except.map]
  · exact exported_of_clean reported (mt severe_iff.mp free)

/-- The scene runs in a circle, and its end is never reached. -/
def lostDocument : Document where
  title := "Lost"
  graph := {
    nodes := [
      { id := "s", type := "start" },
      { id := "d", type := "dialogue" },
      { id := "z", type := "end" }]
    edges := [
      { id := "e1", source := "s", target := "d" },
      { id := "e2", source := "d", target := "d" }] }

theorem exported_gate_lostDocument :
    lostDocument.graph.UniqueIds ∧ ∃ report, Report.ofGraph {} lostDocument.graph = .ok report ∧
      (report.hasErrors = true ↔ lostDocument.graph.Blocked) ∧
      (∀ refused, lostDocument.exported {} = .error (.blocked refused) ↔
        lostDocument.graph.Blocked ∧ refused = report) ∧
      report.errors = report.findings.filter (·.severity == .error) ∧
      (¬ lostDocument.graph.Blocked → lostDocument.exported {} =
        ((compile {} lostDocument.graph).mapError ExportError.failed).map fun actions =>
          .ofActions {} (some lostDocument.title) (Action.listJson actions)) := by
  have unique : lostDocument.graph.UniqueIds := by
    constructor
    · decide
    · decide
  have reported : ∃ report, Report.ofGraph {} lostDocument.graph = .ok report := ⟨_, rfl⟩
  obtain ⟨report, reported⟩ := reported
  exact ⟨unique, report, reported, exported_gate unique reported⟩

end Document

end SceneScript
