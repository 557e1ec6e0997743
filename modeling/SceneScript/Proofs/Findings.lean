import SceneScript.Proofs.Outcome
import SceneScript.Proofs.Scan
import SceneScript.Report.Basic

/-!
Which findings a report holds, topic by topic, and which of them are errors. Main statement: a
report has errors exactly when one of its topics that can hold errors does; names, parameters,
lanes, waits and guards never do. And a graph has no report exactly when one of its waits cannot be
shown.
-/

namespace SceneScript

/-- A wait of less than no time that has no brief form to be shown in. -/
def Edge.HasUnshowableWait (edge : Edge) : Prop :=
  ∃ seconds, edge.waitSeconds = some (.int seconds) ∧ seconds < 0 ∧
    (Double.ofInt seconds).isFinite = false

namespace Report

variable {graph : Graph} {settings : Settings} {report : Report} {finding : Finding}

/-- The ends of an edge that name no node. -/
def danglingEnds (index : Index) (edge : Edge) : List Finding :=
  (if index.hasNode edge.source then [] else [.unknownSource edge.id edge.source]) ++
    (if index.hasNode edge.target then [] else [.unknownTarget edge.id edge.target])

theorem mem_referenceFindings_iff {index : Index} {edges : List Edge} {findings : List Finding}
    (checked : referenceFindings index edges = .ok findings) :
    finding ∈ findings ↔ ∃ edge ∈ edges, finding ∈ danglingEnds index edge ∨
      ∃ waits, waitFindings edge = .ok waits ∧ finding ∈ waits := by
  induction edges generalizing findings with
  | nil =>
      cases checked
      simp
  | cons edge rest ih =>
      obtain ⟨waits, waited, checked⟩ := bind_eq_ok_iff.mp checked
      obtain ⟨others, remaining, same⟩ := bind_eq_ok_iff.mp checked
      cases same
      rw [List.mem_append, ih remaining, List.mem_append]
      simp [danglingEnds, waited]

attribute [simp] Finding.severity

def HasError (findings : List Finding) : Prop := ∃ finding ∈ findings, finding.severity = .error

theorem hasErrors_iff : report.hasErrors = true ↔ HasError report.findings := by
  simp [hasErrors, errors, withSeverity, HasError]

@[simp]
theorem not_hasError_nil : ¬ HasError [] := by
  rintro ⟨finding, member, -⟩
  cases member

@[simp]
theorem hasError_cons {rest : List Finding} :
    HasError (finding :: rest) ↔ finding.severity = .error ∨ HasError rest := by
  simp [HasError]

@[simp]
theorem hasError_append {first second : List Finding} :
    HasError (first ++ second) ↔ HasError first ∨ HasError second := by
  simp [HasError, or_and_right, exists_or]

@[simp]
theorem hasError_flatMap {α : Type} {items : List α} {topic : α → List Finding} :
    HasError (items.flatMap topic) ↔ ∃ item ∈ items, HasError (topic item) := by
  constructor
  · rintro ⟨finding, member, severe⟩
    obtain ⟨item, listed, found⟩ := List.mem_flatMap.mp member
    exact ⟨item, listed, finding, found, severe⟩
  · rintro ⟨item, listed, finding, found, severe⟩
    exact ⟨finding, List.mem_flatMap.mpr ⟨item, listed, found⟩, severe⟩

@[simp]
theorem hasError_when {p : Prop} [Decidable p] :
    HasError (if p then [finding] else []) ↔ p ∧ finding.severity = .error := by
  by_cases holds : p <;> simp [holds]

@[simp]
theorem hasError_unless {p : Prop} [Decidable p] :
    HasError (if p then [] else [finding]) ↔ ¬ p ∧ finding.severity = .error := by
  by_cases holds : p <;> simp [holds]

theorem not_hasError_map {α : Type} {items : List α} {make : α → Finding}
    (mild : ∀ item, (make item).severity ≠ .error) : ¬ HasError (items.map make) := by
  rintro ⟨finding, member, severe⟩
  obtain ⟨item, -, rfl⟩ := List.mem_map.mp member
  exact mild item severe

/-! Topics without errors. -/

theorem not_hasError_nameFindings : ¬ HasError (nameFindings graph) := by
  rw [nameFindings, hasError_append, hasError_flatMap]
  rintro (unnamed | ⟨⟨name, users⟩, -, shared⟩)
  · exact not_hasError_map (fun node => by simp) unnamed
  · by_cases alone : users.length ≤ 1
    · simp [alone] at shared
    · simp only [alone, if_false] at shared
      exact not_hasError_map (fun user => by simp) shared

theorem not_hasError_functionFindings (node : Node) : ¬ HasError (functionFindings node) := by
  rw [functionFindings, hasError_append]
  rintro (unnamed | unreadable)
  · simp at unnamed
  · split at unreadable
    · simp at unreadable
    · exact not_hasError_nil unreadable

theorem not_hasError_paramFindings (index : Index) (node : Node) :
    ¬ HasError (paramFindings index node) := by
  rw [paramFindings, hasError_append]
  rintro (missing | ofType)
  · exact not_hasError_map (fun field => by simp) missing
  · unfold typeFindings at ofType
    split at ofType
    · simp at ofType
    · simp at ofType
    · exact not_hasError_functionFindings node ofType
    · exact not_hasError_nil ofType

theorem not_hasError_laneFindings (laneEnd : LaneEnd) (node : Node) (edges : List Edge) :
    ¬ HasError (laneFindings laneEnd node edges) :=
  not_hasError_map fun problem => by simp

theorem not_hasError_guardFindings (mark : String) (names : List String) (edge : Edge) :
    ¬ HasError (guardFindings mark names edge) :=
  not_hasError_map fun problem => by simp

/-- All that can be said of a wait is that it is negative. -/
theorem eq_negativeWait {edge : Edge} {waits : List Finding} (waited : waitFindings edge = .ok waits)
    (found : finding ∈ waits) : ∃ shown, finding = .negativeWait edge.id shown := by
  unfold waitFindings at waited
  split at waited
  · rename_i seconds given
    split at waited
    · cases shown : seconds.writeBrief with
      | error fault =>
          rw [shown] at waited
          cases waited
      | ok text =>
          rw [shown] at waited
          cases waited
          exact ⟨text, List.mem_singleton.mp found⟩
    · cases waited
      cases found
  · cases waited
    cases found

theorem not_hasError_waitFindings {edge : Edge} {waits : List Finding}
    (waited : waitFindings edge = .ok waits) : ¬ HasError waits := by
  rintro ⟨finding, found, severe⟩
  obtain ⟨shown, rfl⟩ := eq_negativeWait waited found
  simp at severe

/-! Topics with errors. -/

theorem hasError_endFindings_iff :
    HasError (endFindings graph) ↔
      (graph.withRole .start).length ≠ 1 ∨ graph.withRole .finish = [] := by
  rw [endFindings, hasError_append]
  refine or_congr ?_ ?_
  · rcases graph.withRole .start with _ | ⟨start, _ | ⟨second, rest⟩⟩ <;> simp
  · cases graph.withRole .finish <;> simp

theorem hasError_edgeCountFindings_iff {node : Node} :
    HasError (edgeCountFindings (.ofGraph graph) node) ↔
      node.role = .start ∧ graph.outEdges node.id = [] := by
  by_cases start : node.role = .start
  · simp [edgeCountFindings, start, isCutOff]
  · by_cases none : graph.outEdges node.id = []
    · simp [edgeCountFindings, start, none]
    · simp [edgeCountFindings, start, none]

theorem hasError_joinLinkFindings_iff {fork : Node} :
    HasError (joinLinkFindings (.ofGraph graph) fork) ↔
      fork.textParam "joinId" = "" ∨ graph.nodeAt? (fork.textParam "joinId") = none ∨
        ∃ other, graph.nodeAt? (fork.textParam "joinId") = some other ∧ other.role ≠ .join := by
  simp only [joinLinkFindings, Index.node?_ofGraph]
  by_cases unnamed : fork.textParam "joinId" = ""
  · simp [unnamed]
  · cases found : graph.nodeAt? (fork.textParam "joinId") with
    | none => simp [unnamed]
    | some other => simp [unnamed]

theorem hasError_forkLinkFindings_iff {join : Node} :
    HasError (forkLinkFindings (.ofGraph graph) join) ↔
      join.textParam "pairId" ≠ "" ∧ graph.nodeAt? (join.textParam "pairId") = none := by
  simp only [forkLinkFindings, Index.node?_ofGraph]
  by_cases unnamed : join.textParam "pairId" = ""
  · simp [unnamed]
  · cases found : graph.nodeAt? (join.textParam "pairId") with
    | none => simp [unnamed]
    | some fork =>
        by_cases stray : fork.role ≠ .fork ∨ fork.textParam "joinId" ≠ join.id
        · simp [unnamed, stray]
        · simp [unnamed, stray]

theorem hasError_pairFindings_iff {node : Node} :
    HasError (pairFindings (.ofGraph graph) node) ↔
      (node.role = .fork ∧ HasError (joinLinkFindings (.ofGraph graph) node)) ∨
        (node.role = .join ∧ HasError (forkLinkFindings (.ofGraph graph) node)) := by
  unfold pairFindings
  cases role : node.role <;> simp [not_hasError_laneFindings]

theorem hasError_danglingEnds_iff {edge : Edge} :
    HasError (danglingEnds (.ofGraph graph) edge) ↔
      ¬ graph.Has edge.source ∨ ¬ graph.Has edge.target := by
  simp [danglingEnds]

theorem hasError_reachFindings_iff :
    HasError (reachFindings (.ofGraph graph)) ↔
      ∃ start, graph.withRole .start = [start] ∧ graph.withRole .finish ≠ [] ∧
        ∀ finish ∈ graph.withRole .finish,
          finish.id ∉ (Index.ofGraph graph).reachable start.id := by
  have same : (Index.ofGraph graph).graph = graph := rfl
  unfold reachFindings
  rw [same]
  rcases graph.withRole .start with _ | ⟨start, _ | ⟨second, rest⟩⟩
  · simp
  · rw [hasError_append, or_iff_right (not_hasError_map fun node => by simp)]
    simp
  · simp

/-- A report has errors exactly when one of the topics with errors has. -/
theorem hasErrors_iff_topics (reported : ofGraph settings graph = .ok report) :
    report.hasErrors = true ↔
      HasError (endFindings graph) ∨
        (∃ node ∈ graph.nodes, HasError (edgeCountFindings (.ofGraph graph) node)) ∨
        (∃ node ∈ graph.nodes, HasError (pairFindings (.ofGraph graph) node)) ∨
        (∃ edge ∈ graph.edges, HasError (danglingEnds (.ofGraph graph) edge)) ∨
        HasError (reachFindings (.ofGraph graph)) := by
  obtain ⟨references, checked, same⟩ := bind_eq_ok_iff.mp reported
  cases same
  -- One pass over the edges finds both dangling ends and waits; only the ends are errors.
  have dangling : HasError references ↔
      ∃ edge ∈ graph.edges, HasError (danglingEnds (.ofGraph graph) edge) := by
    constructor
    · rintro ⟨finding, member, severe⟩
      obtain ⟨edge, listed, ends | ⟨waits, waited, found⟩⟩ :=
        (mem_referenceFindings_iff checked).mp member
      · exact ⟨edge, listed, finding, ends, severe⟩
      · exact (not_hasError_waitFindings waited ⟨finding, found, severe⟩).elim
    · rintro ⟨edge, listed, finding, ends, severe⟩
      exact ⟨finding, (mem_referenceFindings_iff checked).mpr ⟨edge, listed, Or.inl ends⟩, severe⟩
  rw [hasErrors_iff]
  simp [not_hasError_nameFindings, not_hasError_paramFindings, not_hasError_guardFindings,
    dangling]

/-- A report is its topics one after another. -/
theorem mem_findings_iff (reported : ofGraph settings graph = .ok report) :
    finding ∈ report.findings ↔
      finding ∈ nameFindings graph ∨ finding ∈ endFindings graph ∨
        (∃ node ∈ graph.nodes, finding ∈ edgeCountFindings (.ofGraph graph) node) ∨
        (∃ node ∈ graph.nodes, finding ∈ paramFindings (.ofGraph graph) node) ∨
        (∃ node ∈ graph.nodes, finding ∈ pairFindings (.ofGraph graph) node) ∨
        (∃ edge ∈ graph.edges, finding ∈ danglingEnds (.ofGraph graph) edge ∨
          ∃ waits, waitFindings edge = .ok waits ∧ finding ∈ waits) ∨
        (∃ edge ∈ graph.edges, finding ∈
          guardFindings settings.globalVarPrefix (Index.ofGraph graph).names edge) ∨
        finding ∈ reachFindings (.ofGraph graph) := by
  obtain ⟨references, checked, same⟩ := bind_eq_ok_iff.mp reported
  cases same
  simp only [List.mem_append, List.mem_flatMap, mem_referenceFindings_iff checked, or_assoc]

/-! Graphs without a report. -/

theorem waitFindings_eq_error_iff {edge : Edge} {fault : NumberFault} :
    waitFindings edge = .error fault ↔ edge.HasUnshowableWait := by
  unfold waitFindings Edge.HasUnshowableWait
  cases edge.waitSeconds with
  | none => simp
  | some wait =>
      cases wait with
      | int seconds =>
          cases finite : (Double.ofInt seconds).isFinite <;>
            by_cases negative : seconds < 0 <;>
            simp [Number.isNegative, Number.writeBrief, negative, finite]
      | double seconds =>
          cases negative : seconds.isNegative <;>
            simp [Number.isNegative, Number.writeBrief, negative]

theorem referenceFindings_eq_error_iff {index : Index} {edges : List Edge} {fault : NumberFault} :
    referenceFindings index edges = .error fault ↔ ∃ edge ∈ edges, edge.HasUnshowableWait := by
  induction edges with
  | nil => simp [referenceFindings]
  | cons edge rest ih =>
      rw [List.exists_mem_cons_iff, ← ih, ← @waitFindings_eq_error_iff edge fault]
      simp only [referenceFindings, bind_eq_error_iff, reduceCtorEq, and_false, exists_false,
        or_false]
      -- Where the first wait cannot be shown, the others are not looked at.
      cases waitFindings edge with
      | error first =>
          cases first
          cases fault
          simp
      | ok waits => simp

/-- What the pass over the edges finds of one edge whose wait can be shown. -/
def edgeFindings (index : Index) (edge : Edge) : List Finding :=
  danglingEnds index edge ++ (waitFindings edge).toOption.getD []

theorem exists_waitFindings_iff {edge : Edge} :
    (∃ waits, waitFindings edge = .ok waits) ↔ ¬ edge.HasUnshowableWait := by
  rw [← @waitFindings_eq_error_iff edge .beyondDoubles]
  cases waitFindings edge with
  | error fault =>
      cases fault
      simp
  | ok waits => simp

theorem referenceFindings_eq_ok_iff {index : Index} {edges : List Edge} {findings : List Finding} :
    referenceFindings index edges = .ok findings ↔
      (∀ edge ∈ edges, ¬ edge.HasUnshowableWait) ∧
        findings = edges.flatMap (edgeFindings index) := by
  induction edges generalizing findings with
  | nil => simp [referenceFindings, eq_comm]
  | cons edge rest ih =>
      rw [List.forall_mem_cons, List.flatMap_cons]
      constructor
      · intro checked
        obtain ⟨waits, waited, checked⟩ := bind_eq_ok_iff.mp checked
        obtain ⟨others, remaining, same⟩ := bind_eq_ok_iff.mp checked
        obtain ⟨showables, rfl⟩ := ih.mp remaining
        cases same
        refine ⟨⟨exists_waitFindings_iff.mp ⟨waits, waited⟩, showables⟩, ?_⟩
        rw [edgeFindings, waited]
        rfl
      · rintro ⟨⟨showable, showables⟩, rfl⟩
        obtain ⟨waits, waited⟩ := exists_waitFindings_iff.mpr showable
        have remaining := ih.mpr ⟨showables, rfl⟩
        refine bind_eq_ok_iff.mpr ⟨waits, waited, bind_eq_ok_iff.mpr ⟨_, remaining, ?_⟩⟩
        rw [edgeFindings, waited]
        rfl

/-- A graph has no report exactly when a wait cannot be shown. -/
theorem ofGraph_eq_error_iff {fault : NumberFault} :
    ofGraph settings graph = .error fault ↔ ∃ edge ∈ graph.edges, edge.HasUnshowableWait := by
  rw [← @referenceFindings_eq_error_iff (.ofGraph graph) _ fault]
  unfold ofGraph
  simp [bind_eq_error_iff]

/-- All that a report says when every wait can be shown. -/
def allFindings (settings : Settings) (graph : Graph) : List Finding :=
  nameFindings graph ++ endFindings graph ++
    graph.nodes.flatMap (edgeCountFindings (.ofGraph graph)) ++
    graph.nodes.flatMap (paramFindings (.ofGraph graph)) ++
    graph.nodes.flatMap (pairFindings (.ofGraph graph)) ++
    graph.edges.flatMap (edgeFindings (.ofGraph graph)) ++
    graph.edges.flatMap
      (guardFindings settings.globalVarPrefix (Index.ofGraph graph).names) ++
    reachFindings (.ofGraph graph)

theorem ofGraph_eq_ok_iff :
    ofGraph settings graph = .ok report ↔
      (∀ edge ∈ graph.edges, ¬ edge.HasUnshowableWait) ∧
        report = ⟨allFindings settings graph⟩ := by
  rw [ofGraph, bind_eq_ok_iff]
  constructor
  · rintro ⟨references, checked, same⟩
    obtain ⟨showable, rfl⟩ := referenceFindings_eq_ok_iff.mp checked
    cases same
    exact ⟨showable, rfl⟩
  · rintro ⟨showable, rfl⟩
    exact ⟨_, referenceFindings_eq_ok_iff.mpr ⟨showable, rfl⟩, rfl⟩

end Report

end SceneScript
