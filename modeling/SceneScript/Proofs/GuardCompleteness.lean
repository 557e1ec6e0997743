import SceneScript.Action.Basic
import SceneScript.Proofs.Topics
import SceneScript.Proofs.Trimmed

/-!
Guards that a report is silent about. What the report asks of a guard is stated problem by problem:
there is none exactly when the fields of the edge are as they should be. Main statement: such a
guard is compiled to a record in which nothing is missing, unless it is to wait for an undefined
time, which the report lets pass and the record leaves out.
-/

namespace SceneScript

theorem Double.toInt?_zero {negative : Bool} {fits : Representable 0} :
    (finite negative 0 fits).toInt? = some 0 := by
  rw [toInt?, Nat.zero_mod, if_pos rfl, Nat.zero_div]
  cases negative <;> rfl

/-- Of the numbers that are neither below zero nor zero only the undefined one is not positive. -/
theorem Number.isPositive_iff {number : Number} (above : number.isNegative = false)
    (apart : number.toInt? ≠ some 0) : number.isPositive = true ↔ number ≠ .double .nan := by
  cases number with
  | int value =>
      simp only [isNegative, decide_eq_false_iff_not] at above
      simp only [toInt?, ne_eq, Option.some.injEq] at apart
      simp only [isPositive, decide_eq_true_eq, ne_eq, reduceCtorEq, not_false_eq_true, iff_true]
      omega
  | double value =>
      cases value with
      | finite negative units fits =>
          have some : units ≠ 0 := by
            rintro rfl
            rw [toInt?, Double.toInt?_zero] at apart
            exact apart rfl
          cases negative with
          | true => simp [isNegative, Double.isNegative, some] at above
          | false => simp [isPositive, Double.isPositive, some]
      | infinite negative =>
          cases negative with
          | true => cases above
          | false => simp [isPositive, Double.isPositive]
      | nan => simp [isPositive, Double.isPositive]

theorem Text.dropStart?_eq_none_iff {start text : String} :
    dropStart? start text = none ↔ ¬ start.toList <+: text.toList := by
  rw [dropStart?, Option.map_eq_none_iff, Option.eq_none_iff_forall_ne_some]
  constructor
  · rintro none ⟨rest, same⟩
    exact none rest ((dropCharsStart?_eq_some_iff _ _ rest).mpr same.symm)
  · rintro apart rest found
    exact apart ⟨rest, ((dropCharsStart?_eq_some_iff _ _ rest).mp found).symm⟩

namespace Guard

/-- A name of a global variable as authors write it, without the mark that the engine adds. -/
def Unmarked (mark name : String) : Prop := mark ≠ "" → ¬ mark.toList <+: name.toList

/-- What ends a wait: nothing but its condition, another variable, a node of the scene, or time. -/
inductive Ends (graph : Graph) (mark : String) (fields : Table Json) : Prop where
  | never (rule : Table.get? fields "stop_when" = some (.str "none"))
  | global {name equals : String} (rule : Table.get? fields "stop_when" = some (.str "global_var"))
      (named : Table.get? fields "end_var" = some (.str name))
      (given : Text.isBlankText name = false) (unmarked : Unmarked mark name)
      (compared : Table.get? fields "end_equals" = some (.str equals))
      (comparable : Text.isBlankText equals = false)
  | node {node : Node} (rule : Table.get? fields "stop_when" = some (.str "node_reached"))
      (listed : node ∈ graph.nodes)
      (named : Table.get? fields "end_node" = some (.str node.displayName))
      (given : node.displayName ≠ "")
  | timeout {seconds : Number} (rule : Table.get? fields "stop_when" = some (.str "timeout"))
      (timed : Table.get? fields "end_timeout" = some (.num seconds))
      (positive : seconds.isPositive = true)

/-- The record of a guard that names its variable, compares it, and says what else ends its wait. -/
structure Complete (graph : Graph) (mark : String) (edge : Edge) (inner : List Action)
    (fields : Table Json) : Prop where
  isGuard : Table.get? fields "type" = some (.str "guard_global")
  actions : Table.get? fields "actions" = some (.arr (Action.listJson inner))
  global : Table.get? fields "var" = some (.str (Text.trim edge.conditionVar))
  given : Text.isBlankText (Text.trim edge.conditionVar) = false
  unmarked : Unmarked mark (Text.trim edge.conditionVar)
  compared : Table.get? fields "equals" = some (.str edge.conditionEquals)
  comparable : Text.isBlankText edge.conditionEquals = false
  policy : Table.get? fields "if_false" = some (.str "skip") ∨
    Table.get? fields "if_false" = some (.str "wait_until_true") ∧ Ends graph mark fields

end Guard

/-- The wait is to end after a time, and the time is undefined. -/
def Edge.WaitsUndefined (edge : Edge) : Prop :=
  edge.ifFalse = "wait_until_true" ∧ edge.stopWhen = "timeout" ∧
    edge.endTimeout = some (.double .nan)

namespace Report

variable {graph : Graph} {settings : Settings} {report : Report} {mark : String}
  {names : List String} {edge : Edge}

/-! What it takes for a guard to have no problem. -/

theorem isMarked_eq_false_iff {name : String} :
    isMarked mark name = false ↔ Guard.Unmarked mark name := by
  rw [isMarked, Guard.Unmarked, ← Text.dropStart?_eq_none_iff]
  by_cases unset : mark = "" <;> simp [unset]

/-- A name has no problem if trimming leaves some of it, and the mark does not begin it. -/
theorem nameProblems_eq_nil_iff {name : String} {missing marked : GuardProblem} :
    (if Text.trim name = "" then [missing]
      else if isMarked mark (Text.trim name) then [marked] else []) = [] ↔
      Text.isBlankText (Text.trim name) = false ∧ Guard.Unmarked mark (Text.trim name) := by
  rw [← isMarked_eq_false_iff]
  by_cases blank : Text.trim name = ""
  · simp only [blank, if_true]
    simp [Text.isBlankText]
  · have given : Text.isBlankText (Text.trim name) = false := by
      rw [← Bool.not_eq_true]
      intro nothing
      exact blank (Text.trim_eq_empty_iff.mpr (Text.isBlankText_of_trim nothing))
    by_cases isMark : isMarked mark (Text.trim name) = true <;> simp [blank, given, isMark]

theorem equalsProblems_eq_nil_iff {equals : String} {missing : GuardProblem} :
    (if Text.trim equals = "" then [missing] else []) = [] ↔ Text.isBlankText equals = false := by
  rw [← Bool.not_eq_true, ← Text.trim_eq_empty_iff]
  by_cases blank : Text.trim equals = "" <;> simp [blank]

theorem endNodeProblems_eq_nil_iff :
    endNodeProblems (Index.ofGraph graph).names edge = [] ↔
      Text.trim edge.endNode ≠ "" ∧
        ∃ node ∈ graph.nodes, node.displayName = Text.trim edge.endNode := by
  unfold endNodeProblems
  by_cases unnamed : Text.trim edge.endNode = ""
  · simp [unnamed]
  · by_cases known : Text.trim edge.endNode ∈ (Index.ofGraph graph).names
    · simpa [unnamed, known] using (Index.mem_names_iff.mp known).2
    · have unknown := mt Index.mem_names_iff.mpr known
      simpa [unnamed, known] using unknown

theorem timeoutProblems_eq_nil_iff :
    timeoutProblems edge = [] ↔
      ∃ seconds, edge.endTimeout = some seconds ∧ seconds.isNegative = false ∧
        seconds.toInt? ≠ some 0 := by
  unfold timeoutProblems
  cases edge.endTimeout with
  | none => simp
  | some seconds =>
      by_cases below : seconds.isNegative = true
      · simp [below]
      · by_cases zero : seconds.toInt? = some 0 <;> simp [below, zero]

/-- There is nothing to say about the end of a wait. -/
theorem stopProblems_eq_nil_iff :
    stopProblems mark (Index.ofGraph graph).names edge = [] ↔
      edge.stopWhen = "none" ∨
        (edge.stopWhen = "global_var" ∧ endVariableProblems mark edge = []) ∨
        (edge.stopWhen = "node_reached" ∧
          endNodeProblems (Index.ofGraph graph).names edge = []) ∨
        (edge.stopWhen = "timeout" ∧ timeoutProblems edge = []) := by
  unfold stopProblems
  split <;> simp_all

theorem policyProblems_eq_nil_iff :
    policyProblems mark names edge = [] ↔
      edge.ifFalse = "skip" ∨
        (edge.ifFalse = "wait_until_true" ∧ stopProblems mark names edge = []) := by
  unfold policyProblems
  split <;> simp_all

theorem guardProblems_eq_nil_iff (enabled : edge.conditionEnabled = true) :
    guardProblems mark names edge = [] ↔
      (Text.isBlankText (Text.trim edge.conditionVar) = false ∧
        Guard.Unmarked mark (Text.trim edge.conditionVar)) ∧
      Text.isBlankText edge.conditionEquals = false ∧ policyProblems mark names edge = [] := by
  rw [guardProblems, if_pos enabled, List.append_eq_nil_iff, List.append_eq_nil_iff,
    variableProblems, nameProblems_eq_nil_iff, equalsProblems_eq_nil_iff, and_assoc]

theorem guard_mem_findings (reported : ofGraph settings graph = .ok report)
    (listed : edge ∈ graph.edges) {problem : GuardProblem}
    (found : problem ∈ guardProblems settings.globalVarPrefix (Index.ofGraph graph).names edge) :
    .guard edge.id problem ∈ report.findings := by
  rw [mem_findings_iff_isOf reported]
  exact ⟨edge, listed, List.mem_map.mpr ⟨problem, found, rfl⟩⟩

/-- A report that does not speak of an edge has found no problem with its guard. -/
theorem guardProblems_of_silent (reported : ofGraph settings graph = .ok report)
    (listed : edge ∈ graph.edges)
    (silent : ∀ finding ∈ report.findings, finding.edgeId? ≠ some edge.id) :
    guardProblems settings.globalVarPrefix (Index.ofGraph graph).names edge = [] := by
  rw [List.eq_nil_iff_forall_not_mem]
  intro problem member
  exact silent _ (guard_mem_findings reported listed member) rfl

end Report

namespace Guard

variable {graph : Graph} {settings : Settings} {report : Report} {mark : String} {edge : Edge}
  {inner : List Action}

theorem bareName_of_unmarked {name : String} (unmarked : Unmarked mark (Text.trim name)) :
    bareName mark name = Text.trim name := by
  unfold bareName
  by_cases unset : mark = ""
  · simp [unset]
  · have apart := Text.dropStart?_eq_none_iff.mpr (unmarked unset)
    simp [unset, apart]

theorem ne_empty_of_given {name : String} (given : Text.isBlankText name = false) : name ≠ "" := by
  rintro rfl
  cases given

/-- The fields of a guard that does not wait, in their order. -/
def skipFields (edge : Edge) (inner : List Action) : Table Json :=
  [("type", .str "guard_global"), ("var", .str (Text.trim edge.conditionVar)),
    ("equals", .str edge.conditionEquals), ("if_false", .str "skip"),
    ("actions", .arr (Action.listJson inner))]

/-- The fields of a guard that waits, in their order; those of what ends the wait come last. -/
def waitFields (edge : Edge) (inner : List Action) (stop : Option StopRule) : Table Json :=
  [("type", .str "guard_global"), ("var", .str (Text.trim edge.conditionVar)),
    ("equals", .str edge.conditionEquals), ("if_false", .str "wait_until_true"),
    ("actions", .arr (Action.listJson inner)), ("stop_when", .str edge.stopWhen)] ++
    (stop.map stopFields).getD []

theorem listJson_of_skip (enabled : edge.conditionEnabled = true)
    (given : Text.isBlankText (Text.trim edge.conditionVar) = false)
    (unmarked : Unmarked mark (Text.trim edge.conditionVar)) (policy : edge.ifFalse = "skip") :
    Action.listJson (Action.underGuard mark edge inner) = [.obj (skipFields edge inner)] := by
  have named := ne_empty_of_given given
  have found : ofEdge? mark edge =
      some ⟨Text.trim edge.conditionVar, edge.conditionEquals, "skip", none, none⟩ := by
    simp [ofEdge?, bareName_of_unmarked unmarked, enabled, named, policy, orElse]
  rw [Action.underGuard, found]
  rfl

theorem listJson_of_wait (enabled : edge.conditionEnabled = true)
    (given : Text.isBlankText (Text.trim edge.conditionVar) = false)
    (unmarked : Unmarked mark (Text.trim edge.conditionVar))
    (policy : edge.ifFalse = "wait_until_true") (stops : edge.stopWhen ≠ "") :
    Action.listJson (Action.underGuard mark edge inner) =
      [.obj (waitFields edge inner (stopRule? mark edge edge.stopWhen))] := by
  have named := ne_empty_of_given given
  have found : ofEdge? mark edge =
      some ⟨Text.trim edge.conditionVar, edge.conditionEquals, "wait_until_true",
        some edge.stopWhen, stopRule? mark edge edge.stopWhen⟩ := by
    simp [ofEdge?, bareName_of_unmarked unmarked, enabled, named, policy, stops, orElse]
  rw [Action.underGuard, found]
  rfl

theorem complete_skipFields
    (given : Text.isBlankText (Text.trim edge.conditionVar) = false)
    (unmarked : Unmarked mark (Text.trim edge.conditionVar))
    (comparable : Text.isBlankText edge.conditionEquals = false) :
    Complete graph mark edge inner (skipFields edge inner) where
  isGuard := rfl
  actions := rfl
  global := rfl
  given := given
  unmarked := unmarked
  compared := rfl
  comparable := comparable
  policy := Or.inl rfl

/-- All that a waiting guard can lack is an end of its wait. -/
theorem complete_waitFields_iff {stop : Option StopRule}
    (given : Text.isBlankText (Text.trim edge.conditionVar) = false)
    (unmarked : Unmarked mark (Text.trim edge.conditionVar))
    (comparable : Text.isBlankText edge.conditionEquals = false) :
    Complete graph mark edge inner (waitFields edge inner stop) ↔
      Ends graph mark (waitFields edge inner stop) := by
  constructor
  · rintro ⟨-, -, -, -, -, -, -, skips | ⟨-, ends⟩⟩
    · simp [waitFields, Table.get?] at skips
    · exact ends
  · intro ends
    exact ⟨rfl, rfl, rfl, given, unmarked, rfl, comparable, Or.inr ⟨rfl, ends⟩⟩

theorem ends_of_global (rule : edge.stopWhen = "global_var")
    (sound : Report.endVariableProblems mark edge = []) :
    Ends graph mark (waitFields edge inner (stopRule? mark edge edge.stopWhen)) := by
  rw [Report.endVariableProblems, List.append_eq_nil_iff, Report.nameProblems_eq_nil_iff,
    Report.equalsProblems_eq_nil_iff] at sound
  obtain ⟨⟨given, unmarked⟩, comparable⟩ := sound
  have stop : stopRule? mark edge edge.stopWhen =
      some (.global (Text.trim edge.endVar) edge.endEquals) := by
    simp [rule, stopRule?, bareName_of_unmarked unmarked, ne_empty_of_given given]
  rw [stop]
  refine .global ?_ rfl given unmarked rfl comparable
  simp [waitFields, Table.get?, rule]

theorem ends_of_node (rule : edge.stopWhen = "node_reached")
    (sound : Report.endNodeProblems (Index.ofGraph graph).names edge = []) :
    Ends graph mark (waitFields edge inner (stopRule? mark edge edge.stopWhen)) := by
  obtain ⟨named, node, listed, same⟩ := Report.endNodeProblems_eq_nil_iff.mp sound
  have stop : stopRule? mark edge edge.stopWhen = some (.node node.displayName) := by
    simp [rule, stopRule?, named, same]
  rw [stop]
  refine .node ?_ listed rfl (same ▸ named)
  simp [waitFields, Table.get?, rule]

/-- A wait that is to end after a time does so unless the time is undefined. -/
theorem ends_timeout_iff (rule : edge.stopWhen = "timeout")
    (sound : Report.timeoutProblems edge = []) :
    Ends graph mark (waitFields edge inner (stopRule? mark edge edge.stopWhen)) ↔
      edge.endTimeout ≠ some (.double .nan) := by
  obtain ⟨seconds, timed, above, apart⟩ := Report.timeoutProblems_eq_nil_iff.mp sound
  have named (stop : Option StopRule) :
      Table.get? (waitFields edge inner stop) "stop_when" = some (.str "timeout") := by
    simp [waitFields, Table.get?, rule]
  rw [timed, ne_eq, Option.some.injEq, ← ne_eq, ← Number.isPositive_iff above apart, rule]
  by_cases positive : seconds.isPositive = true
  · have stop : stopRule? mark edge "timeout" = some (.timeout seconds) := by
      simp [stopRule?, timed, Option.filter, positive]
    rw [stop]
    exact iff_of_true (.timeout (named _) rfl positive) positive
  · have stop : stopRule? mark edge "timeout" = none := by
      simp [stopRule?, timed, Option.filter, positive]
    rw [stop]
    refine iff_of_false ?_ positive
    intro ends
    cases ends with
    | never other | global other | node other => simp [named] at other
    | timeout _ given => simp [waitFields, Table.get?] at given

/-- The guard of an edge that a report does not speak of is compiled to a complete record, unless
it waits for an undefined time. -/
theorem complete_iff_of_silent (reported : Report.ofGraph settings graph = .ok report)
    (listed : edge ∈ graph.edges) (enabled : edge.conditionEnabled = true)
    (silent : ∀ finding ∈ report.findings, finding.edgeId? ≠ some edge.id)
    (inner : List Action) :
    ∃ fields,
      Action.listJson (Action.underGuard settings.globalVarPrefix edge inner) = [.obj fields] ∧
        (Complete graph settings.globalVarPrefix edge inner fields ↔ ¬ edge.WaitsUndefined) := by
  have sound := Report.guardProblems_of_silent reported listed silent
  obtain ⟨⟨given, unmarked⟩, comparable, policy⟩ :=
    (Report.guardProblems_eq_nil_iff enabled).mp sound
  rcases Report.policyProblems_eq_nil_iff.mp policy with skips | ⟨waits, stops⟩
  · refine ⟨_, listJson_of_skip enabled given unmarked skips, ?_⟩
    have complete : Complete graph settings.globalVarPrefix edge inner (skipFields edge inner) :=
      complete_skipFields given unmarked comparable
    simp [complete, Edge.WaitsUndefined, skips]
  · have rules := Report.stopProblems_eq_nil_iff.mp stops
    have some : edge.stopWhen ≠ "" := by
      rcases rules with rule | ⟨rule, -⟩ | ⟨rule, -⟩ | ⟨rule, -⟩ <;> simp [rule]
    refine ⟨_, listJson_of_wait enabled given unmarked waits some, ?_⟩
    rw [complete_waitFields_iff given unmarked comparable]
    rcases rules with rule | ⟨rule, sound⟩ | ⟨rule, sound⟩ | ⟨rule, sound⟩
    · refine iff_of_true (.never ?_) (by simp [Edge.WaitsUndefined, rule])
      simp [waitFields, Table.get?, rule]
    · exact iff_of_true (ends_of_global rule sound) (by simp [Edge.WaitsUndefined, rule])
    · exact iff_of_true (ends_of_node rule sound) (by simp [Edge.WaitsUndefined, rule])
    · rw [ends_timeout_iff rule sound]
      simp [Edge.WaitsUndefined, waits, rule]

/-- Waits for its variable at the gate, until the gate itself is passed. -/
def gateEdge : Edge where
  id := "e1"
  source := "s"
  target := "z"
  waitSeconds := some (.int 2)
  conditionEnabled := true
  conditionVar := " door "
  conditionEquals := "open"
  ifFalse := "wait_until_true"
  stopWhen := "node_reached"
  endNode := "Gate"

/-- Waits for its variable, until a time that is none. -/
def endlessEdge : Edge where
  id := "e1"
  source := "s"
  target := "z"
  waitSeconds := some (.int 2)
  conditionEnabled := true
  conditionVar := "door"
  conditionEquals := "open"
  ifFalse := "wait_until_true"
  stopWhen := "timeout"
  endTimeout := some (.double .nan)

def sceneOf (edge : Edge) : Graph where
  nodes := [{ id := "s", type := "start" }, { id := "z", type := "end", name := some " Gate" }]
  edges := [edge]

theorem complete_iff_of_silent_gateEdge :
    ∃ report, Report.ofGraph {} (sceneOf gateEdge) = .ok report ∧
      gateEdge ∈ (sceneOf gateEdge).edges ∧ gateEdge.conditionEnabled = true ∧
      (∀ finding ∈ report.findings, finding.edgeId? ≠ some gateEdge.id) ∧
      ∃ fields, Action.listJson (Action.underGuard "global." gateEdge [.wait (.int 2)]) =
          [.obj fields] ∧
        (Complete (sceneOf gateEdge) "global." gateEdge [.wait (.int 2)] fields ↔
          ¬ gateEdge.WaitsUndefined) := by
  have reported : Report.ofGraph {} (sceneOf gateEdge) = .ok ⟨[.unnamed "s" "start"]⟩ := by
    with_unfolding_all rfl
  have listed : gateEdge ∈ (sceneOf gateEdge).edges := List.mem_singleton_self gateEdge
  have silent : ∀ finding ∈ [Finding.unnamed "s" "start"], finding.edgeId? ≠ some gateEdge.id := by
    decide
  exact ⟨_, reported, listed, rfl, silent,
    complete_iff_of_silent reported listed rfl silent [.wait (.int 2)]⟩

/-- The report does not speak of the edge, and still its record says of no end to the wait. -/
theorem not_complete_endlessEdge :
    ∃ report, Report.ofGraph {} (sceneOf endlessEdge) = .ok report ∧
      endlessEdge ∈ (sceneOf endlessEdge).edges ∧ endlessEdge.conditionEnabled = true ∧
      (∀ finding ∈ report.findings, finding.edgeId? ≠ some endlessEdge.id) ∧
      ∃ fields, Action.listJson (Action.underGuard "global." endlessEdge [.wait (.int 2)]) =
          [.obj fields] ∧
        ¬ Complete (sceneOf endlessEdge) "global." endlessEdge [.wait (.int 2)] fields := by
  have reported : Report.ofGraph {} (sceneOf endlessEdge) = .ok ⟨[.unnamed "s" "start"]⟩ := by
    with_unfolding_all rfl
  have silent : ∀ finding ∈ [Finding.unnamed "s" "start"],
      finding.edgeId? ≠ some endlessEdge.id := by
    decide
  refine ⟨_, reported, List.mem_singleton_self endlessEdge, rfl, silent,
    waitFields endlessEdge [.wait (.int 2)] none, rfl, ?_⟩
  rintro ⟨-, -, -, -, -, -, -, skips | ⟨-, ends⟩⟩
  · simp [waitFields, Table.get?] at skips
  · have endless := (ends_timeout_iff rfl rfl).mp ends
    exact endless rfl

end Guard

end SceneScript
