import SceneScript.Proofs.Record
import SceneScript.Proofs.Topics
import SceneScript.Proofs.Visits

/-!
Required fields, in a report and in an action list. Main statement: the record of a node that a
compilation visits carries each required field that the report does not miss, except where the
compilation reads nothing from a parameter that the report takes as given; and a call carries its
arguments exactly when the report can read them.
-/

namespace SceneScript

namespace Node

/-- A parameter that the report takes as given and from which nothing is compiled: the condition
of a branch that is no text, and a blank name of a function under the older key. -/
def Misread (node : Node) : Prop :=
  (node.type = "branch" ∧ (node.param "condition").string? = none) ∨
    (node.type = "run_function" ∧ node.textParam "function_name" ≠ "" ∧
      Text.isBlankText (node.textParam "function_name") = true)

theorem textParam_eq (node : Node) (key : String) :
    node.textParam key = ((node.param key).string?).getD "" := by
  unfold textParam Table.string? param
  cases Table.get? node.params key <;> rfl

theorem role_eq_branch_iff {node : Node} : node.role = .branch ↔ node.type = "branch" := by
  simp only [role, Role.ofType]
  split <;> simp_all

/-- A parameter that is not empty is one that was given. -/
theorem get?_of_not_empty {node : Node} {key : String} (given : (node.param key).isEmpty = false) :
    ∃ value, Table.get? node.params key = some value ∧ value.isEmpty = false := by
  unfold param at given
  cases found : Table.get? node.params key with
  | none =>
      rw [found] at given
      cases given
  | some value =>
      rw [found] at given
      exact ⟨value, rfl, given⟩

end Node

namespace Action

/-- The records that stand for a node: that of a step, and that of a branch with its sides. -/
inductive RecordOf (node : Node) : Action → Prop where
  | step (role : node.role = .step) : RecordOf node (.ofNode node)
  | branch {whenTrue whenFalse : List Action} (role : node.role = .branch) :
      RecordOf node (.branch (node.textParam "condition") whenTrue whenFalse)

/-- The field is there and not empty; the name of a function is more than blanks. -/
def Carries (fields : Table Json) (field : String) : Prop :=
  ∃ value, Table.get? fields field = some value ∧ value.isEmpty = false ∧
    (field = "function" → ∃ name, value = .str name ∧ Text.isBlankText name = false)

variable {node : Node}

/-- A call carries its function unless the name that is read is blank. -/
theorem carries_function_iff (call : node.type = "run_function") :
    Carries (recordFields node) "function" ↔ Text.isBlankText (functionName node) = false := by
  have stored : Table.get? (recordFields node) "function" =
      if functionName node = "" then none else some (.str (functionName node)) := by
    rw [get?_recordFields_of_call call (by simp [functionKeys]) (by decide),
      get?_callFields_function]
  constructor
  · rintro ⟨value, found, -, called⟩
    obtain ⟨name, rfl, given⟩ := called rfl
    rw [stored] at found
    split at found
    · cases found
    · cases found
      exact given
  · intro given
    have named : functionName node ≠ "" := by
      intro unnamed
      rw [unnamed] at given
      cases given
    refine ⟨.str (functionName node), ?_, ?_, fun _ => ⟨_, rfl, given⟩⟩
    · rw [stored, if_neg named]
    · exact beq_eq_false_iff_ne.mpr named

/-- With a name under one of the keys, the one that is read is blank only if it is misread. -/
theorem isBlankText_functionName_iff (call : node.type = "run_function")
    (named : Text.isBlankText (node.textParam "function") = false ∨
      Text.isBlankText (node.textParam "function_name") = false) :
    Text.isBlankText (functionName node) = false ↔ ¬ node.Misread := by
  have misread : node.Misread ↔ node.textParam "function_name" ≠ "" ∧
      Text.isBlankText (node.textParam "function_name") = true := by
    simp [Node.Misread, call]
  rw [misread, functionName]
  -- The name under the newer key is read only where there is none under the older one.
  by_cases unset : node.textParam "function_name" = ""
  · have newer : Text.isBlankText (node.textParam "function") = false := by
      rcases named with newer | older
      · exact newer
      · rw [unset] at older
        cases older
    simp [unset, newer]
  · simp [unset]

/-- A branch carries its condition unless the condition is misread. -/
theorem carries_condition_iff (branch : node.type = "branch")
    (given : (node.param "condition").isEmpty = false) {fields : Table Json}
    (stored : Table.get? fields "condition" = some (.str (node.textParam "condition"))) :
    Carries fields "condition" ↔ ¬ node.Misread := by
  have misread : node.Misread ↔ (node.param "condition").string? = none := by
    simp [Node.Misread, branch]
  rw [misread]
  constructor
  · rintro ⟨value, found, full, -⟩ noText
    cases stored.symm.trans found
    rw [Node.textParam_eq, noText] at full
    cases full
  · intro isText
    obtain ⟨text, same⟩ := Option.ne_none_iff_exists'.mp isText
    refine ⟨_, stored, ?_, fun other => absurd other (by decide)⟩
    rw [Node.textParam_eq, same]
    cases param : node.param "condition" <;> rw [param] at same given <;> cases same
    exact given

end Action

namespace Report

open SceneScript.Action SceneScript.Compile

variable {graph : Graph} {settings : Settings} {report : Report} {node : Node} {field : String}

/-- The required fields of a type, the function of a call among them. -/
def neededFields (type : String) : List String :=
  requiredFields type ++ if type = "run_function" then ["function"] else []

theorem not_reserved_of_required {type : String} (required : field ∈ requiredFields type) :
    field ∉ bookkeeping ∧ field ∉ functionKeys ∧ type ≠ "run_function" := by
  unfold requiredFields at required
  grind [bookkeeping, functionKeys]

/-- What the report does not miss is there for it. -/
theorem not_isEmpty_of_silent (reported : ofGraph settings graph = .ok report)
    (listed : node ∈ graph.nodes) (required : field ∈ requiredFields node.type)
    (silent : .missingField node.id node.type field ∉ report.findings) :
    (node.param field).isEmpty = false := by
  rw [← Bool.not_eq_true]
  intro empty
  apply silent
  rw [mem_findings_iff_isOf reported]
  have missed : field ∈ (requiredFields node.type).filter fun field =>
      (node.param field).isEmpty := List.mem_filter.mpr ⟨required, empty⟩
  exact ⟨node, listed, List.mem_append_left _ (List.mem_map.mpr ⟨field, missed, rfl⟩)⟩

theorem functionFindings_mem_findings (reported : ofGraph settings graph = .ok report)
    (listed : node ∈ graph.nodes) (call : node.type = "run_function") {finding : Finding}
    (found : finding ∈ functionFindings node) : finding ∈ report.findings := by
  have ofParams : finding ∈ paramFindings (.ofGraph graph) node := by
    rw [paramFindings, List.mem_append, typeFindings, call]
    exact Or.inr found
  rw [mem_findings_iff_isOf reported, topic_functionFindings found]
  exact ⟨node, listed, ofParams⟩

/-- A call of which the report does not miss the function has a name under one of the keys. -/
theorem named_of_silent (reported : ofGraph settings graph = .ok report)
    (listed : node ∈ graph.nodes) (call : node.type = "run_function")
    (silent : .missingField node.id node.type "function" ∉ report.findings) :
    Text.isBlankText (node.textParam "function") = false ∨
      Text.isBlankText (node.textParam "function_name") = false := by
  by_contra unnamed
  rw [not_or, Bool.not_eq_false, Bool.not_eq_false] at unnamed
  apply silent
  apply functionFindings_mem_findings reported listed call
  rw [functionFindings, if_pos unnamed]
  exact List.mem_append_left _ (List.mem_singleton_self _)

theorem unreadableArgs_mem_functionFindings_iff {id : String} :
    .unreadableArgs id ∈ functionFindings node ↔
      node.id = id ∧ ∃ text, node.param "args" = .str text ∧ Text.isBlankText text = false ∧
        isReadable text = false := by
  unfold functionFindings
  rw [List.mem_append, or_iff_right (by simp)]
  split
  · rename_i text args
    by_cases fine : (Text.isBlankText text || isReadable text) = true
    · rw [if_pos fine]
      simp only [List.not_mem_nil, false_iff]
      rintro ⟨-, text', args', given, unreadable⟩
      cases args.symm.trans args'
      simp [given, unreadable] at fine
    · rw [if_neg fine, List.mem_singleton, Finding.unreadableArgs.injEq]
      simp only [Bool.or_eq_true, not_or, Bool.not_eq_true] at fine
      constructor
      · intro same
        exact ⟨same.symm, text, args, fine⟩
      · rintro ⟨same, -⟩
        exact same.symm
  · rename_i notText
    simp only [List.not_mem_nil, false_iff, not_and, not_exists]
    intro _ text args
    exact (notText text args).elim

/-- The report speaks of the arguments of a call exactly when it cannot read them. -/
theorem unreadableArgs_mem_findings_iff (unique : graph.UniqueIds)
    (reported : ofGraph settings graph = .ok report) (listed : node ∈ graph.nodes)
    (call : node.type = "run_function") {text : String} (args : node.param "args" = .str text)
    (given : Text.isBlankText text = false) :
    .unreadableArgs node.id ∈ report.findings ↔ isReadable text = false := by
  constructor
  · intro found
    obtain ⟨other, member, said⟩ := (mem_findings_iff_isOf reported).mp found
    have ofCall : .unreadableArgs node.id ∈ functionFindings other := by
      rw [paramFindings, List.mem_append, or_iff_right (by simp)] at said
      unfold typeFindings at said
      split at said
      · simp at said
      · simp at said
      · exact said
      · cases said
    obtain ⟨same, text', args', -, unreadable⟩ := unreadableArgs_mem_functionFindings_iff.mp ofCall
    -- No other node has the id, so the arguments spoken of are these.
    cases Graph.eq_of_id_eq unique member listed same
    cases args.symm.trans args'
    exact unreadable
  · intro unreadable
    apply functionFindings_mem_findings reported listed call
    exact unreadableArgs_mem_functionFindings_iff.mpr ⟨rfl, text, args, given, unreadable⟩

/-- The record of a step carries what the report finds given. -/
theorem carries_required (required : field ∈ requiredFields node.type)
    (given : (node.param field).isEmpty = false) : Carries (recordFields node) field := by
  obtain ⟨copyable, notOfCall, noCall⟩ := not_reserved_of_required required
  obtain ⟨value, stored, full⟩ := Node.get?_of_not_empty given
  have copied : isCopied node field value = true := by simp [isCopied, copyable, noCall, full]
  obtain ⟨kept, found, full⟩ := get?_recordFields_of_copied (Table.mem_of_get? stored) copied
  refine ⟨kept, found, full, ?_⟩
  rintro rfl
  exact (notOfCall (by decide)).elim

/-- What the records of a node carry of its required fields. -/
theorem carries_iff_of_silent {action : Action} (reported : ofGraph settings graph = .ok report)
    (listed : node ∈ graph.nodes) (stands : RecordOf node action) :
    ∃ fields, action.toJson = .obj fields ∧ ∀ field ∈ neededFields node.type,
      .missingField node.id node.type field ∉ report.findings →
        (Carries fields field ↔ ¬ node.Misread) := by
  cases stands with
  | step role =>
      refine ⟨recordFields node, rfl, ?_⟩
      intro field needed silent
      -- Only a call has a function to carry; every other field of a step is copied.
      rcases List.mem_append.mp needed with required | ofCall
      · have noBranch : node.type ≠ "branch" := by
          intro branch
          simp [Node.role, branch, Role.ofType] at role
        have noCall := (not_reserved_of_required required).2.2
        have given := not_isEmpty_of_silent reported listed required silent
        exact iff_of_true (carries_required required given) (by simp [Node.Misread, noBranch, noCall])
      · split at ofCall
        · rename_i call
          cases List.mem_singleton.mp ofCall
          rw [carries_function_iff call]
          exact isBlankText_functionName_iff call (named_of_silent reported listed call silent)
        · cases ofCall
  | @branch whenTrue whenFalse role =>
      have branch := Node.role_eq_branch_iff.mp role
      refine ⟨_, rfl, ?_⟩
      intro field needed silent
      have required : field = "condition" := by
        simpa [neededFields, requiredFields, branch] using needed
      subst required
      have given := not_isEmpty_of_silent reported listed (by simp [requiredFields, branch]) silent
      exact carries_condition_iff branch given rfl

/-- A compilation puts a record of each step and branch that it visits into the action list, and
such a record carries a required field that the report does not miss unless the parameter is
misread. A call has arguments, of text that is not blank, exactly when the report can read it. -/
theorem required_fields_carried {actions : List Action} {config : Config}
    (unique : graph.UniqueIds) (reported : ofGraph settings graph = .ok report)
    (compiled : compile settings graph = .ok actions) (visited : Visited graph config)
    (found : graph.nodeAt? config.node = some node)
    (role : node.role = .step ∨ node.role = .branch) :
    (∃ action ∈ Action.listParts actions, RecordOf node action) ∧
      ∀ action, RecordOf node action → ∃ fields, action.toJson = .obj fields ∧
        (∀ field ∈ neededFields node.type,
          .missingField node.id node.type field ∉ report.findings →
            (Carries fields field ↔ ¬ node.Misread)) ∧
        (node.type = "run_function" → ∀ text, node.param "args" = .str text →
          Text.isBlankText text = false →
            ((Table.get? fields "args").isSome = true ↔
              .unreadableArgs node.id ∉ report.findings)) := by
  have listed := (Graph.mem_of_nodeAt? found).1
  constructor
  · obtain ⟨own, branches⟩ := shown_of_visited compiled visited node found
    rcases role with step | branch
    · exact ⟨.ofNode node, own _ (mem_ownActions_iff.mpr (Or.inr ⟨step, rfl⟩)), .step step⟩
    · obtain ⟨whenTrue, whenFalse, inside⟩ := branches branch
      exact ⟨_, inside, .branch branch⟩
  · intro action stands
    obtain ⟨fields, written, carried⟩ := carries_iff_of_silent reported listed stands
    refine ⟨fields, written, carried, ?_⟩
    intro call text args given
    rw [unreadableArgs_mem_findings_iff unique reported listed call args given, Bool.not_eq_false,
      ← isSome_parseArgs_iff given, ← args]
    cases stands with
    | step role =>
        cases written
        rw [get?_recordFields_of_call call (by simp [functionKeys]) (by decide),
          get?_callFields_args, Option.isSome_map]
    | branch role =>
        rw [Node.role_eq_branch_iff.mp role] at call
        exact absurd call (by decide)

/-- A bell is rung, under the older key and with arguments written as text. -/
def bellScene : Graph where
  nodes := [
    { id := "s", type := "start" },
    { id := "r", type := "run_function",
      params := [("function_name", .str "ring"), ("args", .str "[2]")] },
    { id := "z", type := "end" }]
  edges := [
    { id := "e1", source := "s", target := "r" },
    { id := "e2", source := "r", target := "z" }]

theorem visited_bellScene : Visited bellScene (.plain "r") := by
  have follows : Follows bellScene (.plain "s") { id := "e1", source := "s", target := "r" } :=
    .pass rfl (Or.inl rfl) List.mem_cons_self
  have found : bellScene.nodeAt? "s" = some { id := "s", type := "start" } := rfl
  exact ⟨{ id := "s", type := "start" }, rfl, .single (.pass found (by decide) follows)⟩

theorem required_fields_carried_bellScene :
    ∃ report actions node, bellScene.UniqueIds ∧ ofGraph {} bellScene = .ok report ∧
      compile {} bellScene = .ok actions ∧ Visited bellScene (.plain "r") ∧
      bellScene.nodeAt? "r" = some node ∧ (node.role = .step ∨ node.role = .branch) ∧
      (∃ action ∈ Action.listParts actions, RecordOf node action) ∧
      ∀ action, RecordOf node action → ∃ fields, action.toJson = .obj fields ∧
        (∀ field ∈ neededFields node.type,
          .missingField node.id node.type field ∉ report.findings →
            (Carries fields field ↔ ¬ node.Misread)) ∧
        (node.type = "run_function" → ∀ text, node.param "args" = .str text →
          Text.isBlankText text = false →
            ((Table.get? fields "args").isSome = true ↔
              .unreadableArgs node.id ∉ report.findings)) := by
  have unique : bellScene.UniqueIds := ⟨by decide, by decide⟩
  have reported : ofGraph {} bellScene =
      .ok ⟨[.unnamed "s" "start", .unnamed "r" "run_function", .unnamed "z" "end"]⟩ := by
    with_unfolding_all rfl
  have compiled : ∃ actions, compile {} bellScene = .ok actions := ⟨_, by with_unfolding_all rfl⟩
  obtain ⟨actions, compiled⟩ := compiled
  refine ⟨_, actions, _, unique, reported, compiled, visited_bellScene, rfl, Or.inl rfl, ?_⟩
  exact required_fields_carried unique reported compiled visited_bellScene rfl (Or.inl rfl)

/-- A call with a blank name under the older key, beside its name. -/
def hushedCall : Node where
  id := "r"
  type := "run_function"
  params := [("function_name", .str "  "), ("function", .str "ring")]

/-- A branch on a condition that is no text. -/
def flagBranch : Node where
  id := "b"
  type := "branch"
  params := [("condition", .bool true)]

def hushScene : Graph where
  nodes := [{ id := "s", type := "start" }, hushedCall, flagBranch, { id := "z", type := "end" }]
  edges := [
    { id := "e1", source := "s", target := "r" },
    { id := "e2", source := "r", target := "b" },
    { id := "e3", source := "b", target := "z", sourceHandle := some "out_true" }]

/-- Neither field is missed by the report, and neither is carried by the record of its node. -/
theorem not_carries_hushScene :
    ∃ report actions callFields branchFields, ofGraph {} hushScene = .ok report ∧
      compile {} hushScene = .ok actions ∧
      (∃ action ∈ Action.listParts actions, RecordOf hushedCall action ∧
        action.toJson = .obj callFields) ∧
      (∃ action ∈ Action.listParts actions, RecordOf flagBranch action ∧
        action.toJson = .obj branchFields) ∧
      .missingField "r" "run_function" "function" ∉ report.findings ∧
      .missingField "b" "branch" "condition" ∉ report.findings ∧
      ¬ Carries callFields "function" ∧ ¬ Carries branchFields "condition" := by
  have reported : ofGraph {} hushScene =
      .ok ⟨[.unnamed "s" "start", .unnamed "r" "run_function", .unnamed "b" "branch",
        .unnamed "z" "end", .noFalseSide "b"]⟩ := by
    with_unfolding_all rfl
  have compiled : compile {} hushScene =
      .ok [.ofNode hushedCall, .branch (flagBranch.textParam "condition") [] []] := by
    with_unfolding_all rfl
  let branchFields : Table Json := [("type", .str "branch"), ("condition", .str ""),
    ("true_actions", .arr []), ("false_actions", .arr [])]
  refine ⟨_, _, recordFields hushedCall, branchFields, reported, compiled, ?_, ?_, by decide,
    by decide, ?_, ?_⟩
  · exact ⟨_, Action.mem_listParts_of_mem List.mem_cons_self, .step rfl, rfl⟩
  · have second := List.mem_cons_of_mem (Action.ofNode hushedCall)
      (List.mem_singleton_self (Action.branch (flagBranch.textParam "condition") [] []))
    exact ⟨_, Action.mem_listParts_of_mem second, .branch rfl, rfl⟩
  · rw [carries_function_iff rfl]
    decide
  · rintro ⟨value, found, full, -⟩
    cases found
    exact absurd full (by decide)

end Report

end SceneScript
