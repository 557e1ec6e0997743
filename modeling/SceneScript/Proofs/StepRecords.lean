import SceneScript.Proofs.RequiredFields

/-!
The record of a step, key by key. Main statement: the records in an action list are those of the
steps that a compilation visits. Such a record has the type of its node, unless a parameter called
`type` takes that place; under any other key it has the parameter of that name, if the key is not
bookkeeping and the parameter not empty; and a call has its function and its arguments instead of
the parameters they are read from.
-/

namespace SceneScript

namespace Table

universe u
variable {α : Type u} {entries : List (String × α)} {key : String}

theorem get?_eq_none_of_not_mem {table : Table α} (absent : key ∉ keys table) :
    get? table key = none := by
  rw [mem_keys_iff, Option.not_isSome_iff_eq_none] at absent
  exact absent

/-- Of entries with distinct keys it does not matter which is found first. -/
theorem get?_foldl_insert_of_nodup (distinct : (keys entries).Nodup) (table : Table α) :
    get? (entries.foldl (fun table entry => insert table entry.1 entry.2) table) key =
      (get? entries key).or (get? table key) := by
  induction entries generalizing table with
  | nil => rfl
  | cons entry rest ih =>
      obtain ⟨other, value⟩ := entry
      obtain ⟨fresh, distinct⟩ := List.nodup_cons.mp distinct
      rw [List.foldl_cons, ih distinct, get?_insert, get?]
      by_cases hit : other = key
      · subst hit
        rw [get?_eq_none_of_not_mem fresh, if_pos rfl, if_pos rfl, Option.none_or, Option.some_or]
      · rw [if_neg hit, if_neg hit]

theorem get?_filter_of_nodup (distinct : (keys entries).Nodup) (keep : String → α → Bool) :
    get? (entries.filter fun entry => keep entry.1 entry.2) key =
      (get? entries key).filter (keep key) := by
  induction entries with
  | nil => rfl
  | cons entry rest ih =>
      obtain ⟨other, value⟩ := entry
      obtain ⟨fresh, distinct⟩ := List.nodup_cons.mp distinct
      have ih := ih distinct
      by_cases hit : other = key
      · subst hit
        rw [get?_eq_none_of_not_mem fresh] at ih
        by_cases kept : keep other value = true <;> simp [get?, Option.filter, kept, ih]
      · by_cases kept : keep other value = true <;> simp [get?, kept, hit, ih]

theorem keys_insert (table : Table α) (key : String) (value : α) :
    keys (insert table key value) =
      if key ∈ keys table then keys table else keys table ++ [key] := by
  induction table with
  | nil => rfl
  | cons entry rest ih =>
      obtain ⟨other, old⟩ := entry
      rw [insert]
      by_cases hit : other = key
      · subst hit
        simp [keys]
      · rw [if_neg hit, keys, List.map_cons, ← keys, ih]
        by_cases later : key ∈ keys rest
        · simp [keys] at later ⊢
          simp [later]
        · simp only [keys] at later ⊢
          simp [later, Ne.symm hit]

/-- Insertions never give a table two entries of one key. -/
theorem nodup_keys_foldl_insert {table : Table α} (distinct : (keys table).Nodup) :
    (keys (entries.foldl (fun table entry => insert table entry.1 entry.2) table)).Nodup := by
  induction entries generalizing table with
  | nil => exact distinct
  | cons entry rest ih =>
      apply ih
      rw [keys_insert]
      split
      · exact distinct
      · rename_i fresh
        exact List.nodup_append.mpr
          ⟨distinct, List.nodup_singleton _, by simp only [List.mem_singleton]; grind⟩

end Table

theorem Json.isEmpty_eq_false_iff {value : Json} :
    value.isEmpty = false ↔ value ≠ .null ∧ value ≠ .str "" := by
  cases value <;> simp [isEmpty]

namespace Action

/-- The arguments of a call, from the parameter that gives them: the items of a list, or those of
the list in JSON text; any other value in the text is a list of one. -/
inductive ArgumentsOf : Json → List Json → Prop where
  | list (items : List Json) : ArgumentsOf (.arr items) items
  | text {text : String} {items : List Json} (given : Text.isBlankText text = false)
      (reads : Json.read text = .ok (.arr items)) : ArgumentsOf (.str text) items
  | single {text : String} {value : Json} (given : Text.isBlankText text = false)
      (reads : Json.read text = .ok value) (noList : ∀ items, value ≠ .arr items) :
      ArgumentsOf (.str text) [value]

/-- The name of the function of a call: the older key's, and where that names none, the newer's. -/
inductive Calls (node : Node) : String → Prop where
  | older {name : String} (given : node.param "function_name" = .str name) (named : name ≠ "") :
      Calls node name
  | newer {name : String} (unnamed : ∀ older, node.param "function_name" = .str older → older = "")
      (given : node.param "function" = .str name) (named : name ≠ "") : Calls node name

/-- The fields of the record of a step. Each has one value; a call does not take over the
parameters from which its function and its arguments are read. -/
structure Reflects (node : Node) (fields : Table Json) : Prop where
  distinct : (Table.keys fields).Nodup
  typed : (node.param "type").isEmpty = true → Table.get? fields "type" = some (.str node.type)
  overridden : (node.param "type").isEmpty = false →
    Table.get? fields "type" = some (node.param "type")
  copied : ∀ key value, key ≠ "type" → (node.type = "run_function" → key ∉ functionKeys) →
    (Table.get? fields key = some value ↔
      Table.get? node.params key = some value ∧ value ≠ .null ∧ value ≠ .str "" ∧
        key ∉ bookkeeping)
  function : node.type = "run_function" → ∀ value,
    (Table.get? fields "function" = some value ↔ ∃ name, value = .str name ∧ Calls node name)
  arguments : node.type = "run_function" → ∀ value,
    (Table.get? fields "args" = some value ↔
      ∃ items, value = .arr items ∧ ArgumentsOf (node.param "args") items)
  legacy : node.type = "run_function" → Table.get? fields "function_name" = none

variable {node : Node} {key : String}

theorem parseArgs_eq_some_iff {value : Json} {items : List Json} :
    parseArgs value = some items ↔ ArgumentsOf value items := by
  constructor
  · intro parsed
    cases value with
    | arr listed =>
        cases parsed
        exact .list _
    | str text =>
        rw [parseArgs] at parsed
        split at parsed
        · cases parsed
        · rename_i given
          rw [Bool.not_eq_true] at given
          split at parsed
          · rename_i listed reads
            cases parsed
            exact .text given reads
          · rename_i single noList reads
            cases parsed
            exact .single given reads noList
          · cases parsed
    | _ => cases parsed
  · intro takes
    cases takes with
    | list items => rfl
    | text given reads => simp [parseArgs, given, reads]
    | @single text value given reads noList =>
        cases value with
        | arr listed => exact (noList listed rfl).elim
        | _ => simp [parseArgs, given, reads]

theorem textParam_eq_iff {name : String} (named : name ≠ "") :
    node.textParam key = name ↔ node.param key = .str name := by
  rw [Node.textParam_eq]
  constructor
  · rintro rfl
    cases given : node.param key <;> rw [given] at named <;> simp_all [Json.string?]
  · intro given
    rw [given]
    rfl

theorem calls_iff {name : String} : Calls node name ↔ functionName node = name ∧ name ≠ "" := by
  have unnamed : node.textParam "function_name" = "" ↔
      ∀ older, node.param "function_name" = .str older → older = "" := by
    constructor
    · intro unset older given
      by_contra named
      rw [(textParam_eq_iff named).mpr given] at unset
      exact named unset
    · intro unset
      by_contra named
      exact named (unset _ ((textParam_eq_iff named).mp rfl))
  constructor
  · rintro (⟨given, named⟩ | ⟨unset, given, named⟩)
    · have older := (textParam_eq_iff named).mpr given
      exact ⟨by rw [functionName, older, if_neg named], named⟩
    · rw [functionName, if_pos (unnamed.mpr unset)]
      exact ⟨(textParam_eq_iff named).mpr given, named⟩
  · rintro ⟨read, named⟩
    rw [functionName] at read
    split at read
    · rename_i unset
      exact .newer (unnamed.mp unset) ((textParam_eq_iff named).mp read) named
    · exact .older ((textParam_eq_iff named).mp read) named

theorem get?_callFields_of_other (function : key ≠ "function") (args : key ≠ "args") :
    Table.get? (callFields node) key = none := by
  unfold callFields
  by_cases unnamed : functionName node = "" <;>
    cases parseArgs (node.param "args") <;>
    simp [unnamed, Table.get?, function.symm, args.symm]

theorem nodup_keys_callFields (node : Node) : (Table.keys (callFields node)).Nodup := by
  unfold callFields
  by_cases unnamed : functionName node = "" <;>
    cases parseArgs (node.param "args") <;> simp [unnamed, Table.keys]

/-- What a record has before any parameter is copied. -/
def ownFields (node : Node) : Table Json :=
  ("type", .str node.type) :: if node.type = "run_function" then callFields node else []

theorem get?_recordFields (distinct : (Table.keys node.params).Nodup) :
    Table.get? (recordFields node) key =
      ((Table.get? node.params key).filter (isCopied node key)).or
        (Table.get? (ownFields node) key) := by
  have kept : (Table.keys (node.params.filter fun entry => isCopied node entry.1 entry.2)).Nodup :=
    distinct.sublist (List.filter_sublist.map Prod.fst)
  rw [← Table.get?_filter_of_nodup distinct]
  exact Table.get?_foldl_insert_of_nodup kept _

theorem get?_ownFields_of_other (notType : key ≠ "type")
    (notCall : node.type = "run_function" → key ∉ functionKeys) :
    Table.get? (ownFields node) key = none := by
  rw [ownFields, Table.get?, if_neg notType.symm]
  split
  · rename_i call
    have other := notCall call
    simp only [functionKeys, List.mem_cons, not_or] at other
    exact get?_callFields_of_other other.2.1 other.2.2.1
  · rfl

theorem nodup_keys_ownFields (node : Node) : (Table.keys (ownFields node)).Nodup := by
  unfold ownFields
  split
  · have noType : Table.get? (callFields node) "type" = none :=
      get?_callFields_of_other (by decide) (by decide)
    refine List.nodup_cons.mpr ⟨?_, nodup_keys_callFields node⟩
    change "type" ∉ Table.keys (callFields node)
    rw [Table.mem_keys_iff, noType]
    exact Bool.false_ne_true
  · exact List.nodup_singleton _

theorem isCopied_iff {value : Json} (notCall : node.type = "run_function" → key ∉ functionKeys) :
    isCopied node key value = true ↔ value.isEmpty = false ∧ key ∉ bookkeeping := by
  by_cases call : node.type = "run_function"
  · simp [isCopied, notCall call, and_comm]
  · simp [isCopied, call, and_comm]

/-- A parameter called `type` is copied like any other, over the type of the node. -/
theorem get?_recordFields_type (distinct : (Table.keys node.params).Nodup) :
    Table.get? (recordFields node) "type" =
      some (if (node.param "type").isEmpty then .str node.type else node.param "type") := by
  have copied (value : Json) : isCopied node "type" value = !value.isEmpty := by
    simp [isCopied, bookkeeping, functionKeys]
  have own : Table.get? (ownFields node) "type" = some (.str node.type) := by
    rw [ownFields, Table.get?, if_pos rfl]
  rw [get?_recordFields distinct, own, Node.param]
  cases given : Table.get? node.params "type" with
  | none => rfl
  | some value => cases empty : value.isEmpty <;> simp [Option.filter, copied, empty]

theorem reflects_recordFields (distinct : (Table.keys node.params).Nodup) :
    Reflects node (recordFields node) where
  distinct := Table.nodup_keys_foldl_insert (nodup_keys_ownFields node)
  typed empty := by
    rw [get?_recordFields_type distinct, if_pos empty]
  overridden given := by
    rw [get?_recordFields_type distinct, if_neg (by simp [given])]
  copied key value notType notCall := by
    rw [get?_recordFields distinct, get?_ownFields_of_other notType notCall, Option.or_none,
      Option.filter_eq_some_iff, isCopied_iff notCall, Json.isEmpty_eq_false_iff, and_assoc]
  function call value := by
    rw [get?_recordFields_of_call call (by simp [functionKeys]) (by decide),
      get?_callFields_function]
    simp only [calls_iff]
    by_cases unnamed : functionName node = ""
    · simp [unnamed]
    · simp [unnamed, eq_comm]
  arguments call value := by
    rw [get?_recordFields_of_call call (by simp [functionKeys]) (by decide),
      get?_callFields_args, Option.map_eq_some_iff]
    simp only [parseArgs_eq_some_iff]
    exact exists_congr fun items => by rw [and_comm, eq_comm]
  legacy call := by
    rw [get?_recordFields_of_call call (by simp [functionKeys]) (by decide)]
    exact get?_callFields_of_other (by decide) (by decide)

end Action

namespace Compile

open SceneScript.Action

variable {settings : Settings} {graph : Graph} {actions : List Action}

/-- The records in an action list are those of the steps that are visited. -/
theorem record_mem_listParts_iff (compiled : compile settings graph = .ok actions)
    {fields : Table Json} :
    .record fields ∈ listParts actions ↔
      ∃ config node, Visited graph config ∧ graph.nodeAt? config.node = some node ∧
        node.role = .step ∧ fields = recordFields node := by
  constructor
  · intro inside
    obtain ⟨config, visited, gives⟩ := given_of_mem compiled inside
    cases gives with
    | @own _ node _ found given =>
        rcases mem_ownActions_iff.mp given with ⟨-, marked⟩ | ⟨role, same⟩
        · cases (mem_marks_iff.mp marked).2.2
        · exact ⟨config, node, visited, found, role, Action.record.inj same⟩
  · rintro ⟨config, node, visited, found, role, rfl⟩
    exact (shown_of_visited compiled visited node found).1 _
      (mem_ownActions_iff.mpr (Or.inr ⟨role, rfl⟩))

/-- For parameters with distinct keys, the records in an action list are the records of the steps
that are visited, and nothing is in them but what their steps say. -/
theorem records_reflect_steps
    (distinct : ∀ node ∈ graph.nodes, (Table.keys node.params).Nodup)
    (compiled : compile settings graph = .ok actions) :
    (∀ fields, .record fields ∈ listParts actions →
      ∃ config node, Visited graph config ∧ graph.nodeAt? config.node = some node ∧
        node.role = .step ∧ Reflects node fields) ∧
      ∀ config node, Visited graph config → graph.nodeAt? config.node = some node →
        node.role = .step →
          ∃ fields, .record fields ∈ listParts actions ∧ Reflects node fields := by
  constructor
  · intro fields inside
    obtain ⟨config, node, visited, found, role, rfl⟩ :=
      (record_mem_listParts_iff compiled).mp inside
    have reflects := reflects_recordFields (distinct node (Graph.mem_of_nodeAt? found).1)
    exact ⟨config, node, visited, found, role, reflects⟩
  · intro config node visited found role
    have inside := (record_mem_listParts_iff compiled).mpr ⟨config, node, visited, found, role, rfl⟩
    exact ⟨_, inside, reflects_recordFields (distinct node (Graph.mem_of_nodeAt? found).1)⟩

/-- A call in a lane under a guard, with a blank parameter and one that ties lanes together. -/
def towerScene : Graph where
  nodes := [
    { id := "s", type := "start" },
    { id := "p", type := "parallel_start", params := [("joinId", .str "j")] },
    { id := "r", type := "run_function",
      params := [("function_name", .str "ring"), ("args", .str "2"), ("volume", .int 3),
        ("voice", .str ""), ("pairId", .str "p")] },
    { id := "j", type := "parallel_join" },
    { id := "z", type := "end" }]
  edges := [
    { id := "e1", source := "s", target := "p" },
    { id := "e2", source := "p", target := "r", sourceHandle := some "out_b0",
      conditionEnabled := true, conditionVar := "door", conditionEquals := "open" },
    { id := "e3", source := "r", target := "j" },
    { id := "e4", source := "j", target := "z" }]

theorem records_reflect_steps_towerScene :
    ∃ actions, (∀ node ∈ towerScene.nodes, (Table.keys node.params).Nodup) ∧
      compile {} towerScene = .ok actions ∧
      .record [("type", .str "run_function"), ("function", .str "ring"), ("args", .arr [.int 2]),
        ("volume", .int 3)] ∈ listParts actions ∧
      (∀ fields, .record fields ∈ listParts actions →
        ∃ config node, Visited towerScene config ∧ towerScene.nodeAt? config.node = some node ∧
          node.role = .step ∧ Reflects node fields) ∧
      ∀ config node, Visited towerScene config → towerScene.nodeAt? config.node = some node →
        node.role = .step →
          ∃ fields, .record fields ∈ listParts actions ∧ Reflects node fields := by
  let call : Table Json := [("type", .str "run_function"), ("function", .str "ring"),
    ("args", .arr [.int 2]), ("volume", .int 3)]
  have distinct : ∀ node ∈ towerScene.nodes, (Table.keys node.params).Nodup := by decide
  have compiled : compile {} towerScene = .ok [.parallel [[.guarded
      ⟨"door", "open", "skip", none, none⟩ [.record call]]]] := by
    with_unfolding_all rfl
  refine ⟨_, distinct, compiled, ?_, records_reflect_steps distinct compiled⟩
  simp [listParts, parts, lanesParts, call]

/-- Two lines of dialogue, with a parameter in the place of their type. -/
def disguiseScene : Graph where
  nodes := [
    { id := "s", type := "start" },
    { id := "d", type := "dialogue", params := [("type", .str "fade"), ("text", .str "Hi")] },
    { id := "e", type := "dialogue", params := [("type", .int 5)] },
    { id := "z", type := "end" }]
  edges := [
    { id := "e1", source := "s", target := "d" },
    { id := "e2", source := "d", target := "e" },
    { id := "e3", source := "e", target := "z" }]

/-- All that the scene has to do is dialogue, and nothing in the action list is of that type. -/
theorem untyped_disguiseScene :
    ∃ actions, disguiseScene.UniqueIds ∧ compile {} disguiseScene = .ok actions ∧
      (∀ node ∈ disguiseScene.nodes, node.role = .step → node.type = "dialogue") ∧
      .record [("type", .str "fade"), ("text", .str "Hi")] ∈ listParts actions ∧
      .record [("type", .int 5)] ∈ listParts actions ∧
      ∀ fields, .record fields ∈ listParts actions →
        Table.get? fields "type" ≠ some (.str "dialogue") := by
  have compiled : compile {} disguiseScene =
      .ok [.record [("type", .str "fade"), ("text", .str "Hi")], .record [("type", .int 5)]] := by
    with_unfolding_all rfl
  refine ⟨_, ⟨by decide, by decide⟩, compiled, by decide, ?_, ?_, ?_⟩
  · simp [listParts, parts]
  · simp [listParts, parts]
  · simp [listParts, parts, Table.get?, Json.int]

end Compile

end SceneScript
