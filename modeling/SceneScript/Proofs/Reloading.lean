import SceneScript.Proofs.Grouping
import SceneScript.Proofs.Loading
import SceneScript.Proofs.StepRecords

/-!
Loaded scenes as documents again. What was read of a field is written so that it is read as the same
value, whichever of its two keys an edge field is written under. Main statement: a document that was
loaded and is written out loads as it is, and nothing of it is left out.
-/

namespace SceneScript

namespace EdgeField

/-- Each field under one of its two keys. -/
def Spells (keyOf : EdgeField → String) : Prop :=
  ∀ field, keyOf field = field.camelKey ∨ keyOf field = field.snakeKey

/-- The field that a key is for. -/
def ofKey? (key : String) : Option EdgeField :=
  all.find? fun field => key == field.camelKey || key == field.snakeKey

theorem mem_all (field : EdgeField) : field ∈ all := by
  cases field <;> decide

theorem ofKey?_camelKey (field : EdgeField) : ofKey? field.camelKey = some field := by
  cases field <;> rfl

theorem ofKey?_snakeKey (field : EdgeField) : ofKey? field.snakeKey = some field := by
  cases field <;> rfl

variable {keyOf : EdgeField → String}

theorem Spells.ofKey? (spells : Spells keyOf) (field : EdgeField) :
    ofKey? (keyOf field) = some field := by
  rcases spells field with camel | snake
  · rw [camel, ofKey?_camelKey]
  · rw [snake, ofKey?_snakeKey]

/-- No key is for two fields. -/
theorem Spells.injective (spells : Spells keyOf) : Function.Injective keyOf := by
  intro one other same
  have first := spells.ofKey? one
  rw [same, spells.ofKey? other] at first
  exact (Option.some.inj first).symm

/-- The key that speaks for a field is the one that it is under, in a table of such keys only. -/
theorem Spells.get?_givenKey (spells : Spells keyOf) {fields : Table Json}
    (own : ∀ key, (Table.get? fields key).isSome = true → ∃ field, keyOf field = key)
    (field : EdgeField) :
    Table.get? fields (field.givenKey fields) = Table.get? fields (keyOf field) := by
  have same {key : String} (given : (Table.get? fields key).isSome = true)
      (isFor : EdgeField.ofKey? key = some field) : keyOf field = key := by
    obtain ⟨other, rfl⟩ := own key given
    rw [Option.some.inj ((spells.ofKey? other).symm.trans isFor)]
  unfold givenKey
  split_ifs with camel snake
  · rw [same camel (ofKey?_camelKey field)]
  · rw [same snake (ofKey?_snakeKey field)]
  · rw [Option.not_isSome_iff_eq_none] at camel snake
    rcases spells field with under | under
    · rw [under]
    · rw [under, camel, snake]

end EdgeField

namespace Edge

variable {edge : Edge} {keyOf : EdgeField → String} {field : EdgeField} {key : String}

theorem keys_toFields (edge : Edge) (keyOf : EdgeField → String) :
    Table.keys (edge.toFields keyOf) = EdgeField.all.map keyOf := by
  rw [toFields, Table.keys, List.map_map]
  rfl

theorem nodup_keys_toFields (spells : EdgeField.Spells keyOf) :
    (Table.keys (edge.toFields keyOf)).Nodup := by
  rw [keys_toFields]
  exact List.Nodup.map spells.injective (by decide)

theorem get?_toFields (spells : EdgeField.Spells keyOf) (field : EdgeField) :
    Table.get? (edge.toFields keyOf) (keyOf field) = some (edge.value field) :=
  Table.get?_of_mem (nodup_keys_toFields spells)
    (List.mem_map.mpr ⟨field, EdgeField.mem_all field, rfl⟩)

theorem exists_key_of_get?_toFields (given : (Table.get? (edge.toFields keyOf) key).isSome = true) :
    ∃ field, keyOf field = key := by
  rw [← Table.mem_keys_iff, keys_toFields] at given
  obtain ⟨field, -, same⟩ := List.mem_map.mp given
  exact ⟨field, same⟩

/-- An edge's own handles are texts, so that nothing but null is left out of its fields. -/
theorem isGiven_value (spells : EdgeField.Spells keyOf) (field : EdgeField) :
    (!(edge.value field).isNull &&
      ((keyOf field != "sourceHandle" && keyOf field != "targetHandle") ||
        (edge.value field).string?.isSome)) = !(edge.value field).isNull := by
  have isHandle {handle : EdgeField} (same : keyOf field = handle.camelKey) : field = handle := by
    have first := spells.ofKey? field
    rw [same, EdgeField.ofKey?_camelKey] at first
    exact (Option.some.inj first).symm
  by_cases source : keyOf field = "sourceHandle"
  · cases @isHandle .sourceHandle source
    cases given : edge.sourceHandle <;>
      simp [value, given, Json.ofOption, Json.isNull, Json.string?]
  by_cases target : keyOf field = "targetHandle"
  · cases @isHandle .targetHandle target
    cases given : edge.targetHandle <;>
      simp [value, given, Json.ofOption, Json.isNull, Json.string?]
  · simp [source, target]

/-- What is given of the written fields. -/
theorem get?_givenFields (spells : EdgeField.Spells keyOf) (field : EdgeField) :
    Table.get? (Document.givenFields (edge.toFields keyOf))
        (field.givenKey (Document.givenFields (edge.toFields keyOf))) =
      if (edge.value field).isNull then none else some (edge.value field) := by
  have given (key : String) : Table.get? (Document.givenFields (edge.toFields keyOf)) key = _ :=
    Table.get?_filter_of_nodup (nodup_keys_toFields spells) (fun key value =>
      !value.isNull && ((key != "sourceHandle" && key != "targetHandle") || value.string?.isSome))
  rw [spells.get?_givenKey, given, get?_toFields spells, Option.filter, isGiven_value spells]
  · cases (edge.value field).isNull <;> rfl
  · intro key listed
    apply @exists_key_of_get?_toFields edge
    rw [given] at listed
    cases found : Table.get? (edge.toFields keyOf) key with
    | none =>
        rw [found] at listed
        cases listed
    | some value => rfl

section Fields

variable {α : Type} {check : Json → Checked α} {result : α}

theorem required_toFields (spells : EdgeField.Spells keyOf)
    (set : (edge.value field).isNull = false) (reads : check (edge.value field) = .ok result) :
    field.required (Document.givenFields (edge.toFields keyOf)) check = .ok result := by
  rw [EdgeField.required, Field.required, get?_givenFields spells, set]
  simp only [Bool.false_eq_true, if_false, reads, Checked.under]

theorem optional_toFields (spells : EdgeField.Spells keyOf) {default : α}
    (unset : (edge.value field).isNull = true → default = result)
    (reads : check (edge.value field) = .ok result) :
    field.optional (Document.givenFields (edge.toFields keyOf)) default check = .ok result := by
  rw [EdgeField.optional, Field.optional, get?_givenFields spells]
  cases null : (edge.value field).isNull with
  | true => simp only [if_true, unset null]
  | false => simp only [Bool.false_eq_true, if_false, reads, Checked.under]

/-- A field that may be left open is null where it is. -/
theorem open_toFields (spells : EdgeField.Spells keyOf) {given : Option α}
    {write : Option α → Json} {check : Json → Checked (Option α)}
    (set : edge.value field = write given) (null : ∀ value, (write (some value)).isNull = false)
    (reads : ∀ given, check (write given) = .ok given) :
    field.optional (Document.givenFields (edge.toFields keyOf)) none check = .ok given := by
  apply optional_toFields spells
  · intro unset
    cases given with
    | none => rfl
    | some value =>
        rw [set, null] at unset
        cases unset
  · rw [set, reads]

theorem shown_toFields (spells : EdgeField.Spells keyOf) {text default : String}
    (set : edge.value field = .str text) :
    field.shown (Document.givenFields (edge.toFields keyOf)) default = .ok text := by
  apply optional_toFields spells
  · rw [set]
    nofun
  · rw [set]
    rfl

end Fields

/-- An edge is read from its own fields as it is. -/
theorem ofFields_toFields (spells : EdgeField.Spells keyOf) (edge : Edge) :
    Edge.ofFields (Document.givenFields (edge.toFields keyOf)) = .ok edge := by
  have text {field : EdgeField} {text : String} (set : edge.value field = .str text) :
      field.required (Document.givenFields (edge.toFields keyOf)) Field.text = .ok text :=
    required_toFields spells (by rw [set]; rfl) (by rw [set]; rfl)
  have handle {field : EdgeField} {text : Option String} (set : edge.value field = .ofOption text) :
      field.optional (Document.givenFields (edge.toFields keyOf)) none Field.textOrNull =
        .ok text :=
    open_toFields spells set (fun _ => rfl) fun text => by cases text <;> rfl
  have number {field : EdgeField} {given : Option Number}
      (set : edge.value field = numberField given) :
      field.optional (Document.givenFields (edge.toFields keyOf)) none Field.numberOrNull =
        .ok given :=
    open_toFields spells set (fun _ => rfl) fun given => by cases given <;> rfl
  have flag : EdgeField.conditionEnabled.optional (Document.givenFields (edge.toFields keyOf)) false
      Field.flag = .ok edge.conditionEnabled :=
    optional_toFields spells nofun rfl
  have shown {field : EdgeField} {text : String} (default : String)
      (set : edge.value field = .str text) := @shown_toFields edge keyOf field spells _ default set
  rw [Edge.ofFields, @text .id _ rfl, @text .source _ rfl, @text .target _ rfl,
    @handle .sourceHandle _ rfl, @handle .targetHandle _ rfl, @number .waitSeconds _ rfl, flag,
    @shown .conditionVar _ _ rfl, @shown .conditionEquals _ _ rfl, @shown .ifFalse _ _ rfl,
    @shown .stopWhen _ _ rfl, @shown .endVar _ _ rfl, @shown .endEquals _ _ rfl,
    @shown .endNode _ _ rfl, @number .endTimeout _ rfl]
  rfl

end Edge

namespace Document

section Sieves

variable {α : Type} {Reads : Json → α → Prop} {idOf : α → String}
  {Verdict : List Json → Json → Except Skip α → Prop} {entry : α → Json}

/-- Entries that were written of items with distinct ids are all kept. -/
theorem sieved_map (reads : ∀ item other, Reads (entry item) other → other = item)
    (kept : ∀ before item, ¬ Taken Reads idOf before (idOf item) →
      Verdict before (entry item) (.ok item)) (before items : List α)
    (distinct : ((before ++ items).map idOf).Nodup) :
    Sieved Verdict (before.map entry) (items.map entry) items [] := by
  induction items generalizing before with
  | nil => exact .done
  | cons item rest ih =>
      have first : ¬ Taken Reads idOf (before.map entry) (idOf item) := by
        rintro ⟨_, listed, other, read, same⟩
        obtain ⟨earlier, member, rfl⟩ := List.mem_map.mp listed
        obtain rfl := reads earlier other read
        rw [List.map_append, List.nodup_append] at distinct
        exact distinct.2.2 _ (List.mem_map_of_mem member) _ (List.mem_map_of_mem List.mem_cons_self)
          same
      have after := ih (before ++ [item]) (by simpa using distinct)
      rw [List.map_append] at after
      exact .keep (kept _ _ first) after

end Sieves

/-- A document as a value, each edge under the keys that are chosen for it. -/
def toJson (keysOf : Edge → EdgeField → String) (document : Document) : Json :=
  .obj
    [("schemaVersion", .int version), ("title", .str document.title),
      ("nodes", .arr (document.graph.nodes.map fun node => .obj node.toFields)),
      ("edges", .arr (document.graph.edges.map fun edge => .obj (edge.toFields (keysOf edge))))]

theorem nodeEntry_toFields (node : Node) : NodeEntry (.obj node.toFields) node := by
  refine ⟨node.toFields, rfl, rfl, rfl, ?_, rfl⟩
  rcases node with ⟨id, type, name, params⟩
  cases name <;> rfl

theorem edgeNamed_toFields {keyOf : EdgeField → String} (spells : EdgeField.Spells keyOf)
    (edge : Edge) : EdgeNamed (.obj (edge.toFields keyOf)) edge.id (edge.toFields keyOf) := by
  have plain {field : EdgeField} (same : field.snakeKey = field.camelKey) :
      keyOf field = field.camelKey := by
    rcases spells field with under | under
    · exact under
    · rw [under, same]
  have written := @Edge.get?_toFields edge keyOf spells
  have id := written .id
  have source := written .source
  have target := written .target
  rw [plain rfl] at id source target
  exact ⟨rfl, id, ⟨_, source⟩, ⟨_, target⟩⟩

variable {keysOf : Edge → EdgeField → String}

/-- A document with distinct ids loads from what is written of it as it is. -/
theorem load_of_unique (spells : ∀ edge, EdgeField.Spells (keysOf edge)) {document : Document}
    (unique : document.graph.UniqueIds) :
    load (document.toJson keysOf) = .ok ⟨document, []⟩ := by
  have named (edge : Edge) := edgeNamed_toFields (spells edge) edge
  have read (edge : Edge) := Edge.ofFields_toFields (spells edge) edge
  refine load_eq_ok_iff.mpr ⟨_, rfl, .int, rfl, ⟨[], [], rfl, ?_, ?_⟩, unique,
    ofLists_of_unique unique⟩
  · refine @sieved_map _ NodeEntry Node.id _ _ ?_ ?_ [] _ unique.1
    · intro node other reads
      exact reads.functional (nodeEntry_toFields node)
    · intro before node first
      exact .kept (nodeEntry_toFields node) first
  · refine @sieved_map _ EdgeEntry Edge.id _ _ ?_ ?_ [] _ unique.2
    · intro edge other reads
      exact Except.ok.inj (((edgeEntry_iff (named edge)).mp reads).symm.trans (read edge))
    · intro before edge first
      exact .kept ((edgeEntry_iff (named edge)).mpr (read edge)) first

/-- What was loaded loads again from what is written of it: the same title, nodes and edges, in
their order, without a notice, whichever of its two keys each field of an edge is written under. -/
theorem load_again (spells : ∀ edge, EdgeField.Spells (keysOf edge)) {value : Json}
    {loaded : Loaded} (loads : load value = .ok loaded) :
    load (loaded.document.toJson keysOf) = .ok ⟨loaded.document, []⟩ := by
  obtain ⟨_, -, -, loadsAs⟩ := load_eq_ok_iff.mp loads
  exact load_of_unique spells loadsAs.unique

/-- A document with entries to leave out, and with an edge whose fields are read as other values
than they are given. -/
def roughValue : Json :=
  .obj
    [("schemaVersion", .bool true), ("title", .null),
      ("nodes", .arr
        [.obj [("id", .str "s"), ("type", .str "start"), ("name", .num (.int 5))],
          .str "z",
          .obj [("id", .str "s"), ("type", .str "end")],
          .obj [("id", .str "z"), ("type", .str "end"), ("params", .obj [("x", .null)])]]),
      ("edges", .arr
        [.obj [("id", .str "e1"), ("source", .str "s"), ("target", .str "z"),
            ("sourceHandle", .num (.int 3)), ("source_handle", .str "out"),
            ("waitSeconds", .str " +0_7.0 "), ("conditionEnabled", .str "Yes"),
            ("condition_var", .arr [.null, .str "a"]), ("conditionIfFalse", .str ""),
            ("stopWaitingWhen", .null), ("endTimeoutSeconds", .bool true)],
          .obj [("id", .str "e2"), ("source", .str "s"), ("target", .str "z"),
            ("waitSeconds", .arr [])]])]

/-- What is read of the edge of the document that can be read. -/
def readEdge : Edge where
  id := "e1"
  source := "s"
  target := "z"
  sourceHandle := some "out"
  waitSeconds := some (.int 7)
  conditionEnabled := true
  conditionVar := "[None, 'a']"
  ifFalse := ""
  endTimeout := some (.int 1)

theorem load_again_roughValue :
    ∃ loaded, load roughValue = .ok loaded ∧ loaded.document.graph.edges = [readEdge] ∧
      loaded.skipped = [.malformedNode 1, .repeatedNode "s", .invalidEdge "e2" 2] ∧
      EdgeField.Spells EdgeField.camelKey ∧ EdgeField.Spells EdgeField.snakeKey ∧
      load (loaded.document.toJson fun _ => EdgeField.camelKey) = .ok ⟨loaded.document, []⟩ ∧
      load (loaded.document.toJson fun _ => EdgeField.snakeKey) = .ok ⟨loaded.document, []⟩ := by
  have camel : EdgeField.Spells EdgeField.camelKey := fun _ => Or.inl rfl
  have snake : EdgeField.Spells EdgeField.snakeKey := fun _ => Or.inr rfl
  have loads : load roughValue = .ok _ := rfl
  refine ⟨_, loads, ?_, ?_, camel, snake, load_again (fun _ => camel) loads,
    load_again (fun _ => snake) loads⟩
  · with_unfolding_all rfl
  · with_unfolding_all rfl

end Document

end SceneScript
