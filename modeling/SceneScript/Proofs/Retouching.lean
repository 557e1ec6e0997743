import Mathlib.Logic.Relation
import SceneScript.Proofs.Reloading

/-!
Changes to a document value that are none to the document: a key that is no field comes or goes, a
field that was left null is left out, and keys change places, in the document and in its entries.
Main statement: values that differ in such changes load with the same outcome.
-/

namespace SceneScript

namespace Table

variable {α : Type} {table other : Table α} {key : String}

theorem get?_append (before after : Table α) (key : String) :
    get? (before ++ after) key = (get? before key).or (get? after key) := by
  induction before with
  | nil => rfl
  | cons entry rest ih =>
      obtain ⟨other, value⟩ := entry
      by_cases hit : other = key
      · simp [get?, hit]
      · simp [get?, hit, ih]

theorem get?_eq_some_iff {value : α} (distinct : (keys table).Nodup) :
    get? table key = some value ↔ (key, value) ∈ table :=
  ⟨mem_of_get?, get?_of_mem distinct⟩

theorem get?_of_perm (distinct : (keys table).Nodup) (perm : table.Perm other) :
    get? table key = get? other key := by
  have distinctToo : (keys other).Nodup := (perm.map Prod.fst).nodup_iff.mp distinct
  ext value
  rw [get?_eq_some_iff distinct, get?_eq_some_iff distinctToo, perm.mem_iff]

/-- The value of a field; one that is left null is not given. -/
def given? (table : Table Json) (key : String) : Option Json :=
  (get? table key).filter (!·.isNull)

theorem getD_given? (table : Table Json) (key : String) :
    (given? table key).getD .null = (get? table key).getD .null := by
  unfold given?
  rcases get? table key with _ | value
  · rfl
  · cases value <;> rfl

theorem bind_given? {read : Json → Option α} (unset : read .null = none) (table : Table Json)
    (key : String) : (given? table key).bind read = (get? table key).bind read := by
  unfold given?
  rcases get? table key with _ | value
  · rfl
  · cases value <;> simp [Option.filter, Json.isNull, unset]

/-- A change to an object that leaves its fields as they are. -/
inductive Retouch (isField : String → Bool) : Table Json → Table Json → Prop where
  | unset {before after : Table Json} (key : String) :
      Retouch isField (before ++ (key, .null) :: after) (before ++ after)
  | stray {before after : Table Json} {key : String} (value : Json)
      (other : isField key = false) :
      Retouch isField (before ++ (key, value) :: after) (before ++ after)
  | reorder {fields again : Table Json} (perm : fields.Perm again) : Retouch isField fields again

section Retouched

variable {isField : String → Bool} {fields again : Table Json}

theorem nodup_keys_of_retouch (distinct : (keys fields).Nodup)
    (touch : Retouch isField fields again) : (keys again).Nodup := by
  cases touch with
  | unset key | stray value other =>
      exact distinct.sublist (((List.sublist_cons_self _ _).append_left _).map Prod.fst)
  | reorder perm => exact (perm.map Prod.fst).nodup_iff.mp distinct

/-- What is given for a field stays. -/
theorem given?_of_retouch (distinct : (keys fields).Nodup) (touch : Retouch isField fields again)
    (isOne : isField key = true) : given? fields key = given? again key := by
  have apart {before after : Table Json} {other : String} {value : Json} (miss : other ≠ key) :
      get? (before ++ (other, value) :: after) key = get? (before ++ after) key := by
    rw [get?_append, get?_append, get?, if_neg miss]
  cases touch with
  | @unset before after other =>
      by_cases hit : other = key
      · subst hit
        -- The key stands nowhere else, so that without its null it is missing.
        simp only [keys, List.map_append, List.map_cons] at distinct
        have absent := (List.nodup_cons.mp (List.nodup_middle.mp distinct)).1
        rw [List.mem_append, not_or] at absent
        rw [given?, given?, get?_append, get?_append, get?_eq_none_of_not_mem absent.1,
          get?_eq_none_of_not_mem absent.2, get?, if_pos rfl]
        rfl
      · rw [given?, given?, apart hit]
  | @stray before after other value unknown =>
      have miss : other ≠ key := by
        rintro rfl
        rw [unknown] at isOne
        cases isOne
      rw [given?, given?, apart miss]
  | reorder perm => rw [given?, given?, get?_of_perm distinct perm]

theorem bind_of_retouch {read : Json → Option α} (unset : read .null = none)
    (distinct : (keys fields).Nodup) (touch : Retouch isField fields again)
    (isOne : isField key = true) : (get? fields key).bind read = (get? again key).bind read := by
  rw [← bind_given? unset, ← bind_given? unset, given?_of_retouch distinct touch isOne]

theorem string?_of_retouch (distinct : (keys fields).Nodup)
    (touch : Retouch isField fields again) (isOne : isField key = true) :
    string? fields key = string? again key :=
  bind_of_retouch rfl distinct touch isOne

theorem getD_of_retouch (distinct : (keys fields).Nodup) (touch : Retouch isField fields again)
    (isOne : isField key = true) : (get? fields key).getD .null = (get? again key).getD .null := by
  rw [← getD_given?, ← getD_given?, given?_of_retouch distinct touch isOne]

end Retouched

end Table

namespace Edge

variable {one other : Table Json}

/-- An edge is read from what stands under the keys of its fields. -/
theorem ofFields_congr
    (camel : ∀ field : EdgeField, Table.get? one field.camelKey = Table.get? other field.camelKey)
    (snake : ∀ field : EdgeField, Table.get? one field.snakeKey = Table.get? other field.snakeKey) :
    Edge.ofFields one = Edge.ofFields other := by
  have speaks (field : EdgeField) : field.givenKey one = field.givenKey other := by
    rw [EdgeField.givenKey, EdgeField.givenKey, camel, snake]
  have value (field : EdgeField) :
      Table.get? one (field.givenKey other) = Table.get? other (field.givenKey other) := by
    unfold EdgeField.givenKey
    split_ifs
    · exact camel field
    · exact snake field
    · exact camel field
  have required (field : EdgeField) {α : Type} (check : Json → Checked α) :
      field.required one check = field.required other check := by
    rw [EdgeField.required, EdgeField.required, Field.required, Field.required, speaks, value]
  have optional (field : EdgeField) {α : Type} (default : α) (check : Json → Checked α) :
      field.optional one default check = field.optional other default check := by
    rw [EdgeField.optional, EdgeField.optional, Field.optional, Field.optional, speaks, value]
  simp only [Edge.ofFields, EdgeField.shown, required, optional]

end Edge

namespace Document

/-- The lists of a document. -/
inductive Listing where
  | nodes
  | edges

namespace Listing

def key : Listing → String
  | nodes => "nodes"
  | edges => "edges"

/-- The keys that are fields of an entry. -/
def isField : Listing → String → Bool
  | nodes, key => key ∈ ["id", "type", "name", "params"]
  | edges, key => (EdgeField.ofKey? key).isSome

end Listing

def isField (key : String) : Bool := key ∈ ["schemaVersion", "title", "nodes", "edges"]

/-- A change to the object of a document, or to one entry of its lists, that leaves all fields as
they are. Each object has one value for a key. -/
inductive Retouches : Json → Json → Prop where
  | document {fields again : Table Json} (distinct : (Table.keys fields).Nodup)
      (touch : Table.Retouch isField fields again) : Retouches (.obj fields) (.obj again)
  | entry {fields entry again : Table Json} {before after : List Json} (listing : Listing)
      (listed : Table.get? fields listing.key = some (.arr (before ++ .obj entry :: after)))
      (distinct : (Table.keys entry).Nodup) (touch : Table.Retouch listing.isField entry again) :
      Retouches (.obj fields)
        (.obj (Table.insert fields listing.key (.arr (before ++ .obj again :: after))))

section Entries

variable {entry again : Table Json}

theorem nodeOfEntry?_of_retouch (distinct : (Table.keys entry).Nodup)
    (touch : Table.Retouch Listing.nodes.isField entry again) :
    nodeOfEntry? (.obj entry) = nodeOfEntry? (.obj again) := by
  have text {key : String} (isOne : Listing.nodes.isField key = true) :=
    Table.string?_of_retouch distinct touch isOne
  have params : (Table.get? entry "params").bind Json.fields? =
      (Table.get? again "params").bind Json.fields? :=
    Table.bind_of_retouch rfl distinct touch (by simp [Listing.isField])
  simp only [ nodeOfEntry?, Json.fields?, Option.bind_eq_bind, Option.bind_some, params,
    @text "id" (by simp [Listing.isField]), @text "type" (by simp [Listing.isField]),
    @text "name" (by simp [Listing.isField])]

/-- What a saved edge is read as, for an entry that has an id and both ends. -/
def edgeReading? (entry : Json) : Option (String × Checked Edge) :=
  ( edgeEntry? entry).map fun (id, fields) => (id, Edge.ofFields (givenFields fields))

theorem get?_givenFields (distinct : (Table.keys entry).Nodup) (key : String) :
    Table.get? (givenFields entry) key = (Table.given? entry key).filter fun value =>
      (key != "sourceHandle" && key != "targetHandle") || value.string?.isSome := by
  have kept : Table.get? (givenFields entry) key = _ :=
    Table.get?_filter_of_nodup distinct fun key value =>
      !value.isNull && ((key != "sourceHandle" && key != "targetHandle") || value.string?.isSome)
  rw [kept, Table.given?, Option.filter_filter]

theorem edgeReading?_of_retouch (distinct : (Table.keys entry).Nodup)
    (touch : Table.Retouch Listing.edges.isField entry again) :
    edgeReading? (.obj entry) = edgeReading? (.obj again) := by
  have camel (field : EdgeField) : Listing.edges.isField field.camelKey = true := by
    rw [Listing.isField, EdgeField.ofKey?_camelKey]
    rfl
  have snake (field : EdgeField) : Listing.edges.isField field.snakeKey = true := by
    rw [Listing.isField, EdgeField.ofKey?_snakeKey]
    rfl
  have given {key : String} (isOne : Listing.edges.isField key = true) :
      Table.get? (givenFields entry) key = Table.get? (givenFields again) key := by
    rw [get?_givenFields distinct, get?_givenFields (Table.nodup_keys_of_retouch distinct touch),
      Table.given?_of_retouch distinct touch isOne]
  have same : Edge.ofFields (givenFields entry) = Edge.ofFields (givenFields again) :=
    Edge.ofFields_congr (fun field => given (camel field)) fun field => given (snake field)
  have text (field : EdgeField) := Table.string?_of_retouch distinct touch (camel field)
  have id := text .id
  have source := text .source
  have target := text .target
  simp only [EdgeField.camelKey] at id source target
  simp only [edgeReading?, edgeEntry?, Json.fields?, Option.bind_eq_bind, Option.bind_some, id,
    source, target, Option.map_bind, Function.comp_def, Option.map_some, same]

end Entries

section Lists

variable {entries again : List Json}

/-- Node entries count as the nodes that are read from them. -/
theorem loadNodes_congr (same : entries.map nodeOfEntry? = again.map nodeOfEntry?) (position : Nat)
    (seen : List String) : loadNodes position seen entries = loadNodes position seen again := by
  induction entries generalizing again position seen with
  | nil =>
      cases again with
      | nil => rfl
      | cons _ _ => cases same
  | cons entry rest ih =>
      cases again with
      | nil => cases same
      | cons other others =>
          obtain ⟨first, later⟩ := List.cons.inj same
          simp only [loadNodes, first, ih later]

theorem loadEdges_step (position : Nat) (seen : List String) (entry : Json) (rest : List Json) :
    loadEdges position seen (entry :: rest) =
      match edgeReading? entry with
      | none =>
          let (edges, skipped) := loadEdges (position + 1) seen rest
          (edges, .malformedEdge position :: skipped)
      | some (id, read) =>
          if id ∈ seen then
            let (edges, skipped) := loadEdges (position + 1) seen rest
            (edges, .repeatedEdge id :: skipped)
          else
            match read with
            | .error faults =>
                let (edges, skipped) := loadEdges (position + 1) seen rest
                (edges, .invalidEdge id faults.length :: skipped)
            | .ok edge =>
                let (edges, skipped) := loadEdges (position + 1) (id :: seen) rest
                (edge :: edges, skipped) := by
  rw [loadEdges_cons, edgeReading?]
  cases edgeEntry? entry <;> rfl

/-- Edge entries count as the ids and the edges that are read from them. -/
theorem loadEdges_congr (same : entries.map edgeReading? = again.map edgeReading?) (position : Nat)
    (seen : List String) : loadEdges position seen entries = loadEdges position seen again := by
  induction entries generalizing again position seen with
  | nil =>
      cases again with
      | nil => rfl
      | cons _ _ => cases same
  | cons entry rest ih =>
      cases again with
      | nil => cases same
      | cons other others =>
          obtain ⟨first, later⟩ := List.cons.inj same
          simp only [loadEdges_step, first, ih later]

end Lists

/-- Documents load alike if they name the same version and title and their lists read the same. -/
theorem load_congr {fields again : Table Json} (version : versionOf fields = versionOf again)
    (title : Table.string? fields "title" = Table.string? again "title")
    (nodes : (entriesOf fields "nodes").map nodeOfEntry? =
      (entriesOf again "nodes").map nodeOfEntry?)
    (edges : (entriesOf fields "edges").map edgeReading? =
      (entriesOf again "edges").map edgeReading?) :
    load (.obj fields) = load (.obj again) := by
  have sameNodes := loadNodes_congr nodes 0 []
  have sameEdges := loadEdges_congr edges 0 []
  unfold entriesOf at sameNodes sameEdges
  rw [load_obj, load_obj, version, ofFields, ofFields, title, sameNodes, sameEdges]

theorem entriesOf_of_listed {fields : Table Json} {key : String} {items : List Json}
    (listed : Table.get? fields key = some (.arr items)) : entriesOf fields key = items := by
  rw [entriesOf, listed]
  rfl

theorem entriesOf_insert {fields : Table Json} {key other : String} (apart : key ≠ other)
    (items : List Json) :
    entriesOf (Table.insert fields key (.arr items)) other = entriesOf fields other := by
  rw [entriesOf, entriesOf, Table.get?_insert, if_neg apart]

/-- Entries of a list that read the same leave the list as it reads. -/
theorem map_entriesOf_insert {α : Type} {read : Json → α} {fields : Table Json} {key : String}
    {before after : List Json} {entry again : Json}
    (listed : Table.get? fields key = some (.arr (before ++ entry :: after)))
    (same : read entry = read again) :
    (entriesOf fields key).map read =
      (entriesOf (Table.insert fields key (.arr (before ++ again :: after))) key).map read := by
  have listedToo := Table.get?_insert fields key key (.arr (before ++ again :: after))
  rw [if_pos rfl] at listedToo
  rw [entriesOf_of_listed listed, entriesOf_of_listed listedToo, List.map_append, List.map_append,
    List.map_cons, List.map_cons, same]

/-- One change leaves the outcome as it is. -/
theorem load_of_retouches {value again : Json} (touched : Retouches value again) :
    load value = load again := by
  cases touched with
  | @document fields again distinct touch =>
      have given {key : String} (isOne : isField key = true) :=
        Table.getD_of_retouch distinct touch isOne
      apply load_congr
      · exact given (by simp [isField])
      · exact Table.string?_of_retouch distinct touch (by simp [isField])
      · rw [entriesOf, entriesOf, @given "nodes" (by simp [isField])]
      · rw [entriesOf, entriesOf, @given "edges" (by simp [isField])]
  | @entry fields entry again before after listing listed distinct touch =>
      have apart {key : String} (miss : listing.key ≠ key) :
          Table.get? (Table.insert fields listing.key (.arr (before ++ .obj again :: after))) key =
            Table.get? fields key := by
        rw [Table.get?_insert, if_neg miss]
      cases listing with
      | nodes =>
          apply load_congr
          · rw [versionOf, versionOf, apart (by decide)]
          · rw [Table.string?, Table.string?, apart (by decide)]
          · exact map_entriesOf_insert listed (nodeOfEntry?_of_retouch distinct touch)
          · rw [entriesOf_insert (by decide)]
      | edges =>
          apply load_congr
          · rw [versionOf, versionOf, apart (by decide)]
          · rw [Table.string?, Table.string?, apart (by decide)]
          · rw [entriesOf_insert (by decide)]
          · exact map_entriesOf_insert listed (edgeReading?_of_retouch distinct touch)

/-- Only fields that are known and not null matter: values that differ in any number of such
changes, made or taken back, load as the same document with the same notices, or are refused for
the same fault. -/
theorem load_of_retouched {value again : Json} (touched : Relation.EqvGen Retouches value again) :
    load value = load again := by
  induction touched with
  | rel value again touched => exact load_of_retouches touched
  | refl value => rfl
  | symm value again _ same => exact same.symm
  | trans value middle again _ _ first second => exact first.trans second

/-- A sketch of a scene, but for the fields of its one edge. -/
def sketchFields (edge : Table Json) : Table Json :=
  [("title", .null), ("edges", .arr [.obj edge, .str "e2"]),
    ("nodes", .arr [.obj [("id", .str "s"), ("type", .str "start")], .obj [("id", .str "z")]]),
    ("schemaVersion", .int 1)]

/-- The camel-case handle is left null, so that the other key speaks. -/
def openEdge : Table Json :=
  [("id", .str "e1"), ("source", .str "s"), ("target", .str "z"), ("sourceHandle", .null),
    ("source_handle", .str "out"), ("endTimeoutSeconds", .str "5")]

def plainEdge : Table Json :=
  [("id", .str "e1"), ("source", .str "s"), ("target", .str "z"), ("source_handle", .str "out"),
    ("endTimeoutSeconds", .str "5")]

/-- The sketch without what is null, in another order, and with a key that is no field. -/
def redrawnFields : Table Json :=
  [("zoom", .int 2), ("schemaVersion", .int 1),
    ("nodes", .arr [.obj [("id", .str "s"), ("type", .str "start")], .obj [("id", .str "z")]]),
    ("edges", .arr [.obj plainEdge, .str "e2"])]

theorem retouched_sketch :
    Relation.EqvGen Retouches (.obj (sketchFields openEdge)) (.obj redrawnFields) := by
  have handle : Retouches (.obj (sketchFields openEdge)) (.obj (sketchFields plainEdge)) :=
    @Retouches.entry _ openEdge plainEdge [] [.str "e2"] .edges rfl (by decide)
      (@Table.Retouch.unset _ (openEdge.take 3) (openEdge.drop 4) "sourceHandle")
  have title : Retouches (.obj (sketchFields plainEdge)) (.obj (sketchFields plainEdge).tail) :=
    .document (by decide) (@Table.Retouch.unset _ [] _ "title")
  have order : Retouches (.obj (sketchFields plainEdge).tail) (.obj redrawnFields.tail) :=
    .document (by decide) (.reorder (List.reverse_perm redrawnFields.tail))
  have zoom : Retouches (.obj redrawnFields) (.obj redrawnFields.tail) :=
    .document (by decide) (@Table.Retouch.stray _ [] _ "zoom" (.int 2) rfl)
  exact .trans _ _ _ (.rel _ _ handle) (.trans _ _ _ (.rel _ _ title)
    (.trans _ _ _ (.rel _ _ order) (.symm _ _ (.rel _ _ zoom))))

theorem load_of_retouched_sketch :
    Relation.EqvGen Retouches (.obj (sketchFields openEdge)) (.obj redrawnFields) ∧
      load (.obj (sketchFields openEdge)) = load (.obj redrawnFields) ∧
      load (.obj redrawnFields) = .ok
        { document :=
            { title := defaultTitle
              graph :=
                { nodes := [{ id := "s", type := "start" }]
                  edges :=
                    [{ id := "e1", source := "s", target := "z", sourceHandle := some "out",
                       endTimeout := some (.int 5) }] } }
          skipped := [.malformedNode 1, .malformedEdge 1] } := by
  refine ⟨retouched_sketch, load_of_retouched retouched_sketch, ?_⟩
  with_unfolding_all rfl

end Document

end SceneScript
