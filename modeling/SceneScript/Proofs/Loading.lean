import Mathlib.Data.List.Nodup
import SceneScript.Document
import SceneScript.Proofs.Outcome

/-!
What a document value loads as. Main statement: a value is refused exactly when it is no object or
is of another version; any other value loads, each of its entries is kept or left out with one
notice, and what is kept are the first entries of their ids. So a loaded graph never names a node or
an edge twice.
-/

namespace SceneScript

/-- The values that equal one as numbers. -/
inductive Json.EqualsOne : Json → Prop where
  | int : EqualsOne (.num (.int 1))
  | double {value : Double} (whole : value.toInt? = some 1) : EqualsOne (.num (.double value))
  | flag : EqualsOne (.bool true)

theorem Table.get?_filter_of_kept {α : Type} {table : Table α} {key : String} {value : α}
    {keep : String × α → Bool} (found : get? table key = some value)
    (kept : keep (key, value) = true) : get? (table.filter keep) key = some value := by
  induction table with
  | nil => cases found
  | cons entry rest ih =>
      obtain ⟨other, stored⟩ := entry
      by_cases hit : other = key
      · subst hit
        simp only [get?, if_true, Option.some.injEq] at found
        subst found
        simp [kept, get?]
      · simp only [get?, if_neg hit] at found
        by_cases passes : keep (other, stored) = true <;> simp [passes, get?, hit, ih found]

/-- What is true of a value whatever its last field is read as is true of the value. -/
theorem Checked.and_induction {α β : Type} {function : Checked (α → β)} {argument : Checked α}
    {holds : β → Prop} (made : ∀ make, function = .ok make → ∀ field, holds (make field)) :
    ∀ value, function.and argument = .ok value → holds value := by
  intro value both
  obtain ⟨make, field, ok, -, rfl⟩ := Checked.and_eq_ok_iff.mp both
  exact made make ok field

namespace Document

/-- The entry is an object with text as its id and its type. A name that is no text, and parameters
that are no object, count as not given. -/
def NodeEntry (entry : Json) (node : Node) : Prop :=
  ∃ fields, entry = .obj fields ∧ Table.get? fields "id" = some (.str node.id) ∧
    Table.get? fields "type" = some (.str node.type) ∧ node.name = Table.string? fields "name" ∧
    node.params = ((Table.get? fields "params").bind Json.fields?).getD []

/-- The entry is an object with text as its id and as both ends. -/
def EdgeNamed (entry : Json) (id : String) (fields : Table Json) : Prop :=
  entry = .obj fields ∧ Table.get? fields "id" = some (.str id) ∧
    (∃ source, Table.get? fields "source" = some (.str source)) ∧
    ∃ target, Table.get? fields "target" = some (.str target)

/-- The entry has an id and both ends, and each of its fields can be read. -/
def EdgeEntry (entry : Json) (edge : Edge) : Prop :=
  ∃ fields, EdgeNamed entry edge.id fields ∧ Edge.ofFields (givenFields fields) = .ok edge

section Sieves

variable {α : Type}

/-- An item of the id can be read from one of the entries. -/
def Taken (Reads : Json → α → Prop) (idOf : α → String) (entries : List Json) (id : String) :
    Prop :=
  ∃ entry ∈ entries, ∃ item, Reads entry item ∧ idOf item = id

/-- Entries that are gone through in their order, each of them kept or left out with a notice. Those
gone through already are `before`. -/
inductive Sieved (Verdict : List Json → Json → Except Skip α → Prop) :
    List Json → List Json → List α → List Skip → Prop where
  | done {before : List Json} : Sieved Verdict before [] [] []
  | keep {before rest : List Json} {entry : Json} {item : α} {kept : List α} {skipped : List Skip}
      (verdict : Verdict before entry (.ok item))
      (after : Sieved Verdict (before ++ [entry]) rest kept skipped) :
      Sieved Verdict before (entry :: rest) (item :: kept) skipped
  | skip {before rest : List Json} {entry : Json} {reason : Skip} {kept : List α}
      {skipped : List Skip} (verdict : Verdict before entry (.error reason))
      (after : Sieved Verdict (before ++ [entry]) rest kept skipped) :
      Sieved Verdict before (entry :: rest) kept (reason :: skipped)

end Sieves

/-- What becomes of a node entry: the first of its id is kept. -/
inductive NodeVerdict (before : List Json) (entry : Json) : Except Skip Node → Prop where
  | kept {node : Node} (reads : NodeEntry entry node)
      (first : ¬ Taken NodeEntry Node.id before node.id) : NodeVerdict before entry (.ok node)
  | repeated {node : Node} (reads : NodeEntry entry node)
      (again : Taken NodeEntry Node.id before node.id) :
      NodeVerdict before entry (.error (.repeatedNode node.id))
  | malformed (unread : ∀ node, ¬ NodeEntry entry node) :
      NodeVerdict before entry (.error (.malformedNode before.length))

/-- What becomes of an edge entry: the first of its id that can be read is kept. -/
inductive EdgeVerdict (before : List Json) (entry : Json) : Except Skip Edge → Prop where
  | kept {edge : Edge} (reads : EdgeEntry entry edge)
      (first : ¬ Taken EdgeEntry Edge.id before edge.id) : EdgeVerdict before entry (.ok edge)
  | repeated {id : String} {fields : Table Json} (named : EdgeNamed entry id fields)
      (again : Taken EdgeEntry Edge.id before id) :
      EdgeVerdict before entry (.error (.repeatedEdge id))
  | invalid {id : String} {fields : Table Json} {faults : List FieldError}
      (named : EdgeNamed entry id fields) (first : ¬ Taken EdgeEntry Edge.id before id)
      (refused : Edge.ofFields (givenFields fields) = .error faults) :
      EdgeVerdict before entry (.error (.invalidEdge id faults.length))
  | malformed (unnamed : ∀ id fields, ¬ EdgeNamed entry id fields) :
      EdgeVerdict before entry (.error (.malformedEdge before.length))

/-- The version that an object names; one that it leaves out is null. -/
def versionOf (fields : Table Json) : Json := (Table.get? fields "schemaVersion").getD .null

/-- The entries under a key. -/
def entriesOf (fields : Table Json) (key : String) : List Json :=
  ((Table.get? fields key).getD .null).items

inductive Refused : Json → DocumentFault → Prop where
  | notObject {value : Json} (other : ∀ fields, value ≠ .obj fields) : Refused value .notObject
  | wrongVersion {fields : Table Json} (other : ¬ (versionOf fields).EqualsOne) :
      Refused (.obj fields) (.wrongVersion (versionOf fields))

/-- What an object of this version loads as. -/
structure LoadsAs (fields : Table Json) (loaded : Loaded) : Prop where
  title : loaded.document.title = (Table.string? fields "title").getD defaultTitle
  sieved : ∃ skippedNodes skippedEdges, loaded.skipped = skippedNodes ++ skippedEdges ∧
    Sieved NodeVerdict [] (entriesOf fields "nodes") loaded.document.graph.nodes skippedNodes ∧
    Sieved EdgeVerdict [] (entriesOf fields "edges") loaded.document.graph.edges skippedEdges
  unique : loaded.document.graph.UniqueIds
  accepted : Graph.ofLists loaded.document.graph.nodes loaded.document.graph.edges =
    .ok loaded.document.graph

section Sieves

variable {α : Type} {Reads : Json → α → Prop} {idOf : α → String}
  {Verdict : List Json → Json → Except Skip α → Prop} {before entries : List Json} {entry : Json}
  {id : String} {kept : List α} {skipped : List Skip}

theorem taken_append_iff :
    Taken Reads idOf (before ++ [entry]) id ↔
      Taken Reads idOf before id ∨ ∃ item, Reads entry item ∧ idOf item = id := by
  simp only [Taken, List.mem_append, List.mem_singleton]
  constructor
  · rintro ⟨other, listed | rfl, reads⟩
    · exact Or.inl ⟨other, listed, reads⟩
    · exact Or.inr reads
  · rintro (⟨other, listed, reads⟩ | reads)
    · exact ⟨other, Or.inl listed, reads⟩
    · exact ⟨entry, Or.inr rfl, reads⟩

/-- Items that are kept only as the first of their ids have distinct ids. -/
theorem Sieved.distinct (sieved : Sieved Verdict before entries kept skipped)
    (fresh : ∀ before entry item, Verdict before entry (.ok item) →
      Reads entry item ∧ ¬ Taken Reads idOf before (idOf item)) :
    (kept.map idOf).Nodup ∧ ∀ item ∈ kept, ¬ Taken Reads idOf before (idOf item) := by
  induction sieved with
  | done => simp
  | @keep before rest entry item kept skipped verdict _ ih =>
      obtain ⟨distinct, later⟩ := ih
      obtain ⟨reads, first⟩ := fresh _ _ _ verdict
      simp only [taken_append_iff, not_or, not_exists] at later
      constructor
      · rw [List.map_cons, List.nodup_cons]
        refine ⟨?_, distinct⟩
        intro again
        obtain ⟨other, listed, same⟩ := List.mem_map.mp again
        exact (later other listed).2 item ⟨reads, same.symm⟩
      · intro other listed
        rcases List.mem_cons.mp listed with rfl | listed
        · exact first
        · exact (later other listed).1
  | skip _ _ ih =>
      simp only [taken_append_iff, not_or] at ih
      exact ⟨ih.1, fun item listed => (ih.2 item listed).1⟩

/-- Verdicts that are settled settle what is kept and what is left out. -/
theorem Sieved.unique {kept' : List α} {skipped' : List Skip}
    (sieved : Sieved Verdict before entries kept skipped)
    (again : Sieved Verdict before entries kept' skipped')
    (settled : ∀ before entry one other, Verdict before entry one → Verdict before entry other →
      one = other) : kept = kept' ∧ skipped = skipped' := by
  induction sieved generalizing kept' skipped' with
  | done =>
      cases again
      exact ⟨rfl, rfl⟩
  | keep verdict _ ih =>
      cases again with
      | keep verdict' after' =>
          cases settled _ _ _ _ verdict verdict'
          obtain ⟨rfl, rfl⟩ := ih after'
          exact ⟨rfl, rfl⟩
      | skip verdict' => cases settled _ _ _ _ verdict verdict'
  | skip verdict _ ih =>
      cases again with
      | keep verdict' => cases settled _ _ _ _ verdict verdict'
      | skip verdict' after' =>
          cases settled _ _ _ _ verdict verdict'
          obtain ⟨rfl, rfl⟩ := ih after'
          exact ⟨rfl, rfl⟩

end Sieves

section Entries

variable {entry : Json} {node : Node} {id : String} {fields : Table Json}

theorem string?_eq_some_iff {key text : String} :
    Table.string? fields key = some text ↔ Table.get? fields key = some (.str text) := by
  unfold Table.string?
  rcases Table.get? fields key with _ | value
  · simp
  · cases value <;> simp [Json.string?]

theorem nodeOfEntry?_eq_some_iff : nodeOfEntry? entry = some node ↔ NodeEntry entry node := by
  unfold nodeOfEntry? NodeEntry
  simp only [Option.bind_eq_bind, Option.bind_eq_some_iff, Option.some.injEq, string?_eq_some_iff]
  constructor
  · rintro ⟨fields, object, id, named, type, typed, rfl⟩
    cases entry <;> cases object
    exact ⟨_, rfl, named, typed, rfl, rfl⟩
  · rintro ⟨fields, rfl, named, typed, name, params⟩
    refine ⟨fields, rfl, node.id, named, node.type, typed, ?_⟩
    rw [← name, ← params]

theorem edgeEntry?_eq_some_iff :
    edgeEntry? entry = some (id, fields) ↔ EdgeNamed entry id fields := by
  unfold edgeEntry? EdgeNamed
  simp only [Option.bind_eq_bind, Option.bind_eq_some_iff, Option.some.injEq, string?_eq_some_iff]
  constructor
  · rintro ⟨own, object, id, named, source, begins, target, ends, same⟩
    cases entry <;> cases object
    cases same
    exact ⟨rfl, named, ⟨source, begins⟩, ⟨target, ends⟩⟩
  · rintro ⟨rfl, named, ⟨source, begins⟩, ⟨target, ends⟩⟩
    exact ⟨fields, rfl, id, named, source, begins, target, ends, rfl⟩

/-- An edge that is read from an entry has the id of the entry. -/
theorem id_of_ofFields {edge : Edge} (named : Table.get? fields "id" = some (.str id))
    (read : Edge.ofFields (givenFields fields) = .ok edge) : edge.id = id := by
  have given : Table.get? (givenFields fields) "id" = some (.str id) :=
    Table.get?_filter_of_kept named rfl
  have key : EdgeField.id.givenKey (givenFields fields) = "id" :=
    if_pos (Option.isSome_of_eq_some given)
  have own : EdgeField.id.required (givenFields fields) Field.text = .ok id := by
    rw [EdgeField.required, Field.required, key, given]
    rfl
  revert edge
  unfold Edge.ofFields
  rw [own]
  -- Whatever the fourteen other fields are read as, the id is the first of them.
  iterate 14 apply Checked.and_induction
  intro make made
  cases made
  intros
  rfl

theorem NodeEntry.functional {other : Node} (one : NodeEntry entry node)
    (another : NodeEntry entry other) : node = other := by
  rw [← nodeOfEntry?_eq_some_iff] at one another
  exact Option.some.inj (one.symm.trans another)

theorem EdgeNamed.functional {id' : String} {fields' : Table Json} (one : EdgeNamed entry id fields)
    (another : EdgeNamed entry id' fields') : id = id' ∧ fields = fields' := by
  rw [← edgeEntry?_eq_some_iff] at one another
  cases one.symm.trans another
  exact ⟨rfl, rfl⟩

/-- What an entry with an id and both ends is read as depends on its fields alone. -/
theorem edgeEntry_iff {edge : Edge} (named : EdgeNamed entry id fields) :
    EdgeEntry entry edge ↔ Edge.ofFields (givenFields fields) = .ok edge := by
  constructor
  · rintro ⟨fields', named', read⟩
    obtain ⟨-, rfl⟩ := named.functional named'
    exact read
  · intro read
    refine ⟨fields, ?_, read⟩
    rw [id_of_ofFields named.2.1 read]
    exact named

end Entries

section Verdicts

variable {before : List Json} {entry : Json}

theorem NodeVerdict.settled {one other : Except Skip Node} (first : NodeVerdict before entry one)
    (second : NodeVerdict before entry other) : one = other := by
  cases first with
  | kept reads first =>
      cases second with
      | kept reads' => rw [reads.functional reads']
      | repeated reads' again => exact (first (reads.functional reads' ▸ again)).elim
      | malformed unread => exact (unread _ reads).elim
  | repeated reads again =>
      cases second with
      | kept reads' first => exact (first (reads.functional reads' ▸ again)).elim
      | repeated reads' => rw [reads.functional reads']
      | malformed unread => exact (unread _ reads).elim
  | malformed unread =>
      cases second with
      | kept reads => exact (unread _ reads).elim
      | repeated reads => exact (unread _ reads).elim
      | malformed => rfl

theorem NodeVerdict.fresh {node : Node} (verdict : NodeVerdict before entry (.ok node)) :
    NodeEntry entry node ∧ ¬ Taken NodeEntry Node.id before node.id := by
  cases verdict with
  | kept reads first => exact ⟨reads, first⟩

theorem EdgeVerdict.fresh {edge : Edge} (verdict : EdgeVerdict before entry (.ok edge)) :
    EdgeEntry entry edge ∧ ¬ Taken EdgeEntry Edge.id before edge.id := by
  cases verdict with
  | kept reads first => exact ⟨reads, first⟩

theorem EdgeVerdict.settled {one other : Except Skip Edge} (first : EdgeVerdict before entry one)
    (second : EdgeVerdict before entry other) : one = other := by
  cases first with
  | @kept edge reads first =>
      obtain ⟨fields, named, read⟩ := reads
      cases second with
      | kept reads' =>
          cases read.symm.trans ((edgeEntry_iff named).mp reads')
          rfl
      | repeated named' again => exact (first ((named.functional named').1 ▸ again)).elim
      | invalid named' _ refused =>
          obtain ⟨-, rfl⟩ := named.functional named'
          cases read.symm.trans refused
      | malformed unnamed => exact (unnamed _ _ named).elim
  | repeated named again =>
      cases second with
      | kept reads first =>
          obtain ⟨fields, named', -⟩ := reads
          exact (first ((named.functional named').1 ▸ again)).elim
      | repeated named' => rw [(named.functional named').1]
      | invalid named' first => exact (first ((named.functional named').1 ▸ again)).elim
      | malformed unnamed => exact (unnamed _ _ named).elim
  | invalid named first refused =>
      cases second with
      | kept reads => cases refused.symm.trans ((edgeEntry_iff named).mp reads)
      | repeated named' again => exact (first ((named.functional named').1 ▸ again)).elim
      | invalid named' _ refused' =>
          obtain ⟨rfl, rfl⟩ := named.functional named'
          cases refused.symm.trans refused'
          rfl
      | malformed unnamed => exact (unnamed _ _ named).elim
  | malformed unnamed =>
      cases second with
      | kept reads =>
          obtain ⟨fields, named, -⟩ := reads
          exact (unnamed _ _ named).elim
      | repeated named => exact (unnamed _ _ named).elim
      | invalid named => exact (unnamed _ _ named).elim
      | malformed => rfl

end Verdicts

section Loops

variable {before : List Json} {seen : List String}

/-- One step of the loop. It is stated here because finding it by unfolding opens the reading of
all fields of an edge. -/
theorem loadEdges_cons (position : Nat) (entry : Json) (rest : List Json) :
    loadEdges position seen (entry :: rest) =
      match edgeEntry? entry with
      | none =>
          let (edges, skipped) := loadEdges (position + 1) seen rest
          (edges, .malformedEdge position :: skipped)
      | some (id, fields) =>
          if id ∈ seen then
            let (edges, skipped) := loadEdges (position + 1) seen rest
            (edges, .repeatedEdge id :: skipped)
          else
            match Edge.ofFields (givenFields fields) with
            | .error faults =>
                let (edges, skipped) := loadEdges (position + 1) seen rest
                (edges, .invalidEdge id faults.length :: skipped)
            | .ok edge =>
                let (edges, skipped) := loadEdges (position + 1) (id :: seen) rest
                (edge :: edges, skipped) := (rfl)

/-- What has been seen are the ids of the entries gone through from which a node can be read. -/
theorem loadNodes_sieved (aligned : ∀ id, id ∈ seen ↔ Taken NodeEntry Node.id before id)
    (entries : List Json) :
    Sieved NodeVerdict before entries (loadNodes before.length seen entries).1
      (loadNodes before.length seen entries).2 := by
  induction entries generalizing before seen with
  | nil => exact .done
  | cons entry rest ih =>
      have onward := @ih (before ++ [entry])
      simp only [List.length_append, List.length_singleton, taken_append_iff] at onward
      rw [loadNodes]
      cases read : nodeOfEntry? entry with
      | none =>
          have unread : ∀ node, ¬ NodeEntry entry node := by
            intro node reads
            rw [← nodeOfEntry?_eq_some_iff, read] at reads
            cases reads
          refine .skip (.malformed unread) (onward fun id => ?_)
          simp [aligned, unread]
      | some node =>
          have reads : NodeEntry entry node := nodeOfEntry?_eq_some_iff.mp read
          have only : ∀ id, (∃ other, NodeEntry entry other ∧ other.id = id) ↔ id = node.id := by
            intro id
            constructor
            · rintro ⟨other, reads', rfl⟩
              rw [reads.functional reads']
            · rintro rfl
              exact ⟨node, reads, rfl⟩
          simp only [only] at onward
          by_cases again : node.id ∈ seen
          · simp only [again, if_true]
            refine .skip (.repeated reads ((aligned _).mp again)) (onward fun id => ?_)
            rw [← aligned]
            exact (or_iff_left_of_imp fun same => same ▸ again).symm
          · simp only [again, if_false]
            refine .keep (.kept reads (mt (aligned _).mpr again)) (onward fun id => ?_)
            rw [List.mem_cons, or_comm, aligned]

/-- What has been seen are the ids of the entries gone through from which an edge can be read; an
edge with invalid fields is not among them. -/
theorem loadEdges_sieved (aligned : ∀ id, id ∈ seen ↔ Taken EdgeEntry Edge.id before id)
    (entries : List Json) :
    Sieved EdgeVerdict before entries (loadEdges before.length seen entries).1
      (loadEdges before.length seen entries).2 := by
  induction entries generalizing before seen with
  | nil => exact .done
  | cons entry rest ih =>
      have onward := @ih (before ++ [entry])
      simp only [List.length_append, List.length_singleton, taken_append_iff] at onward
      rw [loadEdges_cons]
      rcases naming : edgeEntry? entry with _ | ⟨id, fields⟩
      · have unnamed : ∀ id fields, ¬ EdgeNamed entry id fields := by
          intro id fields named
          rw [← edgeEntry?_eq_some_iff, naming] at named
          cases named
        have unread : ∀ edge, ¬ EdgeEntry entry edge := by
          rintro edge ⟨fields, named, -⟩
          exact unnamed _ _ named
        refine .skip (.malformed unnamed) (onward fun id => ?_)
        simp [aligned, unread]
      · have named : EdgeNamed entry id fields := edgeEntry?_eq_some_iff.mp naming
        simp only [edgeEntry_iff named] at onward
        by_cases again : id ∈ seen
        · simp only [again, if_true]
          refine .skip (.repeated named ((aligned _).mp again)) (onward fun other => ?_)
          rw [← aligned]
          refine (or_iff_left_of_imp ?_).symm
          rintro ⟨edge, read, rfl⟩
          rw [id_of_ofFields named.2.1 read]
          exact again
        · have first := mt (aligned id).mpr again
          simp only [again, if_false]
          cases read : Edge.ofFields (givenFields fields) with
          | error faults =>
              refine .skip (.invalid named first read) (onward fun other => ?_)
              simp [aligned, read]
          | ok edge =>
              have same := id_of_ofFields named.2.1 read
              refine .keep (.kept ⟨fields, same ▸ named, read⟩ (same ▸ first))
                (onward fun other => ?_)
              simp [aligned, read, same, eq_comm, or_comm]

end Loops

section Outcome

theorem isCurrent_iff {value : Json} : isCurrent value = true ↔ value.EqualsOne := by
  constructor
  · intro current
    cases value with
    | num number =>
        have whole : number.toInt? = some 1 := beq_iff_eq.mp current
        cases number with
        | int value =>
            cases whole
            exact .int
        | double value => exact .double whole
    | bool value =>
        cases value
        · exact absurd current (by decide)
        · exact .flag
    | _ => cases current
  · rintro (_ | whole | _)
    · rfl
    · exact beq_iff_eq.mpr whole
    · rfl

theorem repeated?_eq_none_iff {seen ids : List String} :
    Graph.repeated? seen ids = none ↔ ids.Nodup ∧ ∀ id ∈ ids, id ∉ seen := by
  induction ids generalizing seen with
  | nil => simp [Graph.repeated?]
  | cons id rest ih =>
      rw [Graph.repeated?]
      by_cases again : id ∈ seen
      · simp [again]
      · simp only [again, if_false, ih, List.nodup_cons, List.mem_cons, not_or, forall_eq_or_imp]
        constructor
        · rintro ⟨distinct, fresh⟩
          exact ⟨⟨fun later => (fresh id later).1 rfl, distinct⟩, not_false,
            fun other listed => (fresh other listed).2⟩
        · rintro ⟨⟨fresh, distinct⟩, -, unseen⟩
          exact ⟨distinct, fun other listed =>
            ⟨fun same => fresh (same ▸ listed), unseen other listed⟩⟩

/-- The check of the graph finds nothing to refuse where ids are unique. -/
theorem ofLists_of_unique {graph : Graph} (unique : graph.UniqueIds) :
    Graph.ofLists graph.nodes graph.edges = .ok graph := by
  have nodes : Graph.repeated? [] (graph.nodes.map Node.id) = none :=
    repeated?_eq_none_iff.mpr ⟨unique.1, fun _ _ => List.not_mem_nil⟩
  have edges : Graph.repeated? [] (graph.edges.map Edge.id) = none :=
    repeated?_eq_none_iff.mpr ⟨unique.2, fun _ _ => List.not_mem_nil⟩
  rw [Graph.ofLists, nodes, edges]

theorem LoadsAs.functional {fields : Table Json} {one other : Loaded} (first : LoadsAs fields one)
    (second : LoadsAs fields other) : one = other := by
  obtain ⟨⟨title, ⟨nodes, edges⟩⟩, skipped⟩ := one
  obtain ⟨⟨title', ⟨nodes', edges'⟩⟩, skipped'⟩ := other
  obtain ⟨titled, ⟨_, _, noticed, nodesSieved, edgesSieved⟩, -, -⟩ := first
  obtain ⟨titled', ⟨_, _, noticed', nodesSieved', edgesSieved'⟩, -, -⟩ := second
  obtain ⟨sameNodes, rfl⟩ := nodesSieved.unique nodesSieved' fun _ _ _ _ => NodeVerdict.settled
  obtain ⟨sameEdges, rfl⟩ := edgesSieved.unique edgesSieved' fun _ _ _ _ => EdgeVerdict.settled
  simp only at titled titled' noticed noticed' sameNodes sameEdges
  rw [titled, titled', noticed, noticed', sameNodes, sameEdges]

theorem ofFields_loadsAs (fields : Table Json) : LoadsAs fields (ofFields fields) := by
  have noNodes (id : String) : id ∈ [] ↔ Taken NodeEntry Node.id [] id := by simp [Taken]
  have noEdges (id : String) : id ∈ [] ↔ Taken EdgeEntry Edge.id [] id := by simp [Taken]
  have nodes := loadNodes_sieved noNodes (entriesOf fields "nodes")
  have edges := loadEdges_sieved noEdges (entriesOf fields "edges")
  have unique : (ofFields fields).document.graph.UniqueIds :=
    ⟨(nodes.distinct fun _ _ _ => NodeVerdict.fresh).1,
      (edges.distinct fun _ _ _ => EdgeVerdict.fresh).1⟩
  exact ⟨rfl, ⟨_, _, rfl, nodes, edges⟩, unique, ofLists_of_unique unique⟩

theorem load_obj (fields : Table Json) :
    load (.obj fields) =
      if isCurrent (versionOf fields) then .ok (ofFields fields)
      else .error (.wrongVersion (versionOf fields)) := rfl

theorem load_eq_error_iff {value : Json} {fault : DocumentFault} :
    load value = .error fault ↔ Refused value fault := by
  constructor
  · intro refused
    cases value with
    | obj fields =>
        rw [load_obj] at refused
        split at refused
        · cases refused
        · rename_i other
          cases refused
          exact .wrongVersion (mt isCurrent_iff.mpr other)
    | _ =>
        cases refused
        exact .notObject (by simp)
  · intro refused
    cases refused with
    | notObject other =>
        cases value with
        | obj fields => exact (other fields rfl).elim
        | _ => rfl
    | wrongVersion other => exact if_neg (mt isCurrent_iff.mp other)

theorem load_eq_ok_iff {value : Json} {loaded : Loaded} :
    load value = .ok loaded ↔
      ∃ fields, value = .obj fields ∧ (versionOf fields).EqualsOne ∧ LoadsAs fields loaded := by
  constructor
  · intro loads
    cases value with
    | obj fields =>
        rw [load_obj] at loads
        split at loads
        · rename_i current
          cases loads
          exact ⟨fields, rfl, isCurrent_iff.mp current, ofFields_loadsAs fields⟩
        · cases loads
    | _ => cases loads
  · rintro ⟨fields, rfl, current, loadsAs⟩
    rw [← (ofFields_loadsAs fields).functional loadsAs]
    exact if_pos (isCurrent_iff.mpr current)

/-- A value is refused exactly when it is no object or is of another version, and every other value
loads as it should. -/
theorem load_outcome (value : Json) :
    (∀ fault, load value = .error fault ↔ Refused value fault) ∧
      ∀ loaded, load value = .ok loaded ↔ ∃ fields, value = .obj fields ∧
        (versionOf fields).EqualsOne ∧ LoadsAs fields loaded :=
  ⟨fun _ => load_eq_error_iff, fun _ => load_eq_ok_iff⟩

end Outcome

end Document

end SceneScript
