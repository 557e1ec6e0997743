import Mathlib.Data.List.Forall2
import SceneScript.Export.Envelope
import SceneScript.Proofs.WrittenNumber

/-!
Texts of values. A value that is written at any depth is read back wherever a value is expected, by
one rule for each kind of value. Main statement: the text of an exported scene is read as the
envelope with the doubles that JSON does not know made null, and nothing else changed.
-/

namespace SceneScript

namespace Lexeme

open Json

/-- Four hexadecimal digits are written for a control, and they are its code. -/
theorem hexValue?_hexDigit :
    ∀ code < 0x20, hexValue? ['0', '0', hexDigit (code / 16), hexDigit code] = some code := by
  decide

section Characters

variable (c next : Char) (rest : List Char) (spelling : Spelling)

theorem scanText_code {code : Nat} (low : code < 0x20) :
    scanText spelling ('\\' :: 'u' :: '0' :: '0' :: hexDigit (code / 16) :: hexDigit code ::
      next :: rest) = scanText (spelling.push (Char.ofNat code)) (next :: rest) := by
  have same : spelling.pushCode code = spelling.push (Char.ofNat code) := by
    rw [Spelling.pushCode, if_neg (by omega), if_neg (by omega)]
  simp only [scanText, hexValue?_hexDigit code low, same]

/-- Any other character stands for itself. -/
theorem scanText_plain (quote : c ≠ '"') (backslash : c ≠ '\\') (high : 0x20 ≤ c.toNat) :
    scanText spelling (c :: rest) = scanText (spelling.push c) rest := by
  rw [scanText.eq_def]
  split <;> simp_all

/-- A character is scanned as it is escaped, if something follows it. -/
theorem scanText_escape : scanText spelling (escape c ++ next :: rest) =
    scanText (spelling.push c) (next :: rest) := by
  unfold escape
  split_ifs with quote backslash line feed tab back form control
  · subst quote
    rfl
  · subst backslash
    rfl
  · subst line
    rfl
  · subst feed
    rfl
  · subst tab
    rfl
  · subst back
    rfl
  · subst form
    rfl
  · have := scanText_code next rest spelling control
    rwa [Char.ofNat_toNat] at this
  · exact scanText_plain c (next :: rest) spelling quote backslash (Nat.le_of_not_lt control)

end Characters

/-- The characters of a written text are those of the text that is scanned. -/
theorem scanText_flatMap_escape (chars done rest : List Char) :
    scanText { done } (chars.flatMap escape ++ '"' :: rest) =
      .ok (String.ofList (done.reverse ++ chars), rest) := by
  induction chars generalizing done with
  | nil =>
      rw [List.append_nil]
      rfl
  | cons c others ih =>
      obtain ⟨next, after, same⟩ :=
        List.exists_cons_of_ne_nil (l := others.flatMap escape ++ '"' :: rest) (by simp)
      rw [List.flatMap_cons, List.append_assoc, same, scanText_escape, ← same]
      exact (ih (c :: done)).trans (by simp)

theorem next_writeText (text : String) (rest : List Char) :
    next '"' (text.toList.flatMap escape ++ '"' :: rest) = (.text text, rest) := by
  simp [next, scanText_flatMap_escape text.toList [] rest]

end Lexeme

/-- A key that is not in a table yet is put behind the others. -/
theorem Table.insert_of_not_mem {α : Type} {table : Table α} {key : String}
    (fresh : key ∉ Table.keys table) (value : α) :
    Table.insert table key value = table ++ [(key, value)] := by
  induction table with
  | nil => rfl
  | cons entry rest ih =>
      simp only [Table.keys, List.map_cons, List.mem_cons, not_or] at fresh
      rw [Table.insert, if_neg (Ne.symm fresh.1), ih fresh.2, List.cons_append]

namespace Json

open Lexeme

/-- Reading gets from a stage and a text to another stage and what is left of the text, on whatever
line it begins. -/
def Runs (stage : Stage) (chars : List Char) (after : Stage) (rest : List Char) : Prop :=
  ∀ line, ∃ last, run stage line chars = run after last rest

section Runs

variable {stage middle after : Stage} {chars between rest : List Char}

theorem Runs.trans (first : Runs stage chars middle between)
    (second : Runs middle between after rest) : Runs stage chars after rest := by
  intro line
  obtain ⟨next, same⟩ := first line
  obtain ⟨last, equal⟩ := second next
  exact ⟨last, same.trans equal⟩

theorem runs_spaces (stage : Stage) (chars rest : List Char)
    (spaces : ∀ c ∈ chars, isSpace c = true) : Runs stage (chars ++ rest) stage rest := by
  induction chars with
  | nil => exact fun line => ⟨line, rfl⟩
  | cons c others ih =>
      intro line
      rw [List.cons_append, run, if_pos (spaces c List.mem_cons_self)]
      exact ih (fun c member => spaces c (List.mem_cons_of_mem _ member)) _

theorem runs_newLine (stage : Stage) (depth : Nat) (rest : List Char) :
    Runs stage (newLine depth ++ rest) stage rest := by
  refine runs_spaces stage _ rest fun c member => ?_
  rcases List.mem_cons.mp member with rfl | blank
  · rfl
  · rw [(List.mem_replicate.mp blank).2]
    rfl

/-- A lexeme that the stage takes. -/
theorem runs_lexeme {first : Char} {lexeme : Lexeme} (visible : isSpace first = false)
    (next : Lexeme.next first chars = (lexeme, rest))
    (takes : ∀ line, stage.take line lexeme = .ok after) :
    Runs stage (first :: chars) after rest := by
  intro line
  exact ⟨line, by simp [run, visible, next, takes]⟩

end Runs

/-- Any value may stand here, inside these frames. -/
def Stage.TakesValue (stage : Stage) (outer : List Frame) : Prop :=
  ∀ line lexeme, lexeme ≠ .closeArray → stage.take line lexeme = takeValue line lexeme outer

theorem Stage.takesValue_value (outer : List Frame) : (value outer).TakesValue outer :=
  fun _ _ _ => rfl

/-- What stands first in an array is its first item, unless it closes it. -/
theorem Stage.takesValue_firstItem (outer : List Frame) :
    (firstItem outer).TakesValue (.array [] :: outer) := by
  intro line lexeme other
  cases lexeme with
  | closeArray => exact (other rfl).elim
  | _ => rfl

/-- A value is read as it is written, wherever a value may stand. -/
def ReadsBack (value : Json) : Prop :=
  ∀ {stage outer}, stage.TakesValue outer → ∀ depth {rest}, Closed rest →
    Runs stage (writeAt depth value ++ rest) (deliver value outer) rest

theorem closed_cons {c : Char} (ends : c = ',' ∨ c = '\n') (rest : List Char) :
    Closed (c :: rest) := by
  intro first same
  cases same
  exact ends

theorem closed_newLine (depth : Nat) (rest : List Char) : Closed (newLine depth ++ rest) :=
  closed_cons (.inr rfl) _

theorem closed_writeItems {rest : List Char} (closed : Closed rest) (depth : Nat)
    (items : List Json) : Closed (writeItems depth items ++ rest) := by
  cases items with
  | nil => exact closed
  | cons item others => exact closed_cons (.inl rfl) _

theorem closed_writeFields {rest : List Char} (closed : Closed rest) (depth : Nat)
    (fields : List (String × Json)) : Closed (writeFields depth fields ++ rest) := by
  cases fields with
  | nil => exact closed
  | cons field others => exact closed_cons (.inl rfl) _

section Values

variable {outer : List Frame} {rest : List Char}

/-- What is one lexeme is read, once the lexeme is the value. -/
theorem readsBack_of_next (value : Json)
    (next : ∀ depth rest, Closed rest → ∃ first others,
      writeAt depth value ++ rest = first :: others ∧ isSpace first = false ∧
        Lexeme.next first others = (scalar value, rest)) : ReadsBack value := by
  intro stage outer takes depth rest closed
  obtain ⟨first, others, same, visible, read⟩ := next depth rest closed
  rw [same]
  exact runs_lexeme visible read fun line => takes line _ nofun

theorem readsBack_null : ReadsBack .null :=
  readsBack_of_next _ fun _ _ _ => ⟨'n', _, rfl, rfl, rfl⟩

theorem readsBack_bool (value : Bool) : ReadsBack (.bool value) := by
  cases value with
  | true => exact readsBack_of_next _ fun _ _ _ => ⟨'t', _, rfl, rfl, rfl⟩
  | false => exact readsBack_of_next _ fun _ _ _ => ⟨'f', _, rfl, rfl, rfl⟩

theorem readsBack_int {value : Int}
    (short : (toString value.natAbs).length ≤ Numeral.maxDigits) : ReadsBack (.int value) :=
  readsBack_of_next (.int value) fun _ _ closed => next_int short closed

theorem readsBack_double (negative : Bool) {units : Nat} (fits : Representable units) :
    ReadsBack (.num (.double (.finite negative units fits))) :=
  readsBack_of_next (.num (.double (.finite negative units fits))) fun _ _ closed =>
    next_finite fits closed

theorem readsBack_str (text : String) : ReadsBack (.str text) := by
  intro stage outer takes depth rest _
  rw [writeAt, writeText, List.cons_append, List.cons_append, List.append_assoc]
  exact runs_lexeme rfl (next_writeText text rest) fun line => takes line _ nofun

/-- The items after the first, up to the end of the array. -/
theorem runs_writeItems {items : List Json} (each : ∀ item ∈ items, ReadsBack item) (depth : Nat)
    (closed : Closed rest) (outer : List Frame) (reversed : List Json) :
    Runs (.afterItem reversed outer) (writeItems depth items ++ rest)
      (.afterItem (items.reverse ++ reversed) outer) rest := by
  induction items generalizing reversed with
  | nil => exact fun line => ⟨line, rfl⟩
  | cons item others ih =>
      have comma {chars : List Char} : Runs (.afterItem reversed outer) (',' :: chars)
          (.value (.array reversed :: outer)) chars :=
        runs_lexeme rfl rfl fun _ => rfl
      have value := each item List.mem_cons_self (Stage.takesValue_value (.array reversed :: outer))
        depth (closed_writeItems closed depth others)
      have more := ih (fun item member => each item (List.mem_cons_of_mem _ member))
        (item :: reversed)
      rw [List.reverse_cons, List.append_assoc, writeItems]
      simpa using comma.trans ((runs_newLine _ depth _).trans (value.trans more))

theorem readsBack_arr {items : List Json} (each : ∀ item ∈ items, ReadsBack item) :
    ReadsBack (.arr items) := by
  intro stage outer takes depth rest closed
  have opening {chars : List Char} : Runs stage ('[' :: chars) (.firstItem outer) chars :=
    runs_lexeme rfl rfl fun line => takes line _ nofun
  cases items with
  | nil => exact opening.trans (runs_lexeme rfl rfl fun _ => rfl)
  | cons item others =>
      have ended := closed_newLine depth (']' :: rest)
      have first := each item List.mem_cons_self (Stage.takesValue_firstItem outer) (depth + 1)
        (closed_writeItems ended (depth + 1) others)
      have more := runs_writeItems (fun item member => each item (List.mem_cons_of_mem _ member))
        (depth + 1) ended outer [item]
      have closing : Runs (.afterItem (others.reverse ++ [item]) outer) (']' :: rest)
          (deliver (.arr (item :: others)) outer) rest :=
        runs_lexeme rfl rfl fun _ => by simp [Stage.take]
      rw [writeAt]
      simpa using opening.trans <| (runs_newLine _ (depth + 1) _).trans <| first.trans <|
        more.trans <| (runs_newLine _ depth _).trans closing

/-- A field, where its name may stand and nothing has its key yet. -/
theorem runs_field (stage : Stage) (table : Table Json) (key : String) {value : Json}
    (names : ∀ line, stage.take line (.text key) = .ok (.colon table key outer))
    (reads : ReadsBack value) (fresh : key ∉ Table.keys table) (depth : Nat)
    (closed : Closed rest) :
    Runs stage (writeText key ++ ([':', ' '] ++ (writeAt depth value ++ rest)))
      (.afterField (table ++ [(key, value)]) outer) rest := by
  have colon {chars : List Char} : Runs (.colon table key outer) (':' :: ' ' :: chars)
      (.value (.object table key :: outer)) (' ' :: chars) :=
    runs_lexeme rfl rfl fun _ => rfl
  have space {stage : Stage} {chars : List Char} : Runs stage (' ' :: chars) stage chars :=
    runs_spaces stage [' '] chars (List.forall_mem_singleton.mpr rfl)
  have held := reads (Stage.takesValue_value (.object table key :: outer)) depth closed
  rw [deliver, Table.insert_of_not_mem fresh] at held
  rw [writeText, List.cons_append, List.cons_append, List.append_assoc]
  exact (runs_lexeme rfl (next_writeText key _) names).trans (colon.trans (space.trans held))

/-- The fields after the first, up to the end of the object. -/
theorem runs_writeFields {fields : List (String × Json)}
    (each : ∀ field ∈ fields, ReadsBack field.2) (depth : Nat) (closed : Closed rest)
    (outer : List Frame) (table : Table Json) (distinct : (Table.keys (table ++ fields)).Nodup) :
    Runs (.afterField table outer) (writeFields depth fields ++ rest)
      (.afterField (table ++ fields) outer) rest := by
  induction fields generalizing table with
  | nil =>
      rw [List.append_nil]
      exact fun line => ⟨line, rfl⟩
  | cons field others ih =>
      obtain ⟨key, value⟩ := field
      have fresh : key ∉ Table.keys table := by
        rw [Table.keys, List.map_append] at distinct
        exact fun member => (List.nodup_append.mp distinct).2.2 key member key
          List.mem_cons_self rfl
      have comma {chars : List Char} : Runs (.afterField table outer) (',' :: chars)
          (.name table outer) chars :=
        runs_lexeme rfl rfl fun _ => rfl
      have held := runs_field (.name table outer) table key (fun _ => rfl)
        (each (key, value) List.mem_cons_self) fresh depth (closed_writeFields closed depth others)
      rw [List.append_cons] at distinct ⊢
      have more := ih (fun field member => each field (List.mem_cons_of_mem _ member)) _ distinct
      rw [writeFields]
      simpa using comma.trans ((runs_newLine _ depth _).trans (held.trans more))

theorem readsBack_obj {fields : List (String × Json)} (distinct : (Table.keys fields).Nodup)
    (each : ∀ field ∈ fields, ReadsBack field.2) : ReadsBack (.obj fields) := by
  intro stage outer takes depth rest closed
  have opening {chars : List Char} : Runs stage ('\x7b' :: chars) (.firstName outer) chars :=
    runs_lexeme rfl rfl fun line => takes line _ nofun
  cases fields with
  | nil => exact opening.trans (runs_lexeme rfl rfl fun _ => rfl)
  | cons field others =>
      obtain ⟨key, value⟩ := field
      have ended := closed_newLine depth ('\x7d' :: rest)
      have first := runs_field (.firstName outer) [] key (fun _ => rfl)
        (each (key, value) List.mem_cons_self) nofun (depth + 1)
        (closed_writeFields ended (depth + 1) others)
      have more := runs_writeFields (fun field member => each field (List.mem_cons_of_mem _ member))
        (depth + 1) ended outer [(key, value)] distinct
      have closing : Runs (.afterField ((key, value) :: others) outer) ('\x7d' :: rest)
          (deliver (.obj ((key, value) :: others)) outer) rest :=
        runs_lexeme rfl rfl fun _ => rfl
      rw [writeAt]
      simpa using opening.trans <| (runs_newLine _ (depth + 1) _).trans <| first.trans <|
        more.trans <| (runs_newLine _ depth _).trans closing

end Values

/-- What can be written and read again: no key twice in an object, and no whole number with more
digits than are read. -/
inductive Writable : Json → Prop where
  | null : Writable .null
  | bool (value : Bool) : Writable (.bool value)
  | int {value : Int} (short : (toString value.natAbs).length ≤ Numeral.maxDigits) :
      Writable (.int value)
  | double (value : Double) : Writable (.num (.double value))
  | str (text : String) : Writable (.str text)
  | arr {items : List Json} (each : ∀ item ∈ items, Writable item) : Writable (.arr items)
  | obj {fields : List (String × Json)} (distinct : (Table.keys fields).Nodup)
      (each : ∀ field ∈ fields, Writable field.2) : Writable (.obj fields)

theorem finiteItems_eq_map (items : List Json) : finiteItems items = items.map finite := by
  induction items with
  | nil => rfl
  | cons item rest ih => rw [finiteItems, ih, List.map_cons]

theorem finiteFields_eq_map (fields : List (String × Json)) :
    finiteFields fields = fields.map fun field => (field.1, finite field.2) := by
  induction fields with
  | nil => rfl
  | cons field rest ih => rw [finiteFields, ih, List.map_cons]

@[simp]
theorem keys_finiteFields (fields : List (String × Json)) :
    Table.keys (finiteFields fields) = Table.keys fields := by
  rw [finiteFields_eq_map, Table.keys, Table.keys, List.map_map]
  rfl

theorem readsBack_finite {value : Json} (writable : Writable value) : ReadsBack value.finite := by
  induction writable with
  | null => exact readsBack_null
  | bool value => exact readsBack_bool value
  | int short => exact readsBack_int short
  | double value =>
      cases value with
      | finite negative units fits => exact readsBack_double negative fits
      | _ => exact readsBack_null
  | str text => exact readsBack_str text
  | arr _ ih =>
      refine readsBack_arr fun item member => ?_
      rw [finiteItems_eq_map] at member
      obtain ⟨source, held, rfl⟩ := List.mem_map.mp member
      exact ih source held
  | obj distinct _ ih =>
      refine readsBack_obj (by rwa [keys_finiteFields]) fun field member => ?_
      rw [finiteFields_eq_map] at member
      obtain ⟨source, held, rfl⟩ := List.mem_map.mp member
      exact ih source held

/-- A byte order mark is the first character of no value. -/
theorem run_byteOrderMark (line : Nat) (rest : List Char) :
    run (.value []) line ('\ufeff' :: rest) = .error (.malformed .expectedValue line) := by
  rw [run]
  rfl

theorem read_write_finite {value : Json} (writable : Writable value) :
    read value.finite.write = .ok value.finite := by
  have ended : Closed [] := nofun
  obtain ⟨line, same⟩ := readsBack_finite writable (Stage.takesValue_value []) 0 ended 1
  rw [List.append_nil] at same
  -- Reading a byte order mark as a value fails, and this value has just been read.
  have noMark : (writeAt 0 value.finite).head? ≠ some '\ufeff' := by
    intro mark
    obtain ⟨rest, written⟩ := List.head?_eq_some_iff.mp mark
    rw [written, run_byteOrderMark] at same
    simp [deliver, run, Stage.finish] at same
  rw [read, write, String.toList_ofList, readChars, if_neg noMark, same]
  simp [deliver, run, Stage.finish]

/-- One value is the other with null for each double that JSON has no numeral for: all else is the
same, in the same order. -/
inductive Nulled : Json → Json → Prop where
  | null : Nulled .null .null
  | bool (value : Bool) : Nulled (.bool value) (.bool value)
  | int (value : Int) : Nulled (.num (.int value)) (.num (.int value))
  | finite (negative : Bool) {units : Nat} (fits : Representable units) :
      Nulled (.num (.double (.finite negative units fits)))
        (.num (.double (.finite negative units fits)))
  | infinite (negative : Bool) : Nulled (.num (.double (.infinite negative))) .null
  | nan : Nulled (.num (.double .nan)) .null
  | str (text : String) : Nulled (.str text) (.str text)
  | arr {items others : List Json} (each : List.Forall₂ Nulled items others) :
      Nulled (.arr items) (.arr others)
  | obj {fields others : List (String × Json)} (keys : fields.map Prod.fst = others.map Prod.fst)
      (values : List.Forall₂ Nulled (fields.map Prod.snd) (others.map Prod.snd)) :
      Nulled (.obj fields) (.obj others)

mutual

theorem nulled_finite : ∀ value : Json, Nulled value value.finite
  | .null => .null
  | .bool value => .bool value
  | .num (.int value) => .int value
  | .num (.double (.finite negative _ fits)) => .finite negative fits
  | .num (.double (.infinite negative)) => .infinite negative
  | .num (.double .nan) => .nan
  | .str value => .str value
  | .arr items => .arr (nulled_finiteItems items)
  | .obj fields => .obj (keys_finiteFields fields).symm (nulled_finiteFields fields)

theorem nulled_finiteItems : ∀ items : List Json, List.Forall₂ Nulled items (finiteItems items)
  | [] => .nil
  | item :: rest => .cons (nulled_finite item) (nulled_finiteItems rest)

theorem nulled_finiteFields : ∀ fields : List (String × Json),
    List.Forall₂ Nulled (fields.map Prod.snd) ((finiteFields fields).map Prod.snd)
  | [] => .nil
  | (_, value) :: rest => .cons (nulled_finite value) (nulled_finiteFields rest)

end

mutual

/-- There is one such value only. -/
theorem Nulled.eq_finite : ∀ {value other : Json}, Nulled value other → other = value.finite
  | _, _, .null | _, _, .bool _ | _, _, .int _ | _, _, .finite _ _ | _, _, .infinite _
  | _, _, .nan | _, _, .str _ => rfl
  | .arr items, _, .arr each => by rw [Json.finite, eq_finiteItems each]
  | .obj fields, _, .obj keys values => by rw [Json.finite, eq_finiteFields keys values]

theorem eq_finiteItems : ∀ {items others : List Json},
    List.Forall₂ Nulled items others → others = finiteItems items
  | [], _, .nil => rfl
  | _ :: _, _, .cons first others => by
      rw [finiteItems, ← first.eq_finite, ← eq_finiteItems others]

theorem eq_finiteFields : ∀ {fields others : List (String × Json)},
    fields.map Prod.fst = others.map Prod.fst →
      List.Forall₂ Nulled (fields.map Prod.snd) (others.map Prod.snd) → others = finiteFields fields
  | [], [], _, _ => rfl
  | (_, _) :: _, (_, _) :: _, keys, .cons first others => by
      obtain ⟨key, same⟩ := List.cons.inj keys
      rw [finiteFields, ← first.eq_finite, ← eq_finiteFields same others]
      exact congrArg (fun key => (key, _) :: _) key.symm

end

end Json

namespace Envelope

open Json

variable {envelope : Envelope}

theorem writable_toJson (rate : (toString envelope.fps.natAbs).length ≤ Numeral.maxDigits)
    (writable : ∀ action ∈ envelope.actions, Writable action) : Writable envelope.toJson := by
  have settings : Writable (.obj [("fps", .int envelope.fps)]) :=
    .obj (by simp [Table.keys]) (by simpa using .int rate)
  refine .obj (by simp [Table.keys]) ?_
  simp only [List.forall_mem_cons]
  exact ⟨.int (by decide), .str envelope.sceneId, settings, .arr writable,
    List.forall_mem_nil _⟩

/-- The text of an exported scene, if it holds no whole number that is too long to be read, is read
as the envelope: its fields in their order, and its actions with null for each double that JSON has
no numeral for. -/
theorem read_text (rate : (toString envelope.fps.natAbs).length ≤ Numeral.maxDigits)
    (writable : ∀ action ∈ envelope.actions, Writable action) :
    ∃ actions, Json.read envelope.text = .ok (.obj
        [("schema_version", .int 1), ("cutscene_id", .str envelope.sceneId),
          ("settings", .obj [("fps", .int envelope.fps)]), ("actions", .arr actions)]) ∧
      List.Forall₂ Nulled envelope.actions actions :=
  ⟨finiteItems envelope.actions, read_write_finite (writable_toJson rate writable),
    nulled_finiteItems envelope.actions⟩

/-- A line with quotes, a line break and a control, a wait without end, and lanes of all kinds. -/
def ferryEnvelope : Envelope where
  sceneId := "night_ferry"
  fps := 24
  actions := [.obj [("line", .str "\"Now\"\n\x07"), ("wait", .num (.double (.infinite false))),
    ("lanes", .arr [.arr [], .obj [], .int (-3), .num (.double (.ofDecimal false 5 (-1)))])]]

theorem read_text_ferryEnvelope :
    (toString ferryEnvelope.fps.natAbs).length ≤ Numeral.maxDigits ∧
      (∀ action ∈ ferryEnvelope.actions, Writable action) ∧
      Json.read ferryEnvelope.text = .ok (.obj
        [("schema_version", .int 1), ("cutscene_id", .str "night_ferry"),
          ("settings", .obj [("fps", .int 24)]),
          ("actions", .arr [.obj [("line", .str "\"Now\"\n\x07"), ("wait", .null),
            ("lanes", .arr [.arr [], .obj [], .int (-3),
              .num (.double (.ofDecimal false 5 (-1)))])]])]) := by
  have rate : (toString ferryEnvelope.fps.natAbs).length ≤ Numeral.maxDigits := by decide
  have lanes : Writable (.arr [.arr [], .obj [], .int (-3),
      .num (.double (.ofDecimal false 5 (-1)))]) := by
    refine .arr ?_
    simp only [List.forall_mem_cons]
    exact ⟨.arr (List.forall_mem_nil _), .obj .nil (List.forall_mem_nil _), .int (by decide),
      .double _, List.forall_mem_nil _⟩
  have writable : ∀ action ∈ ferryEnvelope.actions, Writable action := by
    simp only [ferryEnvelope, List.forall_mem_singleton]
    refine .obj (by simp [Table.keys]) ?_
    simp only [List.forall_mem_cons]
    exact ⟨.str _, .double _, lanes, List.forall_mem_nil _⟩
  obtain ⟨actions, read, each⟩ := read_text rate writable
  have half : (Double.ofDecimal false 5 (-1)).isFinite = true := by decide +kernel
  have endless : (Double.infinite false).isFinite = false := rfl
  have nulled : actions = [.obj [("line", .str "\"Now\"\n\x07"), ("wait", .null),
      ("lanes", .arr [.arr [], .obj [], .int (-3), .num (.double (.ofDecimal false 5 (-1)))])]] := by
    rw [eq_finiteItems each]
    simp [ferryEnvelope, finiteItems, finiteFields, Json.finite, endless, half, int]
  rw [nulled] at read
  exact ⟨rate, writable, read⟩

end Envelope

end SceneScript
