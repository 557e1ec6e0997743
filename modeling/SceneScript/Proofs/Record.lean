import SceneScript.Report.Nodes
import SceneScript.Proofs.Scan
import SceneScript.Action.Basic

/-!
The fields of the record of a node. Main statements: a parameter that is copied has a value there
that is not empty; a key that is reserved has the value that the node itself gives it; and a call
has the function and the arguments that are read from its parameters.
-/

namespace SceneScript

theorem Table.mem_of_get? {α : Type} {table : Table α} {key : String} {value : α}
    (found : get? table key = some value) : (key, value) ∈ table := by
  induction table with
  | nil => cases found
  | cons entry rest ih =>
      obtain ⟨other, stored⟩ := entry
      by_cases hit : other = key
      · subst hit
        simp only [get?, if_true, Option.some.injEq] at found
        subst found
        exact List.mem_cons_self
      · simp only [get?, if_neg hit] at found
        exact List.mem_cons_of_mem _ (ih found)

namespace Action

variable {node : Node} {key : String}

/-- A key of which one value is copied is in the record, if perhaps with a later value. -/
theorem get?_recordFields_of_copied {value : Json} (listed : (key, value) ∈ node.params)
    (copied : isCopied node key value = true) :
    ∃ kept, Table.get? (recordFields node) key = some kept ∧ kept.isEmpty = false := by
  let entries := node.params.filter fun entry => isCopied node entry.1 entry.2
  let own := ("type", Json.str node.type) :: if node.type = "run_function" then callFields node else []
  have folded : Table.get? (recordFields node) key =
      ((entries.reverse.find? (·.1 == key)).map Prod.snd).or (Table.get? own key) :=
    Table.get?_foldl_insert entries own key
  have member : (key, value) ∈ entries := List.mem_filter.mpr ⟨listed, copied⟩
  have some : (entries.reverse.find? (·.1 == key)).isSome = true := by
    rw [List.find?_isSome]
    exact ⟨(key, value), List.mem_reverse.mpr member, beq_self_eq_true key⟩
  obtain ⟨⟨other, kept⟩, found⟩ := Option.isSome_iff_exists.mp some
  rw [found] at folded
  refine ⟨kept, folded, ?_⟩
  -- Whatever entry is found, it was let through as one that is not empty.
  have passed : isCopied node other kept = true :=
    (List.mem_filter.mp (List.mem_reverse.mp (List.mem_of_find?_eq_some found))).2
  simp only [isCopied, Bool.and_eq_true, Bool.not_eq_true'] at passed
  exact passed.2

/-- A key that is never copied has the value that the node itself gives it. -/
theorem get?_recordFields_of_reserved (reserved : ∀ value, isCopied node key value = false) :
    Table.get? (recordFields node) key =
      Table.get? (("type", Json.str node.type) ::
        if node.type = "run_function" then callFields node else []) key := by
  unfold recordFields
  refine (Table.get?_foldl_insert_of_not_mem ?_).trans rfl
  intro named
  obtain ⟨⟨other, value⟩, listed, rfl⟩ := List.mem_map.mp named
  have copied : isCopied node other value = true := (List.mem_filter.mp listed).2
  rw [reserved value] at copied
  cases copied

/-- A call has a function and arguments of its own. -/
theorem get?_recordFields_of_call (call : node.type = "run_function") (named : key ∈ functionKeys)
    (other : key ≠ "type") :
    Table.get? (recordFields node) key = Table.get? (callFields node) key := by
  have reserved (value : Json) : isCopied node key value = false := by
    simp [isCopied, call, named]
  rw [get?_recordFields_of_reserved reserved, if_pos call, Table.get?, if_neg (Ne.symm other)]

theorem get?_callFields_function (node : Node) :
    Table.get? (callFields node) "function" =
      if functionName node = "" then none else some (.str (functionName node)) := by
  unfold callFields
  by_cases unnamed : functionName node = ""
  · cases parseArgs (node.param "args") <;> simp [unnamed, Table.get?]
  · simp [unnamed, Table.get?]

theorem get?_callFields_args (node : Node) :
    Table.get? (callFields node) "args" = (parseArgs (node.param "args")).map Json.arr := by
  unfold callFields
  by_cases unnamed : functionName node = ""
  · cases parseArgs (node.param "args") <;> simp [unnamed, Table.get?]
  · cases parseArgs (node.param "args") <;> simp [unnamed, Table.get?]

/-- Text that is not blank gives arguments exactly when it can be read. -/
theorem isSome_parseArgs_iff {text : String} (given : Text.isBlankText text = false) :
    (parseArgs (.str text)).isSome = true ↔ Report.isReadable text = true := by
  unfold Report.isReadable
  simp only [parseArgs, given]
  cases outcome : Json.read text with
  | error fault => simp
  | ok value => cases value <;> simp

end Action

end SceneScript
