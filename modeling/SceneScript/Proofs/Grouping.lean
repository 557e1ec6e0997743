import Mathlib.Data.List.Perm.Basic
import SceneScript.Table

/-!
Items grouped by a key of theirs. Main statements: each group holds the items of its key and no
others, and the groups together hold every item once.
-/

namespace SceneScript.Table

universe u
variable {α : Type u} {keyOf : α → String}

theorem get?_of_mem {table : Table α} {key : String} {value : α} (distinct : (keys table).Nodup)
    (member : (key, value) ∈ table) : get? table key = some value := by
  induction table with
  | nil => cases member
  | cons entry rest ih =>
      obtain ⟨other, old⟩ := entry
      obtain ⟨fresh, distinct⟩ := List.nodup_cons.mp distinct
      rcases List.mem_cons.mp member with same | later
      · cases same
        rw [get?, if_pos rfl]
      · have apart : other ≠ key := by
          rintro rfl
          exact fresh (List.mem_map.mpr ⟨_, later, rfl⟩)
        rw [get?, if_neg apart, ih distinct later]

section Push

variable {table : Table (List α)} {key : String} {item : α}

theorem mem_keys_push {sought : String} :
    sought ∈ keys (push table key item) ↔ sought = key ∨ sought ∈ keys table := by
  induction table with
  | nil => simp [push, keys]
  | cons entry rest ih =>
      obtain ⟨other, items⟩ := entry
      rw [push]
      by_cases same : other = key
      · simp [same, keys]
      · rw [if_neg same]
        simp only [keys, List.map_cons, List.mem_cons] at ih ⊢
        rw [ih, or_left_comm]

theorem nodup_keys_push (distinct : (keys table).Nodup) :
    (keys (push table key item)).Nodup := by
  induction table with
  | nil => simp [push, keys]
  | cons entry rest ih =>
      obtain ⟨other, items⟩ := entry
      rw [push]
      by_cases same : other = key
      · rwa [if_pos same]
      · rw [if_neg same]
        obtain ⟨fresh, distinct⟩ := List.nodup_cons.mp distinct
        refine List.nodup_cons.mpr ⟨fun later => ?_, ih distinct⟩
        rcases mem_keys_push.mp later with isKey | old
        · exact same isKey
        · exact fresh old

/-- A push adds the item to what the groups hold, wherever its group stands. -/
theorem flatMap_push_perm :
    ((push table key item).flatMap Prod.snd).Perm (table.flatMap Prod.snd ++ [item]) := by
  induction table with
  | nil => exact List.Perm.refl _
  | cons entry rest ih =>
      obtain ⟨other, items⟩ := entry
      rw [push]
      by_cases same : other = key
      · rw [if_pos same, List.flatMap_cons, List.flatMap_cons, List.append_assoc, List.append_assoc]
        exact List.perm_append_comm.append_left items
      · rw [if_neg same, List.flatMap_cons, List.flatMap_cons, List.append_assoc]
        exact ih.append_left items

end Push

section Groups

variable {items : List α}

theorem nodup_keys_foldl_push {table : Table (List α)} (distinct : (keys table).Nodup) :
    (keys (items.foldl (fun table item => push table (keyOf item) item) table)).Nodup := by
  induction items generalizing table with
  | nil => exact distinct
  | cons item rest ih => exact ih (nodup_keys_push distinct)

theorem flatMap_foldl_push_perm {table : Table (List α)} :
    ((items.foldl (fun table item => push table (keyOf item) item) table).flatMap Prod.snd).Perm
      (table.flatMap Prod.snd ++ items) := by
  induction items generalizing table with
  | nil => rw [List.append_nil, List.foldl_nil]
  | cons item rest ih =>
      have pushed := (@flatMap_push_perm α table (keyOf item) item).append_right rest
      rw [List.append_assoc, List.singleton_append] at pushed
      exact ih.trans pushed

theorem eq_filter_of_mem_groupBy {key : String} {group : List α}
    (member : (key, group) ∈ groupBy keyOf items) :
    group = items.filter fun item => keyOf item = key := by
  have distinct : (keys (groupBy keyOf items)).Nodup := nodup_keys_foldl_push List.nodup_nil
  rw [← group_groupBy, Table.group, get?_of_mem distinct member]
  rfl

theorem flatMap_groupBy_perm : ((groupBy keyOf items).flatMap Prod.snd).Perm items :=
  flatMap_foldl_push_perm

end Groups

end SceneScript.Table
