/-!
Tables: entries kept in the order in which their keys first arrived. The objects of a document,
the nodes by id and the adjacency groups of a graph are all tables. The lemmas say what each
operation does to `get?`, and that grouping keeps exactly the items of a key, in their order.
-/

namespace SceneScript

universe u

abbrev Table (α : Type u) := List (String × α)

namespace Table

variable {α : Type u}

def get? : Table α → String → Option α
  | [], _ => none
  | (key, value) :: rest, sought => if key = sought then some value else get? rest sought

def keys (table : Table α) : List String := table.map Prod.fst

/-- A key that is present keeps its place and takes the new value; a new key comes last. -/
def insert : Table α → String → α → Table α
  | [], key, value => [(key, value)]
  | (other, old) :: rest, key, value =>
      if other = key then (other, value) :: rest else (other, old) :: insert rest key value

def ofEntries (entries : List (String × α)) : Table α :=
  entries.foldl (fun table entry => insert table entry.1 entry.2) []

/-- Adds an item at the end of its key's group. -/
def push : Table (List α) → String → α → Table (List α)
  | [], key, item => [(key, [item])]
  | (other, items) :: rest, key, item =>
      if other = key then (other, items ++ [item]) :: rest else (other, items) :: push rest key item

def group (table : Table (List α)) (key : String) : List α := (get? table key).getD []

def groupBy (keyOf : α → String) (items : List α) : Table (List α) :=
  items.foldl (fun table item => push table (keyOf item) item) []

theorem get?_insert (table : Table α) (key sought : String) (value : α) :
    get? (insert table key value) sought = if key = sought then some value else get? table sought := by
  induction table with
  | nil => rfl
  | cons entry rest ih =>
    obtain ⟨other, old⟩ := entry
    simp only [insert]
    by_cases same : other = key
    · subst same
      by_cases hit : other = sought <;> simp [get?, hit]
    · by_cases hit : other = sought
      · subst hit
        simp [get?, same, Ne.symm same]
      · simp [get?, same, hit, ih]

theorem mem_keys_iff (table : Table α) (key : String) :
    key ∈ keys table ↔ (get? table key).isSome = true := by
  induction table with
  | nil => simp [keys, get?]
  | cons entry rest ih =>
    obtain ⟨other, value⟩ := entry
    by_cases hit : other = key
    · simp [keys, get?, hit]
    · simp only [keys, List.map_cons, List.mem_cons, get?, if_neg hit]
      simp only [keys] at ih
      rw [← ih]
      simp [Ne.symm hit]

theorem group_push (table : Table (List α)) (key sought : String) (item : α) :
    group (push table key item) sought =
      if key = sought then group table sought ++ [item] else group table sought := by
  induction table with
  | nil => by_cases hit : key = sought <;> simp [push, group, get?, hit]
  | cons entry rest ih =>
    obtain ⟨other, items⟩ := entry
    simp only [push]
    simp only [group] at ih
    by_cases same : other = key
    · subst same
      by_cases hit : other = sought <;> simp [group, get?, hit]
    · by_cases hit : other = sought
      · subst hit
        simp [group, get?, same, Ne.symm same]
      · simp [group, get?, same, hit, ih]

theorem group_foldl_push (keyOf : α → String) (items : List α) (table : Table (List α)) (key : String) :
    group (items.foldl (fun table item => push table (keyOf item) item) table) key =
      group table key ++ items.filter (fun item => keyOf item = key) := by
  induction items generalizing table with
  | nil => simp
  | cons item rest ih =>
    rw [List.foldl_cons, ih, group_push]
    by_cases hit : keyOf item = key <;> simp [hit]

theorem group_groupBy (keyOf : α → String) (items : List α) (key : String) :
    group (groupBy keyOf items) key = items.filter (fun item => keyOf item = key) := by
  simpa [groupBy, group, get?] using group_foldl_push keyOf items [] key

theorem mem_group {table : Table (List α)} {key : String} {item : α}
    (found : item ∈ group table key) : ∃ entry ∈ table, item ∈ entry.2 := by
  induction table with
  | nil => simp [group, get?] at found
  | cons entry rest ih =>
    obtain ⟨other, items⟩ := entry
    by_cases hit : other = key
    · exact ⟨(other, items), List.mem_cons_self, by simpa [group, get?, hit] using found⟩
    · have deeper : item ∈ group rest key := by
        simpa [group, get?, hit] using found
      obtain ⟨entry, stored, held⟩ := ih deeper
      exact ⟨entry, List.mem_cons_of_mem _ stored, held⟩

end Table

end SceneScript
