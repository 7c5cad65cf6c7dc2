/-!
# Ordered and sorted tables

Two finite maps with text keys.

`Assoc` is a list of pairs in the order in which the keys were first written; it is what a
document is made of.  Writing a key that is there replaces its value in place.

`SortedTable` keeps its keys in strictly ascending order, and carries the proof.  `get?_insert`
is its one law; `keys_sorted` is what makes a listing of it canonical.
-/

namespace SchemaBinder

/-! ## Tables in writing order -/

namespace Assoc

variable {α : Type}

/-- The value stored under a key. -/
def get? (key : String) : List (String × α) → Option α
  | [] => none
  | (k, v) :: rest => if k = key then some v else get? key rest

/-- Writes a value under a key: in place if the key is there, at the end if not. -/
def set (key : String) (value : α) : List (String × α) → List (String × α)
  | [] => [(key, value)]
  | (k, v) :: rest => if k = key then (k, value) :: rest else (k, v) :: set key value rest

/-- The table that results from writing pairs one after the other. -/
def ofList (pairs : List (String × α)) : List (String × α) :=
  pairs.foldl (fun table p => set p.1 p.2 table) []

theorem get?_set (key k : String) (value : α) (table : List (String × α)) :
    get? k (set key value table) = if k = key then some value else get? k table := by
  induction table with
  | nil => grind [set, get?]
  | cons p rest ih => grind [set, get?]

/-- What is found is in the table. -/
theorem mem_of_get? {key : String} {value : α} {table : List (String × α)}
    (found : get? key table = some value) : (key, value) ∈ table := by
  induction table with
  | nil => cases found
  | cons p rest ih => grind [get?]

/-- A key that is kept is found as before. -/
theorem get?_filter {key : String} {keep : String → Bool} (kept : keep key = true)
    (table : List (String × α)) : get? key (table.filter (keep ·.1)) = get? key table := by
  induction table with
  | nil => rfl
  | cons p rest ih => grind [get?]

end Assoc

/-! ## Sorted tables -/

/-- A finite map with its keys in strictly ascending order. -/
structure SortedTable (α : Type) where
  /-- The pairs of the table. -/
  entries : List (String × α)
  /-- Every key is before the later ones. -/
  keys_sorted : entries.Pairwise (·.1 < ·.1)

namespace SortedTable

variable {α : Type}

/-- The table without entries. -/
def empty : SortedTable α := ⟨[], .nil⟩

instance : Inhabited (SortedTable α) := ⟨empty⟩
instance : EmptyCollection (SortedTable α) := ⟨empty⟩

/-- The value stored under a key. -/
def get? (table : SortedTable α) (key : String) : Option α :=
  Assoc.get? key table.entries

/-- The keys in ascending order. -/
def keys (table : SortedTable α) : List String :=
  table.entries.map (·.1)

/-- Has the table no entries? -/
def isEmpty (table : SortedTable α) : Bool :=
  table.entries.isEmpty

/-- The number of entries. -/
def size (table : SortedTable α) : Nat :=
  table.entries.length

/-- Writes a value into sorted pairs, at the place of its key. -/
def insertEntry (key : String) (value : α) : List (String × α) → List (String × α)
  | [] => [(key, value)]
  | (k, v) :: rest =>
    if key = k then (key, value) :: rest
    else if key < k then (key, value) :: (k, v) :: rest
    else (k, v) :: insertEntry key value rest

theorem mem_insertEntry {key : String} {value : α} {entries : List (String × α)}
    {p : String × α} (h : p ∈ insertEntry key value entries) :
    p = (key, value) ∨ p ∈ entries := by
  induction entries with
  | nil => simp_all [insertEntry]
  | cons q rest ih =>
    unfold insertEntry at h
    split at h
    · simp_all only [List.mem_cons]; grind
    · split at h
      · simpa using h
      · simp only [List.mem_cons] at h ⊢; grind

theorem insertEntry_sorted (key : String) (value : α) (entries : List (String × α))
    (h : entries.Pairwise (·.1 < ·.1)) : (insertEntry key value entries).Pairwise (·.1 < ·.1) := by
  induction entries with
  | nil => simp [insertEntry]
  | cons q rest ih =>
    obtain ⟨k, v⟩ := q
    rw [List.pairwise_cons] at h
    unfold insertEntry
    split
    · rename_i hk; subst hk; exact List.pairwise_cons.2 h
    · split
      · rename_i hne hlt
        refine List.pairwise_cons.2 ⟨fun p hp => ?_, List.pairwise_cons.2 h⟩
        rcases List.mem_cons.1 hp with rfl | hp
        · exact hlt
        · exact String.lt_trans hlt (h.1 p hp)
      · rename_i hne hlt
        refine List.pairwise_cons.2 ⟨fun p hp => ?_, ih h.2⟩
        rcases mem_insertEntry hp with rfl | hp
        · exact Decidable.byContradiction fun hge =>
            hne (String.le_antisymm (String.not_lt.1 hge) (String.not_lt.1 hlt))
        · exact h.1 p hp

/-- Writes a value under a key. -/
def insert (table : SortedTable α) (key : String) (value : α) : SortedTable α :=
  ⟨insertEntry key value table.entries, insertEntry_sorted key value _ table.keys_sorted⟩

/-- The table that results from writing pairs one after the other. -/
def ofList (pairs : List (String × α)) : SortedTable α :=
  pairs.foldl (fun table p => table.insert p.1 p.2) empty

/-- The first table with the entries of the second written over it. -/
def union (table other : SortedTable α) : SortedTable α :=
  other.entries.foldl (fun t p => t.insert p.1 p.2) table

/-- The table without the entries whose keys are refused. -/
def filterKeys (p : String → Bool) (table : SortedTable α) : SortedTable α :=
  ⟨table.entries.filter (p ·.1), table.keys_sorted.filter _⟩

/-- A look-up after a write finds what was written, and everything else as before. -/
theorem get?_insert (table : SortedTable α) (key k : String) (value : α) :
    (table.insert key value).get? k = if k = key then some value else table.get? k := by
  obtain ⟨entries, sorted⟩ := table
  simp only [get?, insert]
  clear sorted
  induction entries with
  | nil => grind [insertEntry, Assoc.get?]
  | cons p rest ih => grind [insertEntry, Assoc.get?]

/-- A look-up after many writes, of each key one, finds what was written, and everything else as
before. -/
theorem get?_foldl_insert (table : SortedTable α) {pairs : List (String × α)}
    (distinct : (pairs.map (·.1)).Nodup) (key : String) :
    (pairs.foldl (fun t p => t.insert p.1 p.2) table).get? key =
      (Assoc.get? key pairs).or (table.get? key) := by
  induction pairs generalizing table with
  | nil => rfl
  | cons p rest ih =>
    obtain ⟨fresh, distinct⟩ := List.nodup_cons.1 distinct
    rw [List.foldl_cons, ih _ distinct, get?_insert, Assoc.get?]
    by_cases same : p.1 = key
    · -- the key is not written again
      have absent : Assoc.get? key rest = none := by
        cases found : Assoc.get? key rest with
        | none => rfl
        | some v =>
          subst same
          exact absurd (List.mem_map_of_mem (Assoc.mem_of_get? found)) fresh
      rw [absent, if_pos same, if_pos same.symm, Option.none_or, Option.some_or]
    · rw [if_neg same, if_neg (Ne.symm same)]

/-- The table of pairs with distinct keys holds each of them. -/
theorem get?_ofList {pairs : List (String × α)} (distinct : (pairs.map (·.1)).Nodup)
    (key : String) : (ofList pairs).get? key = Assoc.get? key pairs :=
  (get?_foldl_insert empty distinct key).trans Option.or_none

/-- A look-up in a union finds what the second table has, and otherwise what the first has. -/
theorem get?_union (table other : SortedTable α) (key : String) :
    (table.union other).get? key = (other.get? key).or (table.get? key) := by
  refine get?_foldl_insert table (List.pairwise_map.2 (other.keys_sorted.imp fun less same => ?_)) key
  exact String.lt_irrefl _ (same ▸ less)

/-- Writing a value twice is the same as writing it once. -/
theorem insert_insert (table : SortedTable α) (key : String) (value : α) :
    (table.insert key value).insert key value = table.insert key value := by
  obtain ⟨entries, sorted⟩ := table
  have twice : insertEntry key value (insertEntry key value entries) =
      insertEntry key value entries := by
    clear sorted
    induction entries with
    | nil => simp [insertEntry]
    | cons p rest ih => grind [insertEntry]
  simp only [insert, twice]

end SortedTable

end SchemaBinder
