import Mathlib.Data.List.Nodup
import SchemaBinder.Assoc
/-!
# Tables and the order of their pairs

Where the keys of a table are distinct, what is found under a key does not depend on the order of the
pairs (`Assoc.get?_of_perm`).

A sorted table is determined by its pairs in any order (`SortedTable.ofList_of_perm`).  Writing into
it takes away the pair of the key, if there is one, and adds a pair (`SortedTable.entries_insert_perm`).
-/

namespace SchemaBinder

namespace Assoc

variable {α : Type} {key : String} {value : α} {pairs others : List (String × α)}

/-- Where the keys are distinct, every pair is found under its key. -/
theorem get?_eq_some_iff (distinct : (pairs.map (·.1)).Nodup) :
    get? key pairs = some value ↔ (key, value) ∈ pairs := by
  refine ⟨mem_of_get?, fun member => ?_⟩
  induction pairs with
  | nil => cases member
  | cons p rest ih =>
    obtain ⟨fresh, distinct⟩ := List.nodup_cons.1 distinct
    rw [get?]
    rcases List.mem_cons.1 member with rfl | later
    · rw [if_pos rfl]
    · have other : p.1 ≠ key := by
        rintro rfl
        exact fresh (List.mem_map.2 ⟨_, later, rfl⟩)
      rw [if_neg other, ih distinct later]

theorem get?_eq_none_iff : get? key pairs = none ↔ key ∉ pairs.map (·.1) := by
  induction pairs with
  | nil => simp [get?]
  | cons p rest ih =>
    rw [get?, List.map_cons, List.mem_cons, not_or]
    by_cases same : p.1 = key
    · simp [same]
    · rw [if_neg same, ih, and_iff_right (Ne.symm same)]

theorem get?_of_perm (distinct : (pairs.map (·.1)).Nodup) (same : pairs.Perm others)
    (key : String) : get? key pairs = get? key others := by
  ext value
  rw [get?_eq_some_iff distinct, get?_eq_some_iff ((same.map _).nodup_iff.1 distinct),
    same.mem_iff]

/-- Where a key is absent, all pairs have other keys. -/
theorem filter_ne_key (absent : key ∉ pairs.map (·.1)) : pairs.filter (·.1 ≠ key) = pairs := by
  rw [List.filter_eq_self]
  intro p member
  simpa using fun same : p.1 = key => absent (same ▸ List.mem_map_of_mem member)

/-- Where the keys are distinct, the only pair of a key is the one that is found. -/
theorem filter_key (distinct : (pairs.map (·.1)).Nodup) (key : String) :
    pairs.filter (·.1 = key) = ((get? key pairs).map ((key, ·))).toList := by
  induction pairs with
  | nil => rfl
  | cons p rest ih =>
    obtain ⟨fresh, distinct⟩ := List.nodup_cons.1 distinct
    rw [get?]
    by_cases same : p.1 = key
    · have others : rest.filter (·.1 = key) = [] := by
        rw [List.filter_eq_nil_iff]
        intro q later
        rw [decide_eq_true_eq, ← same]
        exact fun again => fresh (List.mem_map.2 ⟨q, later, again⟩)
      rw [List.filter_cons_of_pos (by simpa using same), others, if_pos same, ← same]
      rfl
    · rw [List.filter_cons_of_neg (by simpa using same), ih distinct, if_neg same]

end Assoc

namespace SortedTable

variable {α : Type}

theorem nodup_keys (table : SortedTable α) : (table.entries.map (·.1)).Nodup :=
  List.pairwise_map.2 (table.keys_sorted.imp String.ne_of_lt)

theorem notMem_keys_of_lt {key : String} {entries : List (String × α)}
    (above : ∀ p ∈ entries, key < p.1) : key ∉ entries.map (·.1) := by
  intro member
  obtain ⟨p, here, rfl⟩ := List.mem_map.1 member
  exact String.lt_irrefl p.1 (above p here)

/-- What is written stands beside the pairs with other keys. -/
theorem insertEntry_perm (key : String) (value : α) {entries : List (String × α)}
    (sorted : entries.Pairwise (·.1 < ·.1)) :
    (insertEntry key value entries).Perm ((key, value) :: entries.filter (·.1 ≠ key)) := by
  induction entries with
  | nil => exact .rfl
  | cons p rest ih =>
    obtain ⟨k, v⟩ := p
    obtain ⟨above, sorted⟩ := List.pairwise_cons.1 sorted
    rw [insertEntry]
    by_cases same : key = k
    · subst same
      rw [if_pos rfl, List.filter_cons_of_neg (by simp),
        Assoc.filter_ne_key (notMem_keys_of_lt above)]
    · rw [if_neg same, List.filter_cons_of_pos (by simpa using Ne.symm same)]
      by_cases less : key < k
      · have above : ∀ p ∈ rest, key < p.1 := fun p member => String.lt_trans less (above p member)
        rw [if_pos less, Assoc.filter_ne_key (notMem_keys_of_lt above)]
      · rw [if_neg less]
        exact ((ih sorted).cons (k, v)).trans (.swap _ _ _)

theorem entries_insert_perm (table : SortedTable α) (key : String) (value : α) :
    (table.insert key value).entries.Perm ((key, value) :: table.entries.filter (·.1 ≠ key)) :=
  insertEntry_perm key value table.keys_sorted

/-- What is found under a key stands beside the pairs with other keys. -/
theorem perm_get?_filter (table : SortedTable α) (key : String) :
    (((table.get? key).map ((key, ·))).toList ++ table.entries.filter (·.1 ≠ key)).Perm
      table.entries := by
  rw [get?, ← Assoc.filter_key table.nodup_keys]
  simpa using List.filter_append_perm (·.1 = key) table.entries

theorem entries_foldl_insert_perm {table : SortedTable α} {pairs : List (String × α)}
    (apart : ((pairs ++ table.entries).map (·.1)).Nodup) :
    (pairs.foldl (fun table p => table.insert p.1 p.2) table).entries.Perm
      (pairs ++ table.entries) := by
  induction pairs generalizing table with
  | nil => exact .rfl
  | cons p rest ih =>
    have fresh : p.1 ∉ table.entries.map (·.1) := by
      rw [List.cons_append, List.map_cons, List.nodup_cons, List.map_append, List.mem_append,
        not_or] at apart
      exact apart.1.2
    have written : (table.insert p.1 p.2).entries.Perm (p :: table.entries) :=
      Assoc.filter_ne_key fresh ▸ table.entries_insert_perm p.1 p.2
    have placed : (rest ++ (table.insert p.1 p.2).entries).Perm (p :: (rest ++ table.entries)) :=
      (written.append_left rest).trans List.perm_middle
    exact (ih ((placed.map (·.1)).nodup_iff.2 apart)).trans placed

/-- A table is made of its entries, in whichever order they are written. -/
theorem ofList_of_perm {table : SortedTable α} {pairs : List (String × α)}
    (same : pairs.Perm table.entries) : ofList pairs = table := by
  have apart : (pairs.map (·.1)).Nodup := (same.map (·.1)).nodup_iff.2 table.nodup_keys
  have made : (ofList pairs).entries.Perm table.entries := by
    refine (@entries_foldl_insert_perm α empty pairs ?_).trans ?_
    · simpa [empty] using apart
    · simpa [empty] using same
  have equal : (ofList pairs).entries = table.entries :=
    made.eq_of_pairwise (fun _ _ _ _ first later => absurd later (String.lt_asymm first))
      (ofList pairs).keys_sorted table.keys_sorted
  generalize ofList pairs = built at equal
  obtain ⟨entries, _⟩ := built
  subst equal
  rfl

/-- A table is made of its entries. -/
theorem ofList_entries (table : SortedTable α) : ofList table.entries = table :=
  ofList_of_perm .rfl

/-- Tables in which the same is found under every key are the same. -/
theorem eq_of_get? {table other : SortedTable α}
    (same : ∀ key, table.get? key = other.get? key) : table = other := by
  have entries : table.entries.Perm other.entries := by
    rw [List.perm_ext_iff_of_nodup (.of_map _ table.nodup_keys) (.of_map _ other.nodup_keys)]
    rintro ⟨key, value⟩
    rw [← Assoc.get?_eq_some_iff table.nodup_keys, ← Assoc.get?_eq_some_iff other.nodup_keys]
    exact iff_of_eq (congrArg (· = some value) (same key))
  rw [← ofList_of_perm entries, ofList_entries]

end SortedTable

end SchemaBinder
