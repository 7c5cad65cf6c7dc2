import Mathlib.Data.Finset.Card
import Mathlib.Data.List.Induction
import SchemaBinder.Proofs.Tables
import SchemaBinder.TypeRegistry
/-!
# Registries after any registrations

What a registry holds is decided by the last registration of each alias (`get?_ofList`).

Every descriptor is under its own alias, as one registration keeps it so (`Keyed.insert`).  Hence the
aliases of a listing are the keys of the table: each once, and in ascending order.

A hash table may have its pairs in any order after every write.  It has the pairs of the registry
nevertheless (`hashed_iff`), and sorting its classes by their aliases gives the one listing
(`listing_of_hashed`).
-/

namespace SchemaBinder.TypeRegistry

open scoped List

variable {registry : TypeRegistry} {ds es : List TypeDescriptor} {d : TypeDescriptor}
  {name : String} {table : List (String × TypeDescriptor)}

/-! ## The last registration -/

/-- The last descriptor of an alias in a sequence. -/
def lastOf (name : String) (ds : List TypeDescriptor) : Option TypeDescriptor :=
  (ds.filter (·.alias_ = name)).getLast?

theorem lastOf_eq_none_iff : lastOf name ds = none ↔ name ∉ ds.map (·.alias_) := by
  simp [lastOf]

theorem get?_ofList (ds : List TypeDescriptor) (name : String) :
    (ofList ds).get? name = lastOf name ds :=
  (get?_extend empty ds name).trans Option.or_none

theorem ofList_concat (ds : List TypeDescriptor) (d : TypeDescriptor) :
    ofList (ds ++ [d]) = ((ofList ds).insert d).2 :=
  extend_append empty ds [d]

theorem eq_of_get? {registry other : TypeRegistry}
    (same : ∀ name, registry.get? name = other.get? name) : registry = other := by
  cases registry
  cases other
  exact congrArg mk (SortedTable.eq_of_get? same)

/-! ## Aliases and keys -/

/-- Every descriptor is stored under its alias. -/
def Keyed (registry : TypeRegistry) : Prop :=
  ∀ p ∈ registry.table.entries, p.2.alias_ = p.1

theorem Keyed.insert (keyed : registry.Keyed) (d : TypeDescriptor) :
    (registry.insert d).2.Keyed := by
  intro p member
  rcases SortedTable.mem_insertEntry member with rfl | before
  · rfl
  · exact keyed p before

theorem keyed_ofList (ds : List TypeDescriptor) : (ofList ds).Keyed := by
  induction ds using List.reverseRecOn with
  | nil => exact List.forall_mem_nil _
  | append_singleton ds d ih => exact ofList_concat ds d ▸ ih.insert d

theorem Keyed.map_descriptors (keyed : registry.Keyed) :
    registry.descriptors.map (·.alias_) = registry.table.entries.map (·.1) := by
  rw [descriptors, List.map_map]
  exact List.map_congr_left keyed

theorem mem_keys_ofList :
    name ∈ (ofList ds).table.entries.map (·.1) ↔ name ∈ ds.map (·.alias_) := by
  rw [← not_iff_not, ← Assoc.get?_eq_none_iff, ← lastOf_eq_none_iff, ← get?_ofList]
  rfl

theorem size_ofList (ds : List TypeDescriptor) :
    (ofList ds).size = (ds.map (·.alias_)).toFinset.card := by
  have keys : (ds.map (·.alias_)).toFinset = ((ofList ds).table.entries.map (·.1)).toFinset := by
    ext name
    rw [List.mem_toFinset, List.mem_toFinset, mem_keys_ofList]
  rw [keys, List.toFinset_card_of_nodup (ofList ds).table.nodup_keys, List.length_map]
  rfl

/-- What the registry holds after descriptors are registered one after the other. -/
structure Registered (ds : List TypeDescriptor) (registry : TypeRegistry) : Prop where
  /-- An alias stands for its last descriptor. -/
  found : ∀ name, registry.get? name = lastOf name ds
  /-- Every descriptor is stored under its alias. -/
  keyed : registry.Keyed
  /-- The size is the number of different aliases. -/
  size : registry.size = (ds.map (·.alias_)).toFinset.card
  /-- The listing is strictly ascending. -/
  ascending : (registry.descriptors.map (·.alias_)).Pairwise (· < ·)
  /-- All aliases are listed, and no others. -/
  complete : ∀ name, name ∈ registry.descriptors.map (·.alias_) ↔ name ∈ ds.map (·.alias_)

theorem registered_ofList (ds : List TypeDescriptor) : Registered ds (ofList ds) where
  found := get?_ofList ds
  keyed := keyed_ofList ds
  size := size_ofList ds
  ascending := by
    rw [(keyed_ofList ds).map_descriptors, List.pairwise_map]
    exact (ofList ds).table.keys_sorted
  complete name := by rw [(keyed_ofList ds).map_descriptors, mem_keys_ofList]

/-- One registration takes away the descriptor that it returns, if it returns one, and adds a
descriptor. -/
theorem insert_perm (registry : TypeRegistry) (d : TypeDescriptor) :
    ((registry.insert d).1.toList ++ (registry.insert d).2.descriptors).Perm
      (d :: registry.descriptors) := by
  have replaced : (((registry.get? d.alias_).map (d.alias_, ·)).toList).map (·.2) =
      (registry.insert d).1.toList := by
    show _ = (registry.get? d.alias_).toList
    cases registry.get? d.alias_ <;> rfl
  have written := (registry.table.entries_insert_perm d.alias_ d).map (·.2)
  have before := (registry.table.perm_get?_filter d.alias_).map (·.2)
  rw [List.map_append] at before
  calc (registry.insert d).1.toList ++ (registry.insert d).2.descriptors
      ~ (registry.insert d).1.toList ++
          d :: (registry.table.entries.filter (·.1 ≠ d.alias_)).map (·.2) := written.append_left _
    _ ~ d :: ((registry.insert d).1.toList ++
          (registry.table.entries.filter (·.1 ≠ d.alias_)).map (·.2)) := List.perm_middle
    _ ~ d :: registry.descriptors := (replaced ▸ before).cons d

/-! ## Hash tables -/

/-- What a hash table can be after descriptors are written one after the other, each under its alias.
A write takes away the pair of the key and adds one, and may leave the pairs in any order. -/
inductive Hashed : List TypeDescriptor → List (String × TypeDescriptor) → Prop where
  | empty : Hashed [] []
  | insert {ds : List TypeDescriptor} {table later : List (String × TypeDescriptor)}
      {d : TypeDescriptor} : Hashed ds table →
      later.Perm ((d.alias_, d) :: table.filter (·.1 ≠ d.alias_)) → Hashed (ds ++ [d]) later

/-- A hash table has the pairs of the registry, in any order. -/
theorem hashed_iff : Hashed ds table ↔ table.Perm (ofList ds).table.entries := by
  constructor
  · intro hashed
    induction hashed with
    | empty => exact .rfl
    | @insert ds table later d _ written ih =>
      rw [ofList_concat]
      have kept := (ih.filter (·.1 ≠ d.alias_)).cons (d.alias_, d)
      exact written.trans (kept.trans ((ofList ds).table.entries_insert_perm d.alias_ d).symm)
  · intro same
    induction ds using List.reverseRecOn generalizing table with
    | nil => exact same.eq_nil ▸ .empty
    | append_singleton ds d ih =>
      rw [ofList_concat] at same
      exact .insert (ih .rfl) (same.trans ((ofList ds).table.entries_insert_perm d.alias_ d))

/-- The classes of a table, sorted by their aliases. -/
def listing (table : List (String × TypeDescriptor)) : List TypeDescriptor :=
  (table.map (·.2)).mergeSort fun a b => a.alias_ ≤ b.alias_

theorem listing_sorted (table : List (String × TypeDescriptor)) :
    (listing table).Pairwise (·.alias_ ≤ ·.alias_) := by
  have ordered := @List.pairwise_mergeSort _ (fun a b : TypeDescriptor => a.alias_ ≤ b.alias_)
    (by simpa using fun a b c => String.le_trans) (by simpa using fun a b => String.le_total _ _)
    (table.map (·.2))
  exact ordered.imp of_decide_eq_true

/-- However a hash table has its pairs, its listing is the one of the registry. -/
theorem listing_of_hashed (hashed : Hashed ds table) : listing table = (ofList ds).descriptors := by
  have perm : listing table ~ (ofList ds).descriptors :=
    (List.mergeSort_perm _ _).trans ((hashed_iff.1 hashed).map (·.2))
  have ascending := (registered_ofList ds).ascending
  have distinct : ((ofList ds).descriptors.map (·.alias_)).Nodup := ascending.imp String.ne_of_lt
  refine perm.eq_of_pairwise ?_ (listing_sorted table) ((List.pairwise_map.1 ascending).imp ?_)
  · intro a b here there first later
    exact List.inj_on_of_nodup_map distinct (perm.subset here) there (String.le_antisymm first later)
  · exact fun less => String.not_lt.1 (String.lt_asymm less)

/-! ## Any registrations -/

/-- What a hash table has in common with a registry. -/
structure Stores (table : List (String × TypeDescriptor)) (registry : TypeRegistry) : Prop where
  /-- The same is found under every key. -/
  found : ∀ name, Assoc.get? name table = registry.get? name
  /-- There are as many pairs as aliases. -/
  size : table.length = registry.size
  /-- Every descriptor is stored under its alias. -/
  keyed : ∀ p ∈ table, p.2.alias_ = p.1
  /-- The listing is the same. -/
  listed : listing table = registry.descriptors

theorem stores_of_hashed (hashed : Hashed ds table) : Stores table (ofList ds) where
  found := by
    have same := hashed_iff.1 hashed
    exact Assoc.get?_of_perm ((same.map _).nodup_iff.2 (ofList ds).table.nodup_keys) same
  size := (hashed_iff.1 hashed).length_eq
  keyed p member := keyed_ofList ds p ((hashed_iff.1 hashed).mem_iff.1 member)
  listed := listing_of_hashed hashed

/-- After any registrations, an alias stands for its last descriptor, which is stored under it, and the
listing has every alias once and in ascending order.  One more registration returns the descriptor
that it replaces, and only this one goes.  A hash table may have its pairs in any order after each
registration; it stores the same, and lists the same as any other table in which each alias has the
same last descriptor. -/
theorem registrations_decide_listing (ds : List TypeDescriptor) :
    Registered ds (ofList ds) ∧
    (∀ d, (ofList ds).insert d = (lastOf d.alias_ ds, ofList (ds ++ [d])) ∧
      (lastOf d.alias_ ds).toList ++ (ofList (ds ++ [d])).descriptors ~
        d :: (ofList ds).descriptors) ∧
    (∀ table, Hashed ds table ↔ table ~ (ofList ds).table.entries) ∧
    (∀ table, Hashed ds table → Stores table (ofList ds)) ∧
    ∀ es, (∀ name, lastOf name ds = lastOf name es) → ofList ds = ofList es ∧
      ∀ table other, Hashed ds table → Hashed es other → listing table = listing other := by
  refine ⟨registered_ofList ds, fun d => ?_, fun table => hashed_iff,
    fun table => stores_of_hashed, fun es same => ?_⟩
  · have answer : (ofList ds).insert d = (lastOf d.alias_ ds, ofList (ds ++ [d])) :=
      Prod.ext (get?_ofList ds d.alias_) (ofList_concat ds d).symm
    have exchanged := insert_perm (ofList ds) d
    rw [answer] at exchanged
    exact ⟨answer, exchanged⟩
  · have registries : ofList ds = ofList es :=
      eq_of_get? fun name => by rw [get?_ofList, get?_ofList, same]
    refine ⟨registries, fun table other hashed hashed' => ?_⟩
    rw [listing_of_hashed hashed, listing_of_hashed hashed', registries]

/-- A registration that is replaced leaves no trace, also where the pairs stand in another order. -/
theorem registrations_decide_listing_replaced :
    let money : TypeDescriptor := ⟨"Money", "c.Money"⟩
    let identifier : TypeDescriptor := ⟨"Id", "b.Id"⟩
    let ds := [⟨"Money", "a.Money"⟩, identifier, money]
    let es := [money, identifier]
    let table := [("Id", identifier), ("Money", money)]
    let other := [("Money", money), ("Id", identifier)]
    (∀ name, lastOf name ds = lastOf name es) ∧ Hashed ds table ∧ Hashed es other ∧
      (ofList ds).descriptors = [identifier, money] ∧ listing table = listing other := by
  intro money identifier ds es table other
  have same (name : String) : lastOf name ds = lastOf name es := by
    by_cases ofMoney : "Money" = name
    · subst ofMoney
      rfl
    · simp [lastOf, ds, es, money, List.filter_cons, ofMoney]
  obtain ⟨_, _, hashed_iff, _, decided⟩ := registrations_decide_listing ds
  have first : Hashed ds table := (hashed_iff table).2 (by decide)
  have second : Hashed es other := TypeRegistry.hashed_iff.2 (by decide)
  exact ⟨same, first, second, by decide, (decided es same).2 table other first second⟩

end SchemaBinder.TypeRegistry
