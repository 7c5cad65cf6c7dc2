import Mathlib.Data.List.Basic
import SchemaBinder.Proofs.Binding.Parameters
import SchemaBinder.Proofs.Json.Parts
/-!
# The first field with a key

Every field inside a value has an *address*: its position in its object, behind the positions of the
lists and objects around it.  Addresses are compared from the outermost level inwards.  So a field
comes before the fields inside its own value, whose addresses go on where its own ends, and
everything inside an earlier field or item comes before everything inside a later one.

`Json.walk` lists the fields of a value with their addresses.  It is in the order of the addresses
(`Json.ordered_walk`), and no field is missing (`Json.mem_walk_iff`), so it is the one walk through
the value in the order of the document.  A search finds the first field of the walk with a key.

The alias of a body is searched for in two steps, the second one inside what the first one finds.  So
it is decided by the first `schema` of the walk alone, even if no alias is inside it
(`Parameter.FirstSchemaDecides`).
-/

namespace SchemaBinder

namespace Json

/-! ## Addresses -/

/-- The field at an address, if there is one. -/
def fieldAt? : List Nat → Json → Option (String × Json)
  | [n], obj fields => fields[n]?
  | n :: m :: a, obj fields => fields[n]?.bind fun field => fieldAt? (m :: a) field.2
  | n :: a, arr items => items[n]?.bind fun item => fieldAt? a item
  | _, _ => none

/-- A field that a walk comes by. -/
structure Visit where
  /-- Where the field is. -/
  address : List Nat
  /-- Its key and its value. -/
  field : String × Json

/-- The visit as it is in a value of which the one around the field is the item or field at a
position. -/
def Visit.within (n : Nat) (visit : Visit) : Visit := { visit with address := n :: visit.address }

/-- One visit is of an earlier address than another. -/
def Visit.Before (visit later : Visit) : Prop := visit.address < later.address

mutual

/-- The walk through a value. -/
def walk : Json → List Visit
  | arr items => walkItems 0 items
  | obj fields => walkFields 0 fields
  | _ => []

/-- The walk through the items of a list from a position on. -/
def walkItems (n : Nat) : List Json → List Visit
  | [] => []
  | v :: rest => (walk v).map (Visit.within n) ++ walkItems (n + 1) rest

/-- The walk through the fields of an object from a position on. -/
def walkFields (n : Nat) : List (String × Json) → List Visit
  | [] => []
  | (k, v) :: rest => ⟨[n], k, v⟩ :: ((walk v).map (Visit.within n) ++ walkFields (n + 1) rest)

end

/-- The first field with a key that the walk comes by. -/
def firstVisit? (key : String) (v : Json) : Option Visit := v.walk.find? (·.field.1 = key)

variable {v : Json} {visit : Visit} {key : String}

theorem walkItems_eq (n : Nat) (items : List Json) :
    walkItems n items = (items.zipIdx n).flatMap fun p => p.1.walk.map (Visit.within p.2) := by
  induction items generalizing n with
  | nil => rfl
  | cons v rest ih => rw [walkItems, ih, List.zipIdx_cons, List.flatMap_cons]

theorem walkFields_eq (n : Nat) (fields : List (String × Json)) :
    walkFields n fields =
      (fields.zipIdx n).flatMap fun p => ⟨[p.2], p.1⟩ :: p.1.2.walk.map (Visit.within p.2) := by
  induction fields generalizing n with
  | nil => rfl
  | cons field rest ih =>
    rw [walkFields, ih, List.zipIdx_cons, List.flatMap_cons, List.cons_append]

/-! ## All fields -/

theorem fieldAt?_nil (v : Json) : v.fieldAt? [] = none := by
  cases v <;> rfl

/-- The walk comes by every field, at its address. -/
theorem mem_walk_iff : visit ∈ v.walk ↔ v.fieldAt? visit.address = some visit.field := by
  obtain ⟨a, field⟩ := visit
  show _ ↔ v.fieldAt? a = some field
  induction v using induct generalizing a with
  | arr items ih =>
    rw [walk, walkItems_eq, List.mem_flatMap]
    constructor
    · rintro ⟨⟨item, n⟩, here, member⟩
      obtain ⟨⟨b, found⟩, inner, ⟨⟩⟩ := List.mem_map.1 member
      have there : items[n]? = some item := List.mem_zipIdx_iff_getElem?.1 here
      rw [fieldAt?, there]
      exact (ih item (List.mem_of_getElem? there) b).1 inner
    · intro found
      cases a with
      | nil => cases found
      | cons n a =>
        rw [fieldAt?] at found
        obtain ⟨item, there, found⟩ := Option.bind_eq_some_iff.1 found
        have inner := (ih item (List.mem_of_getElem? there) a).2 found
        exact ⟨(item, n), List.mem_zipIdx_iff_getElem?.2 there, List.mem_map.2 ⟨_, inner, rfl⟩⟩
  | obj fields ih =>
    rw [walk, walkFields_eq, List.mem_flatMap]
    constructor
    · rintro ⟨⟨outer, n⟩, here, member⟩
      have there : fields[n]? = some outer := List.mem_zipIdx_iff_getElem?.1 here
      rcases List.mem_cons.1 member with same | member
      · cases same
        exact there
      · obtain ⟨⟨b, found⟩, inner, ⟨⟩⟩ := List.mem_map.1 member
        have inside := (ih outer (List.mem_of_getElem? there) b).1 inner
        cases b with
        | nil => cases (fieldAt?_nil outer.2).symm.trans inside
        | cons m b => rwa [fieldAt?, there]
    · intro found
      match a, found with
      | [n], found =>
        exact ⟨(field, n), List.mem_zipIdx_iff_getElem?.2 found, List.mem_cons_self⟩
      | n :: m :: b, found =>
        rw [fieldAt?] at found
        obtain ⟨outer, there, found⟩ := Option.bind_eq_some_iff.1 found
        have inner := (ih outer (List.mem_of_getElem? there) (m :: b)).2 found
        exact ⟨(outer, n), List.mem_zipIdx_iff_getElem?.2 there,
          List.mem_cons_of_mem _ (List.mem_map.2 ⟨_, inner, rfl⟩)⟩
  | _ => simp [walk, fieldAt?]

/-! ## The order of the walk -/

theorem pairwise_zipIdx {α : Type} (xs : List α) :
    xs.zipIdx.Pairwise fun p q => p.2 < q.2 := by
  rw [← List.pairwise_map (f := Prod.snd), List.zipIdx_map_snd]
  exact List.pairwise_lt_range' 1

theorem ordered_flatMap {α : Type} {xs : List α} {f : α × Nat → List Visit}
    (each : ∀ p ∈ xs.zipIdx, (f p).Pairwise Visit.Before)
    (inside : ∀ p ∈ xs.zipIdx, ∀ visit ∈ f p, ∃ a, visit.address = p.2 :: a) :
    (xs.zipIdx.flatMap f).Pairwise Visit.Before := by
  refine List.pairwise_flatMap.2 ⟨each, ?_⟩
  refine List.Pairwise.imp_of_mem ?_ (pairwise_zipIdx xs)
  intro p q here there less e member e' member'
  obtain ⟨a, first⟩ := inside p here e member
  obtain ⟨b, second⟩ := inside q there e' member'
  rw [Visit.Before, first, second]
  exact List.cons_lt_cons_iff.2 (.inl less)

theorem ordered_within {visits : List Visit} (n : Nat)
    (ordered : visits.Pairwise Visit.Before) :
    (visits.map (Visit.within n)).Pairwise Visit.Before :=
  List.pairwise_map.2 (ordered.imp fun less => List.cons_lt_cons_iff.2 (.inr ⟨rfl, less⟩))

theorem ordered_walk (v : Json) : v.walk.Pairwise Visit.Before := by
  induction v using induct with
  | arr items ih =>
    rw [walk, walkItems_eq]
    refine ordered_flatMap (fun p here => ?_) (fun p here e member => ?_)
    · exact ordered_within p.2 (ih p.1 (List.fst_mem_of_mem_zipIdx here))
    · obtain ⟨e, _, rfl⟩ := List.mem_map.1 member
      exact ⟨e.address, rfl⟩
  | obj fields ih =>
    rw [walk, walkFields_eq]
    refine ordered_flatMap (fun p here => ?_) (fun p here e member => ?_)
    · refine List.pairwise_cons.2 ⟨fun e member => ?_, ?_⟩
      · obtain ⟨⟨a, field⟩, inner, rfl⟩ := List.mem_map.1 member
        cases a with
        | nil => cases (fieldAt?_nil p.1.2).symm.trans (mem_walk_iff.1 inner)
        | cons m a => exact List.cons_lt_cons_iff.2 (.inr ⟨rfl, List.nil_lt_cons m a⟩)
      · exact ordered_within p.2 (ih p.1 (List.fst_mem_of_mem_zipIdx here))
    · rcases List.mem_cons.1 member with rfl | member
      · exact ⟨[], rfl⟩
      · obtain ⟨e, _, rfl⟩ := List.mem_map.1 member
        exact ⟨e.address, rfl⟩
  | _ => exact .nil

/-! ## Searching -/

/-- The walk is through the entries of the value. -/
theorem map_field_walk (v : Json) : v.walk.map (·.field) = v.entries := by
  induction v using induct with
  | arr items ih =>
    have each (n : Nat) : (walkItems n items).map (·.field) = entriesItems items := by
      induction items generalizing n with
      | nil => rfl
      | cons v items inner =>
        obtain ⟨here, later⟩ := List.forall_mem_cons.1 ih
        rw [walkItems, entriesItems, List.map_append, List.map_map, inner later, ← here]
        rfl
    rw [walk, entries, each]
  | obj fields ih =>
    have each (n : Nat) : (walkFields n fields).map (·.field) = entriesFields fields := by
      induction fields generalizing n with
      | nil => rfl
      | cons field fields inner =>
        obtain ⟨here, later⟩ := List.forall_mem_cons.1 ih
        rw [walkFields, entriesFields, List.map_cons, List.map_append, List.map_map, inner later,
          ← here]
        rfl
    rw [walk, entries, each]
  | _ => rfl

theorem get?_eq_find? {α : Type} (key : String) (table : List (String × α)) :
    Assoc.get? key table = (table.find? (·.1 = key)).map (·.2) := by
  induction table with
  | nil => rfl
  | cons field rest ih =>
    obtain ⟨k, v⟩ := field
    by_cases same : k = key
    · simp [Assoc.get?, same]
    · simp [Assoc.get?, same, ih]

/-- A search finds the value of the first field with a key that the walk comes by. -/
theorem find?_eq_firstVisit? (key : String) (v : Json) :
    v.find? key = (v.firstVisit? key).map (·.field.2) := by
  rw [find?_eq_get?_entries, get?_eq_find?, ← map_field_walk, List.find?_map, Option.map_map]
  rfl

/-- A search finds nothing exactly if no object in the value has the key. -/
theorem find?_eq_none_iff :
    v.find? key = none ↔ ∀ fields, obj fields ∈ v.parts → key ∉ fields.map (·.1) := by
  rw [find?_eq_get?_entries, get?_eq_find?, Option.map_eq_none_iff, List.find?_eq_none]
  constructor
  · intro none fields part member
    obtain ⟨field, there, same⟩ := List.mem_map.1 member
    exact none field (mem_entries_iff.2 ⟨fields, part, there⟩) (decide_eq_true same)
  · intro none field member same
    obtain ⟨fields, part, there⟩ := mem_entries_iff.1 member
    exact none fields part (List.mem_map.2 ⟨field, there, of_decide_eq_true same⟩)

end Json

/-! ## The alias of a body -/

namespace Parameter

/-- The first `schema` of a value decides which directive a body of this value has. -/
structure FirstSchemaDecides (fragment : Json) : Prop where
  /-- The directive is the first `x-type` of the walk through the value of the first `schema`. -/
  directive : bodyDirective? fragment =
    ((fragment.firstVisit? "schema").bind fun schema =>
      schema.field.2.firstVisit? Extensions.typeKey).map (·.field.2)
  /-- If there is none inside it, then a body stays as it is, whatever other schemas hold. -/
  untouched : ∀ schema, fragment.firstVisit? "schema" = some schema →
    (∀ fields, .obj fields ∈ schema.field.2.parts → Extensions.typeKey ∉ fields.map (·.1)) →
    ∀ (p : Parameter) (text : String), p.rawSchema = some text → Json.read? text = some fragment →
      ∀ registry entity, p.bindBody registry entity = .ok (p, [])

theorem firstSchemaDecides (fragment : Json) : FirstSchemaDecides fragment where
  directive := by
    rw [bodyDirective?, Json.find?_eq_firstVisit?]
    cases fragment.firstVisit? "schema" with
    | none => rfl
    | some schema => exact Json.find?_eq_firstVisit? Extensions.typeKey schema.field.2
  untouched schema first absent p text raw read registry entity := by
    have undirected : bodyDirective? fragment = none := by
      rw [bodyDirective?, Json.find?_eq_firstVisit?, first]
      exact Json.find?_eq_none_iff.2 absent
    rw [bindBody, raw]
    simp only [bodyAlias, read, undirected]

end Parameter

/-- A search finds the first field with a key in the walk through a value, which comes by all fields
in the order of their addresses.  It finds nothing exactly if no object inside the value has the key.
So the directive of a body is looked for inside the first `schema` only. -/
theorem Json.search_follows_walk (v : Json) :
    v.walk.Pairwise Visit.Before ∧
      (∀ visit, visit ∈ v.walk ↔ v.fieldAt? visit.address = some visit.field) ∧
      (∀ key, v.find? key = (v.firstVisit? key).map (·.field.2)) ∧
      (∀ key, v.find? key = none ↔ ∀ fields, obj fields ∈ v.parts → key ∉ fields.map (·.1)) ∧
      Parameter.FirstSchemaDecides v :=
  ⟨ordered_walk v, fun _ => mem_walk_iff, fun key => find?_eq_firstVisit? key v,
    fun _ => find?_eq_none_iff, Parameter.firstSchemaDecides v⟩

/-- The first schema stands inside an earlier field, and has no alias. -/
example :
    let v : Json := .obj [("example", .arr [.obj [("schema", .obj [("type", .str "string")])]]),
      ("schema", .obj [("x-type", .str "Money")])]
    (v.walk.map fun visit => (visit.address, visit.field.1)) =
        [([0], "example"), ([0, 0, 0], "schema"), ([0, 0, 0, 0], "type"), ([1], "schema"),
          ([1, 0], "x-type")] ∧
      (v.find? "x-type").isSome = true ∧ (Parameter.bodyDirective? v).isSome = false := by
  decide

end SchemaBinder
