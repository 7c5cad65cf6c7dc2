import SchemaBinder.Proofs.Json.WellFormed
import SchemaBinder.Setting.Settled
/-!
# Settings in JSON

A setting is fitting if its whole numbers fit 64 bits and its other numbers are in range.  A plain text
settles to a fitting setting, and the JSON form of a fitting setting can be stored.
-/

namespace SchemaBinder.Setting

/-- The numbers of a setting fit 64 bits. -/
inductive Fitting : Setting → Prop where
  | null : Fitting null
  | bool (b : Bool) : Fitting (bool b)
  | int {n : Int} : Decimal.fitsSigned 63 n ∨ Decimal.fitsUnsigned 64 n → Fitting (int n)
  | float {x : Double} : x.InRange → Fitting (float x)
  | nonFinite : Fitting nonFinite
  | text (s : String) : Fitting (text s)
  | plain (s : String) : Fitting (plain s)
  | list {items : List Setting} : (∀ v ∈ items, Fitting v) → Fitting (list items)
  | table {fields : List (String × Setting)} : (∀ field ∈ fields, Fitting field.2) →
      Fitting (table fields)
  | marked {value : Setting} (bare : Setting) : Fitting value → Fitting (marked value bare)
  | unknown : Fitting unknown

variable {v : Setting} {s : String}

/-! ## Plain texts -/

namespace Plain

theorem fitting_of_ofWhole? {n : Int} (whole : ofWhole? n = some v) : v.Fitting := by
  unfold ofWhole? at whole
  split at whole
  · next fits =>
    cases whole
    exact .int (by simpa using fits)
  · split at whole <;> cases whole
    exact .unknown

theorem inRange_of_nearest? {negative : Bool} {n digits : Nat} {power : Int} {x : Double}
    (near : Decimal.nearest? negative n digits power = some x) : x.InRange := by
  rw [Decimal.nearest?] at near
  split at near
  · cases near
    exact Double.inRange_zero negative
  · split at near
    · cases near
    · split at near
      · cases near
        exact Double.inRange_zero negative
      · exact Double.inRange_of_ofDecimal? near

theorem inRange_of_double? {cs : List Char} {x : Double} (read : Decimal.double? cs = some x) :
    x.InRange := by
  simp only [Decimal.double?] at read
  -- the digits after a point, or none of them
  split at read
  all_goals
    split at read
    · cases read
    · obtain ⟨power, _, near⟩ := Option.bind_eq_some_iff.1 read
      exact inRange_of_nearest? near

theorem fitting_of_number? (number : number? s = some v) : v.Fitting := by
  unfold number? at number
  split at number
  · cases number
    exact .nonFinite
  · obtain ⟨x, read, rfl⟩ := Option.map_eq_some_iff.1 number
    exact .float (inRange_of_double? read)

theorem fitting_settle (s : String) : (settle s).Fitting := by
  unfold settle
  split
  · exact .null
  · split
    · exact .bool _
    · split
      · next whole =>
        obtain ⟨n, _, fits⟩ := Option.bind_eq_some_iff.1 whole
        exact fitting_of_ofWhole? fits
      · split
        · exact .text s
        · cases number : number? s with
          | none => exact .text s
          | some v => exact fitting_of_number? number

end Plain

/-! ## JSON forms -/

theorem forall_of_itemsToJson? {levels : Nat} {items : List Setting} {vs : List Json}
    (each : ∀ v ∈ items, ∀ w, v.toJsonWithin? levels = some w → w.Storable)
    (done : itemsToJson? levels items = some vs) : ∀ w ∈ vs, w.Storable := by
  induction items generalizing vs with
  | nil =>
    cases done
    exact List.forall_mem_nil _
  | cons v rest ih =>
    obtain ⟨here, later⟩ := List.forall_mem_cons.1 each
    obtain ⟨w, first, more⟩ := Option.bind_eq_some_iff.1 done
    obtain ⟨ws, following, made⟩ := Option.bind_eq_some_iff.1 more
    cases made
    exact List.forall_mem_cons.2 ⟨here w first, ih later following⟩

theorem forall_of_fieldsToJson? {levels : Nat} {fields : List (String × Setting)}
    {pairs : List (String × Json)}
    (each : ∀ field ∈ fields, ∀ w, field.2.toJsonWithin? levels = some w → w.Storable)
    (done : fieldsToJson? levels fields = some pairs) : ∀ pair ∈ pairs, pair.2.Storable := by
  induction fields generalizing pairs with
  | nil =>
    cases done
    exact List.forall_mem_nil _
  | cons field rest ih =>
    obtain ⟨here, later⟩ := List.forall_mem_cons.1 each
    obtain ⟨w, first, more⟩ := Option.bind_eq_some_iff.1 done
    obtain ⟨ws, following, made⟩ := Option.bind_eq_some_iff.1 more
    cases made
    exact List.forall_mem_cons.2 ⟨here w first, ih later following⟩

/-- The JSON form of a fitting setting can be stored. -/
theorem Fitting.storable (fitting : v.Fitting) {levels : Nat} {w : Json}
    (form : v.toJsonWithin? levels = some w) : w.Storable := by
  induction fitting generalizing levels w with
  | null | bool | nonFinite | text =>
    cases form
    exact Json.storable_of_single rfl trivial trivial
  | int fits =>
    cases form
    exact Json.Number.storable_int fits
  | float inRange =>
    cases form
    exact Json.Number.storable_float inRange
  | plain s =>
    have settled := Plain.fitting_settle s
    rw [toJsonWithin?] at form
    generalize Plain.settle s = v at settled form
    cases settled with
    | null | bool | nonFinite | text =>
      cases form
      exact Json.storable_of_single rfl trivial trivial
    | int fits =>
      cases form
      exact Json.Number.storable_int fits
    | float inRange =>
      cases form
      exact Json.Number.storable_float inRange
    | _ => cases form
  | list each ih =>
    rw [toJsonWithin?] at form
    split at form
    · cases form
    · obtain ⟨vs, done, rfl⟩ := Option.map_eq_some_iff.1 form
      exact Json.storable_arr_iff.2 (forall_of_itemsToJson? (fun v member w => ih v member) done)
  | table each ih =>
    rw [toJsonWithin?] at form
    split at form
    · cases form
    · obtain ⟨pairs, done, rfl⟩ := Option.map_eq_some_iff.1 form
      have values := forall_of_fieldsToJson? (fun field member w => ih field member) done
      refine Json.storable_obj_iff.2 ⟨Assoc.nodup_ofList pairs, fun field member => ?_⟩
      obtain ⟨pair, written, same⟩ := Assoc.mem_ofList member
      rw [same]
      exact values pair written
  | marked bare _ ih =>
    rw [toJsonWithin?] at form
    exact ih form
  | unknown => cases form

end SchemaBinder.Setting
