import SchemaBinder.Json.Basic
/-!
# Records in JSON

How the records of this library are read from JSON.  A record is an object with the fields of
the record, or a list of their values in the order of the record.  Fields that the record does
not have are ignored.  An optional field may be left out of an object, or be `null`.

The readers return `none` for a value of the wrong shape.
-/

namespace SchemaBinder.Json

/-- The fields of a record with these names. -/
def record? (names : List String) : Json → Option (List (String × Json))
  | obj fields => some fields
  | arr items => if items.length = names.length then some (names.zip items) else none
  | _ => none

/-- A field that must be there. -/
def field? {α : Type} (fields : List (String × Json)) (key : String) (read : Json → Option α) :
    Option α :=
  (Assoc.get? key fields).bind read

/-- A field that may be left out. -/
def optional? {α : Type} (fields : List (String × Json)) (key : String)
    (read : Json → Option α) : Option (Option α) :=
  match Assoc.get? key fields with
  | none => some none
  | some null => some none
  | some v => (read v).map some

/-- A list of values of one shape. -/
def list? {α : Type} (read : Json → Option α) (v : Json) : Option (List α) :=
  v.asArr?.bind fun items => items.mapM read

/-- A list of texts. -/
def strs? (v : Json) : Option (List String) := v.list? asStr?

/-- The name of one of several cases: a text, or an object with that one field, which is
`null`. -/
def caseName? : Json → Option String
  | str s => some s
  | obj [(k, null)] => some k
  | _ => none

/-- One of several cases by its name. -/
def case? {α : Type} (cases : List (String × α)) (v : Json) : Option α :=
  v.caseName?.bind fun name => Assoc.get? name cases

/-! ## Sizes -/

theorem sizeOf_assoc_get? {key : String} {fields : List (String × Json)} {w : Json}
    (h : Assoc.get? key fields = some w) : sizeOf w < sizeOf fields := by
  induction fields with
  | nil => simp [Assoc.get?] at h
  | cons p rest ih =>
    obtain ⟨k, v⟩ := p
    unfold Assoc.get? at h
    split at h
    · obtain rfl := Option.some.inj h
      simp only [List.cons.sizeOf_spec, Prod.mk.sizeOf_spec]
      omega
    · have := ih h
      simp only [List.cons.sizeOf_spec]
      omega

/-- The value of a field is smaller than the object. -/
theorem sizeOf_get? {key : String} {v w : Json} (h : v.get? key = some w) :
    sizeOf w < sizeOf v := by
  cases v with
  | obj fields =>
    have := sizeOf_assoc_get? h
    simp only [obj.sizeOf_spec]
    omega
  | _ => simp [get?] at h

/-- `null` is smaller than an object with a field. -/
theorem sizeOf_null_lt {key : String} {v w : Json} (h : v.get? key = some w) :
    sizeOf null < sizeOf v := by
  have := sizeOf_get? h
  have : 1 ≤ sizeOf w := by cases w <;> simp
  simp only [null.sizeOf_spec]
  omega

end SchemaBinder.Json
