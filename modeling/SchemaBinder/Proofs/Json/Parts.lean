import SchemaBinder.Document
/-!
# The parts of a value

`Json.parts` lists a value and everything inside it.  What following a key, a pointer or a reference
leads to is a part of the document, so whatever holds of all parts of a document holds of it.

Two properties of values are stated by their parts.  A value is `WellFormed` if every object has each
key once and every integer fits 64 bits, which is what a value of JSON is.  It is `Integral` if it
holds no number of double precision.
-/

namespace SchemaBinder

namespace Json

/-! ## Parts -/

mutual

/-- The value and everything inside it. -/
def parts : Json → List Json
  | arr items => arr items :: partsItems items
  | obj fields => obj fields :: partsFields fields
  | v => [v]

/-- The items of a list and everything inside them. -/
def partsItems : List Json → List Json
  | [] => []
  | v :: rest => parts v ++ partsItems rest

/-- The values of the fields of an object and everything inside them. -/
def partsFields : List (String × Json) → List Json
  | [] => []
  | (_, v) :: rest => parts v ++ partsFields rest

end

variable {u v w : Json} {items : List Json} {fields : List (String × Json)} {key k : String}

theorem partsItems_eq (items : List Json) : partsItems items = items.flatMap parts := by
  induction items with
  | nil => rfl
  | cons v rest ih => rw [partsItems, ih, List.flatMap_cons]

theorem partsFields_eq (fields : List (String × Json)) :
    partsFields fields = fields.flatMap (·.2.parts) := by
  induction fields with
  | nil => rfl
  | cons field rest ih => rw [partsFields, ih, List.flatMap_cons]

theorem self_mem_parts (v : Json) : v ∈ v.parts := by
  cases v <;> exact List.mem_cons_self

theorem mem_parts_arr : u ∈ (arr items).parts ↔ u = arr items ∨ ∃ v ∈ items, u ∈ v.parts := by
  rw [parts, List.mem_cons, partsItems_eq, List.mem_flatMap]

theorem mem_parts_obj :
    u ∈ (obj fields).parts ↔ u = obj fields ∨ ∃ field ∈ fields, u ∈ field.2.parts := by
  rw [parts, List.mem_cons, partsFields_eq, List.mem_flatMap]

theorem mem_parts_of_item (member : v ∈ items) : v ∈ (arr items).parts :=
  mem_parts_arr.2 (.inr ⟨v, member, self_mem_parts v⟩)

theorem mem_parts_of_field (member : (key, v) ∈ fields) : v ∈ (obj fields).parts :=
  mem_parts_obj.2 (.inr ⟨(key, v), member, self_mem_parts v⟩)

/-- What holds of all parts of a list holds of the list and of all parts of its items. -/
theorem forall_parts_arr {p : Json → Prop} : (∀ u ∈ (arr items).parts, p u) ↔
    p (arr items) ∧ ∀ v ∈ items, ∀ u ∈ v.parts, p u := by
  simp only [mem_parts_arr, forall_eq_or_imp, forall_exists_index, and_imp]
  exact and_congr_right fun _ => ⟨fun each v member u part => each u v member part,
    fun each u v member part => each v member u part⟩

/-- What holds of all parts of an object holds of the object and of all parts of its values. -/
theorem forall_parts_obj {p : Json → Prop} : (∀ u ∈ (obj fields).parts, p u) ↔
    p (obj fields) ∧ ∀ field ∈ fields, ∀ u ∈ field.2.parts, p u := by
  simp only [mem_parts_obj, forall_eq_or_imp, forall_exists_index, and_imp]
  exact and_congr_right fun _ => ⟨fun each field member u part => each u field member part,
    fun each u field member part => each field member u part⟩

/-- What holds of a list if it holds of its items, and of an object if it holds of the values of its
fields, holds of every value. -/
@[elab_as_elim]
theorem induct {motive : Json → Prop} (null : motive null) (bool : ∀ b, motive (bool b))
    (int : ∀ n, motive (int n)) (float : ∀ x, motive (float x)) (str : ∀ s, motive (str s))
    (arr : ∀ items, (∀ v ∈ items, motive v) → motive (arr items))
    (obj : ∀ fields, (∀ field ∈ fields, motive field.2) → motive (obj fields)) (v : Json) :
    motive v :=
  @Json.rec motive (fun items => ∀ v ∈ items, motive v)
    (fun fields => ∀ field ∈ fields, motive field.2) (fun field => motive field.2)
    null bool int float str arr obj
    (fun _ member => nomatch member)
    (fun _ _ head tail => List.forall_mem_cons.2 ⟨head, tail⟩)
    (fun _ member => nomatch member)
    (fun _ _ head tail => List.forall_mem_cons.2 ⟨head, tail⟩)
    (fun _ _ value => value) v

/-- A part of a part is a part. -/
theorem mem_parts_trans (inner : u ∈ v.parts) (outer : v ∈ w.parts) : u ∈ w.parts := by
  induction w using induct with
  | arr items ih =>
    rcases mem_parts_arr.1 outer with rfl | ⟨item, member, outer⟩
    · exact inner
    · exact mem_parts_arr.2 (.inr ⟨item, member, ih item member outer⟩)
  | obj fields ih =>
    rcases mem_parts_obj.1 outer with rfl | ⟨field, member, outer⟩
    · exact inner
    · exact mem_parts_obj.2 (.inr ⟨field, member, ih field member outer⟩)
  | _ => rwa [List.mem_singleton.1 outer] at inner

/-! ## What leads to parts -/

theorem mem_parts_of_get? (found : v.get? key = some w) : w ∈ v.parts := by
  cases v with
  | obj fields => exact mem_parts_of_field (Assoc.mem_of_get? found)
  | _ => cases found

theorem eq_arr_of_asArr? (list : v.asArr? = some items) : v = arr items := by
  cases v with
  | arr => exact congrArg arr (Option.some.inj list)
  | _ => cases list

theorem eq_obj_of_asObj? (object : v.asObj? = some fields) : v = obj fields := by
  cases v with
  | obj => exact congrArg obj (Option.some.inj object)
  | _ => cases object

/-- The items of a list under a key are parts. -/
theorem mem_parts_of_getArr? (found : v.getArr? key = some items) (member : w ∈ items) :
    w ∈ v.parts := by
  obtain ⟨list, found, isList⟩ := Option.bind_eq_some_iff.1 found
  obtain rfl := eq_arr_of_asArr? isList
  exact mem_parts_trans (mem_parts_of_item member) (mem_parts_of_get? found)

/-- The values in an object under a key are parts. -/
theorem mem_parts_of_getObj? (found : v.getObj? key = some fields) (member : (k, w) ∈ fields) :
    w ∈ v.parts := by
  obtain ⟨object, found, isObject⟩ := Option.bind_eq_some_iff.1 found
  obtain rfl := eq_obj_of_asObj? isObject
  exact mem_parts_trans (mem_parts_of_field member) (mem_parts_of_get? found)

theorem mem_parts_of_getArr?_getD (member : w ∈ (v.getArr? key).getD []) : w ∈ v.parts := by
  cases found : v.getArr? key with
  | none => simp [found] at member
  | some items =>
    rw [found] at member
    exact mem_parts_of_getArr? found member

theorem mem_parts_of_getObj?_getD {field : String × Json}
    (member : field ∈ (v.getObj? key).getD []) : field.2 ∈ v.parts := by
  cases found : v.getObj? key with
  | none => simp [found] at member
  | some fields =>
    rw [found] at member
    exact mem_parts_of_getObj? found member

theorem mem_parts_of_child? {segment : List Char} (found : v.child? segment = some w) :
    w ∈ v.parts := by
  cases v with
  | obj fields => exact mem_parts_of_field (Assoc.mem_of_get? found)
  | arr items =>
    obtain ⟨n, _, found⟩ := Option.bind_eq_some_iff.1 found
    exact mem_parts_of_item (List.mem_of_getElem? found)
  | _ => cases found

/-- A pointer names a part. -/
theorem mem_parts_of_pointer? {pointer : String} (found : v.pointer? pointer = some w) :
    w ∈ v.parts := by
  have walk : ∀ (segments : List (List Char)) (start : Option Json),
      (∀ u, start = some u → u ∈ v.parts) →
      segments.foldl (fun v segment => v.bind (child? · (unescapeSegment segment))) start = some w →
      w ∈ v.parts := by
    intro segments
    induction segments with
    | nil => exact fun start inside reached => inside w reached
    | cons segment rest ih =>
      intro start inside reached
      refine ih _ (fun u next => ?_) reached
      obtain ⟨t, here, next⟩ := Option.bind_eq_some_iff.1 next
      exact mem_parts_trans (mem_parts_of_child? next) (inside t here)
  unfold pointer? at found
  split at found
  · cases found
    exact self_mem_parts v
  · split at found
    · refine walk _ (some v) (fun u same => ?_) found
      cases same
      exact self_mem_parts v
    · cases found

end Json

theorem Document.mem_parts_of_resolveFrom {doc : Document} {start v w : Json} {limit : Nat}
    (resolved : doc.resolveFrom start limit v = .ok w) (part : v ∈ doc.root.parts) :
    w ∈ doc.root.parts := by
  induction limit generalizing v with
  | zero => cases resolved
  | succ limit ih =>
    rw [resolveFrom] at resolved
    split at resolved
    · cases resolved
      exact part
    · split at resolved
      · cases resolved
      · next there =>
        refine ih resolved ?_
        unfold target at there
        split at there
        · cases there
        · split at there
          · cases there
          · next pointer _ found =>
            cases there
            exact Json.mem_parts_of_pointer? found

/-- Following references from a part of a document leads to a part of it. -/
theorem Document.mem_parts_of_resolve {doc : Document} {v w : Json}
    (resolved : doc.resolve v = .ok w) (part : v ∈ doc.root.parts) : w ∈ doc.root.parts :=
  mem_parts_of_resolveFrom resolved part

namespace Json

/-! ## Searching -/

theorem get?_append {α : Type} (key : String) (first rest : List (String × α)) :
    Assoc.get? key (first ++ rest) = (Assoc.get? key first).or (Assoc.get? key rest) := by
  induction first with
  | nil => rfl
  | cons field first ih =>
    obtain ⟨k, v⟩ := field
    by_cases same : k = key
    · simp [Assoc.get?, same]
    · simp [Assoc.get?, same, ih]

/-- A search finds the first field with a key among all fields, in the order of `entries`. -/
theorem find?_eq_get?_entries (key : String) (v : Json) :
    v.find? key = Assoc.get? key v.entries := by
  induction v using induct with
  | arr items ih =>
    rw [find?, entries]
    induction items with
    | nil => rfl
    | cons v items inner =>
      obtain ⟨here, later⟩ := List.forall_mem_cons.1 ih
      rw [findItems?, entriesItems, get?_append, ← here, ← inner later]
      cases v.find? key <;> rfl
  | obj fields ih =>
    rw [find?, entries]
    induction fields with
    | nil => rfl
    | cons field fields inner =>
      obtain ⟨k, v⟩ := field
      obtain ⟨here, later⟩ := List.forall_mem_cons.1 ih
      rw [findFields?, entriesFields, Assoc.get?, get?_append, ← here, ← inner later]
      split
      · rfl
      · cases v.find? key <;> rfl
  | _ => rfl

theorem entriesItems_eq (items : List Json) : entriesItems items = items.flatMap entries := by
  induction items with
  | nil => rfl
  | cons v rest ih => rw [entriesItems, ih, List.flatMap_cons]

theorem entriesFields_eq (fields : List (String × Json)) :
    entriesFields fields = fields.flatMap fun outer => outer :: outer.2.entries := by
  induction fields with
  | nil => rfl
  | cons outer rest ih => rw [entriesFields, ih, List.flatMap_cons, List.cons_append]

theorem mem_entries_arr {field : String × Json} :
    field ∈ (arr items).entries ↔ ∃ v ∈ items, field ∈ v.entries := by
  rw [entries, entriesItems_eq, List.mem_flatMap]

theorem mem_entries_obj {field : String × Json} : field ∈ (obj fields).entries ↔
    ∃ outer ∈ fields, field = outer ∨ field ∈ outer.2.entries := by
  simp only [entries, entriesFields_eq, List.mem_flatMap, List.mem_cons]

/-- The entries of a value are the fields of all objects among its parts. -/
theorem mem_entries_iff {v : Json} {field : String × Json} :
    field ∈ v.entries ↔ ∃ fields, obj fields ∈ v.parts ∧ field ∈ fields := by
  induction v using induct with
  | arr items ih =>
    rw [mem_entries_arr]
    constructor
    · rintro ⟨item, member, inside⟩
      obtain ⟨fields, part, there⟩ := (ih item member).1 inside
      exact ⟨fields, mem_parts_trans part (mem_parts_of_item member), there⟩
    · rintro ⟨fields, part, there⟩
      obtain same | ⟨item, member, part⟩ := mem_parts_arr.1 part
      · cases same
      · exact ⟨item, member, (ih item member).2 ⟨fields, part, there⟩⟩
  | obj fields ih =>
    rw [mem_entries_obj]
    constructor
    · rintro ⟨outer, member, rfl | inside⟩
      · exact ⟨fields, self_mem_parts _, member⟩
      · obtain ⟨inner, part, there⟩ := (ih outer member).1 inside
        exact ⟨inner, mem_parts_trans part (mem_parts_of_field member), there⟩
    · rintro ⟨inner, part, there⟩
      obtain same | ⟨outer, member, part⟩ := mem_parts_obj.1 part
      · cases same
        exact ⟨field, there, .inl rfl⟩
      · exact ⟨outer, member, .inr ((ih outer member).2 ⟨inner, part, there⟩)⟩
  | _ => simp [entries, parts]

/-! ## Properties of all parts -/

variable {v w : Json}

/-- What a value of JSON is, its parts apart: an object has each key once, and an integer fits
64 bits. -/
def Proper : Json → Prop
  | obj fields => (fields.map (·.1)).Nodup
  | int n => Decimal.fitsSigned 63 n ∨ Decimal.fitsUnsigned 64 n
  | _ => True

instance : DecidablePred Proper
  | obj fields => inferInstanceAs (Decidable (fields.map (·.1)).Nodup)
  | int n => inferInstanceAs (Decidable (Decimal.fitsSigned 63 n ∨ Decimal.fitsUnsigned 64 n))
  | null | bool _ | float _ | str _ | arr _ => isTrue trivial

/-- A value of JSON. -/
def WellFormed (v : Json) : Prop :=
  ∀ w ∈ v.parts, w.Proper

/-- Is the value a number of double precision? -/
def isFloat : Json → Bool
  | float _ => true
  | _ => false

/-- All numbers of the value are integers. -/
def Integral (v : Json) : Prop :=
  ∀ w ∈ v.parts, w.isFloat = false

instance (v : Json) : Decidable v.WellFormed := inferInstanceAs (Decidable (∀ w ∈ v.parts, _))

instance (v : Json) : Decidable v.Integral := inferInstanceAs (Decidable (∀ w ∈ v.parts, _))

theorem WellFormed.of_mem (wellFormed : w.WellFormed) (part : v ∈ w.parts) : v.WellFormed :=
  fun u inner => wellFormed u (mem_parts_trans inner part)

/-- An object in a well-formed value has each key once. -/
theorem WellFormed.nodup_keys (wellFormed : v.WellFormed) (key : String) :
    (((v.getObj? key).getD []).map (·.1)).Nodup := by
  cases found : v.getObj? key with
  | none => exact List.nodup_nil
  | some fields =>
    obtain ⟨object, there, isObject⟩ := Option.bind_eq_some_iff.1 found
    obtain rfl := eq_obj_of_asObj? isObject
    exact wellFormed _ (mem_parts_of_get? there)

theorem Integral.of_mem (integral : w.Integral) (part : v ∈ w.parts) : v.Integral :=
  fun u inner => integral u (mem_parts_trans inner part)

theorem depth_le_depthItems {items : List Json} (member : v ∈ items) :
    v.depth ≤ depthItems items := by
  induction items with
  | nil => cases member
  | cons u rest ih =>
    rw [depthItems]
    rcases List.mem_cons.1 member with rfl | member
    · exact Nat.le_max_left v.depth (depthItems rest)
    · exact Nat.le_trans (ih member) (Nat.le_max_right u.depth (depthItems rest))

theorem depth_le_depthFields {fields : List (String × Json)} {field : String × Json}
    (member : field ∈ fields) : field.2.depth ≤ depthFields fields := by
  induction fields with
  | nil => cases member
  | cons head rest ih =>
    rw [depthFields]
    rcases List.mem_cons.1 member with rfl | member
    · exact Nat.le_max_left _ (depthFields rest)
    · exact Nat.le_trans (ih member) (Nat.le_max_right _ (depthFields rest))

/-- A part is nested no deeper than the whole. -/
theorem depth_le_of_mem (part : v ∈ w.parts) : v.depth ≤ w.depth := by
  induction w using induct with
  | arr items ih =>
    rcases mem_parts_arr.1 part with rfl | ⟨item, member, part⟩
    · exact Nat.le_refl _
    · calc
        v.depth ≤ item.depth := ih item member part
        _ ≤ depthItems items := depth_le_depthItems member
        _ ≤ (arr items).depth := Nat.le_succ _
  | obj fields ih =>
    rcases mem_parts_obj.1 part with rfl | ⟨field, member, part⟩
    · exact Nat.le_refl _
    · calc
        v.depth ≤ field.2.depth := ih field member part
        _ ≤ depthFields fields := depth_le_depthFields member
        _ ≤ (obj fields).depth := Nat.le_succ _
  | _ => exact Nat.le_of_eq (congrArg depth (List.mem_singleton.1 part))

end Json

end SchemaBinder
