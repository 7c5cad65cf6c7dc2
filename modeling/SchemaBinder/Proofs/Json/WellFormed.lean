import SchemaBinder.Json.Reader
import SchemaBinder.Proofs.Decimal.Rounding
import SchemaBinder.Proofs.Json.Parts
/-!
# Values that are read

A value that is read from a text is well-formed, and its numbers are finite (`Json.storable_of_read?`).
An integer that does not fit 64 bits is read in double precision, a number that is too large for that
is refused, and a key that is repeated is written in place.

The reader keeps what it has read on a stack.  All of it can be stored at every time
(`Json.Stage.sound_of_step`).
-/

namespace SchemaBinder

/-! ## Tables in writing order -/

namespace Assoc

variable {α : Type} {key : String} {value : α} {table pairs : List (String × α)} {p : String × α}

theorem keys_set : (set key value table).map (·.1) =
    if key ∈ table.map (·.1) then table.map (·.1) else table.map (·.1) ++ [key] := by
  induction table with
  | nil => rfl
  | cons head rest ih => grind [set]

theorem nodup_set (distinct : (table.map (·.1)).Nodup) :
    ((set key value table).map (·.1)).Nodup := by
  rw [keys_set]
  split
  · exact distinct
  · next fresh => grind

theorem mem_set (member : p ∈ set key value table) : p.2 = value ∨ p ∈ table := by
  induction table with
  | nil => grind [set]
  | cons head rest ih => grind [set]

theorem nodup_ofList (pairs : List (String × α)) : ((ofList pairs).map (·.1)).Nodup := by
  suffices each : ∀ table : List (String × α), (table.map (·.1)).Nodup →
      ((pairs.foldl (fun table p => set p.1 p.2 table) table).map (·.1)).Nodup from
    each [] .nil
  induction pairs with
  | nil => exact fun _ distinct => distinct
  | cons head rest ih => exact fun table distinct => ih _ (nodup_set distinct)

/-- The values of a table are among those that were written. -/
theorem mem_ofList (member : p ∈ ofList pairs) : ∃ q ∈ pairs, p.2 = q.2 := by
  suffices each : ∀ table : List (String × α),
      p ∈ pairs.foldl (fun table p => set p.1 p.2 table) table →
        p ∈ table ∨ ∃ q ∈ pairs, p.2 = q.2 by
    simpa using each [] member
  clear member
  induction pairs with
  | nil => exact fun _ member => .inl member
  | cons head rest ih =>
    intro table member
    rcases ih _ member with before | ⟨q, later, same⟩
    · rcases mem_set before with same | before
      · exact .inr ⟨head, List.mem_cons_self, same⟩
      · exact .inl before
    · exact .inr ⟨q, List.mem_cons_of_mem _ later, same⟩

end Assoc

namespace Json

/-! ## Values by their parts -/

/-- A number of double precision is finite. -/
def Finite : Json → Prop
  | float x => x.InRange
  | _ => True

instance : DecidablePred Finite
  | float x => inferInstanceAs (Decidable x.InRange)
  | null | bool _ | int _ | str _ | arr _ | obj _ => isTrue trivial

/-- All numbers of double precision in the value are finite. -/
def InRange (v : Json) : Prop :=
  ∀ w ∈ v.parts, w.Finite

instance (v : Json) : Decidable v.InRange := inferInstanceAs (Decidable (∀ w ∈ v.parts, _))

theorem InRange.of_mem {v w : Json} (inRange : w.InRange) (part : v ∈ w.parts) : v.InRange :=
  fun u inner => inRange u (mem_parts_trans inner part)

/-- A value that can be stored is well-formed and has finite numbers. -/
structure Storable (v : Json) : Prop where
  wellFormed : v.WellFormed
  inRange : v.InRange

variable {v : Json} {items : List Json} {fields : List (String × Json)}

theorem wellFormed_arr_iff : (arr items).WellFormed ↔ ∀ v ∈ items, v.WellFormed :=
  forall_parts_arr.trans (and_iff_right trivial)

theorem wellFormed_obj_iff : (obj fields).WellFormed ↔
    (fields.map (·.1)).Nodup ∧ ∀ field ∈ fields, field.2.WellFormed :=
  forall_parts_obj

theorem storable_arr_iff : (arr items).Storable ↔ ∀ v ∈ items, v.Storable := by
  constructor
  · intro ⟨wellFormed, inRange⟩ v member
    exact ⟨wellFormed_arr_iff.1 wellFormed v member, (forall_parts_arr.1 inRange).2 v member⟩
  · intro each
    exact ⟨wellFormed_arr_iff.2 fun v member => (each v member).wellFormed,
      forall_parts_arr.2 ⟨trivial, fun v member => (each v member).inRange⟩⟩

theorem storable_obj_iff : (obj fields).Storable ↔
    (fields.map (·.1)).Nodup ∧ ∀ field ∈ fields, field.2.Storable := by
  constructor
  · intro ⟨wellFormed, inRange⟩
    obtain ⟨distinct, each⟩ := wellFormed_obj_iff.1 wellFormed
    exact ⟨distinct, fun field member =>
      ⟨each field member, (forall_parts_obj.1 inRange).2 field member⟩⟩
  · intro ⟨distinct, each⟩
    exact ⟨wellFormed_obj_iff.2 ⟨distinct, fun field member => (each field member).wellFormed⟩,
      forall_parts_obj.2 ⟨trivial, fun field member => (each field member).inRange⟩⟩

theorem storable_of_single (single : v.parts = [v]) (proper : v.Proper) (finite : v.Finite) :
    v.Storable := by
  constructor <;> intro u part <;> rw [single, List.mem_singleton] at part <;> rw [part]
  · exact proper
  · exact finite

theorem storable_set {key : String} (storable : (obj fields).Storable) (value : v.Storable) :
    (obj (Assoc.set key v fields)).Storable := by
  obtain ⟨distinct, each⟩ := storable_obj_iff.1 storable
  refine storable_obj_iff.2 ⟨Assoc.nodup_set distinct, fun field member => ?_⟩
  rcases Assoc.mem_set member with same | before
  · rw [same]
    exact value
  · exact each field before

/-! ## Numbers -/

namespace Number

theorem storable_float {x : Double} (inRange : x.InRange) : (float x).Storable :=
  storable_of_single rfl trivial inRange

theorem storable_int {n : Int} (fits : Decimal.fitsSigned 63 n ∨ Decimal.fitsUnsigned 64 n) :
    (int n).Storable :=
  storable_of_single rfl fits trivial

/-- The digits that are gathered fit 64 bits. -/
theorem fits_gather {n : Nat} (cs : List Char) (fits : Decimal.fits 64 n = true) :
    Decimal.fits 64 (gather n cs).1 = true := by
  induction cs generalizing n with
  | nil => exact fits
  | cons c cs ih =>
    rw [gather]
    split
    · next more => exact ih more
    · exact fits

theorem inRange_of_scale? {fuel : Nat} {x y : Double} {power : Int} (inRange : x.InRange)
    (scaled : scale? fuel x power = some y) : y.InRange := by
  induction fuel generalizing x power with
  | zero =>
    cases scaled
    exact inRange
  | succ fuel ih =>
    rw [scale?] at scaled
    split at scaled
    · split at scaled
      · exact Double.inRange_of_mul? scaled
      · exact Double.inRange_of_div? scaled
    · split at scaled
      · cases scaled
        exact inRange
      · split at scaled
        · cases scaled
        · obtain ⟨z, smaller, rest⟩ := Option.bind_eq_some_iff.1 scaled
          exact ih (Double.inRange_of_div? smaller) rest

theorem storable_of_ofParts? {negative : Bool} {n : Nat} {power : Int}
    (read : ofParts? negative n power = some v) : v.Storable := by
  obtain ⟨x, rounded, rest⟩ := Option.bind_eq_some_iff.1 read
  obtain ⟨y, scaled, rfl⟩ := Option.map_eq_some_iff.1 rest
  have inRange := inRange_of_scale? (Double.inRange_of_ofNat? rounded) scaled
  cases negative
  · exact storable_float inRange
  · exact storable_float inRange.neg

theorem storable_of_ofWhole? {negative : Bool} {n left : Nat} (fits : Decimal.fits 64 n = true)
    (read : ofWhole? negative n left = some v) : v.Storable := by
  unfold ofWhole? at read
  split at read
  · exact storable_of_ofParts? read
  · split at read
    · cases read
      exact storable_int (.inr fits)
    · split at read
      · obtain ⟨x, rounded, rfl⟩ := Option.map_eq_some_iff.1 read
        exact storable_float (Double.inRange_of_ofNat? rounded).neg
      · next small =>
        cases read
        refine storable_int (.inl (Decimal.fitsSigned_iff.2 ?_))
        have half : Nat.pow 2 63 = 2 ^ 63 := rfl
        rw [half] at small ⊢
        omega

theorem storable_of_withExponent? {negative : Bool} {n : Nat} {power : Int} {cs : List Char}
    (read : withExponent? negative n power cs = some v) : v.Storable := by
  obtain ⟨⟨down, e⟩, _, read⟩ := Option.bind_eq_some_iff.1 read
  dsimp only at read
  split at read
  · exact storable_of_ofParts? read
  · split at read
    · cases read
      exact storable_float (Double.inRange_zero negative)
    · cases read

theorem storable_of_withFraction? {negative : Bool} {whole left : Nat} {cs : List Char}
    (read : withFraction? negative whole left cs = some v) : v.Storable := by
  simp only [withFraction?] at read
  split at read
  · cases read
  · split at read
    · exact storable_of_ofParts? read
    · split at read
      · exact storable_of_withExponent? read
      · cases read

theorem storable_of_unsigned? {negative : Bool} {cs : List Char}
    (read : unsigned? negative cs = some v) : v.Storable := by
  have fits := fits_gather (n := 0) (cs.takeWhile Char.isDigit) (by decide)
  simp only [unsigned?] at read
  split at read
  · cases read
  · split at read
    · exact storable_of_ofWhole? fits read
    · split at read
      · exact storable_of_withFraction? read
      · split at read
        · exact storable_of_withExponent? read
        · cases read

theorem storable_of_ofChars? {cs : List Char} (read : ofChars? cs = some v) : v.Storable := by
  unfold ofChars? at read
  split at read <;> exact storable_of_unsigned? read

end Number

/-! ## Tokens -/

namespace Token

/-- A value that is a token can be stored. -/
def Sound : Token → Prop
  | scalar v => v.Storable
  | _ => True

theorem storable_of_ofWord? {w : List Char} (named : ofWord? w = some v) : v.Storable := by
  unfold ofWord? at named
  split at named
  · cases named
    exact storable_of_single rfl trivial trivial
  · split at named
    · cases named
      exact storable_of_single rfl trivial trivial
    · split at named
      · cases named
        exact storable_of_single rfl trivial trivial
      · cases named

theorem sound_of_ofMark? {c : Char} {t : Token} (mark : ofMark? c = some t) : t.Sound := by
  unfold ofMark? at mark
  split at mark <;> cases mark <;> trivial

theorem sound_cons (t : Token) {ts : List Token} {scanned : Option (List Token)} (first : t.Sound)
    (rest : ∀ {ts}, scanned = some ts → ∀ t ∈ ts, t.Sound)
    (whole : scanned.map (t :: ·) = some ts) : ∀ t ∈ ts, t.Sound := by
  obtain ⟨ts, found, rfl⟩ := Option.map_eq_some_iff.1 whole
  exact List.forall_mem_cons.2 ⟨first, rest found⟩

theorem sound_of_scan? {cs : List Char} {ts : List Token} (scanned : scan? cs = some ts) :
    ∀ t ∈ ts, t.Sound := by
  fun_induction scan? cs generalizing ts
  case case1 =>
    cases scanned
    exact List.forall_mem_nil _
  case case2 ih => exact ih scanned
  case case4 ih => exact sound_cons (scalar (str _)) (storable_of_single rfl trivial trivial) ih scanned
  case case5 mark ih => exact sound_cons _ (sound_of_ofMark? mark) ih scanned
  case case6 named ih => exact sound_cons (scalar _) (storable_of_ofWord? named) ih scanned
  case case8 number ih => exact sound_cons (scalar _) (Number.storable_of_ofChars? number) ih scanned
  case case3 | case7 | case9 => cases scanned

end Token

/-! ## What has been read -/

/-- What is read of a list or an object that is open can be stored. -/
def Open.Sound : Open → Prop
  | .list items => ∀ v ∈ items, v.Storable
  | .field fields _ => (obj fields).Storable

theorem Open.sound_cons (value : v.Storable) (sound : (Open.list items).Sound) :
    (Open.list (v :: items)).Sound :=
  List.forall_mem_cons.2 ⟨value, sound⟩

namespace Stage

/-- What has been read last can be stored. -/
def Sound : Stage → Prop
  | key fields => (obj fields).Storable
  | done v => v.Storable
  | _ => True

variable {stage stage' : Stage} {os os' : List Open} {t : Token}

theorem storable_obj_nil : (obj []).Storable :=
  storable_obj_iff.2 ⟨.nil, List.forall_mem_nil _⟩

/-- What is read can be stored all the way. -/
theorem sound_of_step (sound : stage.Sound) (opened : ∀ o ∈ os, o.Sound) (token : t.Sound)
    (step : stage.step os t = some (stage', os')) : stage'.Sound ∧ ∀ o ∈ os', o.Sound := by
  unfold Stage.step at step
  split at step
  case h_1 | h_5 =>
    cases step
    exact ⟨token, opened⟩
  case h_2 | h_6 =>
    split at step <;> cases step
    exact ⟨trivial, List.forall_mem_cons.2 ⟨List.forall_mem_nil _, opened⟩⟩
  case h_3 | h_7 =>
    split at step <;> cases step
    exact ⟨trivial, opened⟩
  case h_4 =>
    cases step
    exact ⟨storable_arr_iff.2 (List.forall_mem_nil _), (List.forall_mem_cons.1 opened).2⟩
  case h_8 =>
    cases step
    exact ⟨storable_obj_nil, opened⟩
  case h_9 =>
    cases step
    exact ⟨trivial, List.forall_mem_cons.2 ⟨storable_obj_nil, opened⟩⟩
  case h_10 =>
    cases step
    exact ⟨trivial, List.forall_mem_cons.2 ⟨sound, opened⟩⟩
  case h_11 =>
    cases step
    exact ⟨trivial, opened⟩
  case h_12 =>
    cases step
    obtain ⟨items, outer⟩ := List.forall_mem_cons.1 opened
    exact ⟨trivial, List.forall_mem_cons.2 ⟨Open.sound_cons sound items, outer⟩⟩
  case h_13 =>
    cases step
    obtain ⟨items, outer⟩ := List.forall_mem_cons.1 opened
    refine ⟨storable_arr_iff.2 fun v member => ?_, outer⟩
    exact Open.sound_cons sound items v (List.mem_reverse.1 member)
  case h_14 | h_15 =>
    cases step
    obtain ⟨fields, outer⟩ := List.forall_mem_cons.1 opened
    exact ⟨storable_set fields sound, outer⟩
  case h_16 => cases step

end Stage

theorem storable_of_ofTokensFrom? {stage : Stage} {os : List Open} {ts : List Token}
    (sound : stage.Sound) (opened : ∀ o ∈ os, o.Sound) (tokens : ∀ t ∈ ts, t.Sound)
    (read : ofTokensFrom? stage os ts = some v) : v.Storable := by
  induction ts generalizing stage os with
  | nil =>
    unfold ofTokensFrom? at read
    split at read
    · cases read
      exact sound
    · cases read
    · next impossible => cases impossible
  | cons t ts ih =>
    rw [ofTokensFrom?] at read
    obtain ⟨here, later⟩ := List.forall_mem_cons.1 tokens
    cases step : stage.step os t with
    | none =>
      rw [step] at read
      cases read
    | some next =>
      rw [step] at read
      obtain ⟨sound', opened'⟩ := Stage.sound_of_step sound opened here step
      exact ih sound' opened' later read

/-- A value that is read can be stored. -/
theorem storable_of_read? {text : String} (read : read? text = some v) : v.Storable := by
  obtain ⟨ts, scanned, value⟩ := Option.bind_eq_some_iff.1 read
  exact storable_of_ofTokensFrom? (show Stage.value.Sound from trivial) (List.forall_mem_nil _)
    (Token.sound_of_scan? scanned) value

end Json

end SchemaBinder
