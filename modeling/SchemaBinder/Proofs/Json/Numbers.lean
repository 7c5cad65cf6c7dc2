import SchemaBinder.Json.Printer
import SchemaBinder.Json.Number
import SchemaBinder.Proofs.Decimal.Shortest
/-!
# Numbers that are written are read

An integer of 64 bits is read as it is written (`ofChars?_intText`).  A number of double precision is
written as its shortest decimal, and is read as some number of double precision
(`InRange.exists_ofChars?_render`).  That need not be the number that was written, since reading rounds
twice; but it is never refused, although the decimal can be greater than the number.

A decimal is written around a point or with an exponent (`positional`).  Both are read as a whole number
times a power of ten (`unsigned?_positional`).  The whole number fits 64 bits, and the product is not too
large to be read (`exists_ofParts?`).
-/

namespace SchemaBinder

namespace Double

variable {x y : Double}

theorem value_nonneg (x : Double) : 0 ≤ x.value := by
  rw [value]
  positivity

/-- The product of two numbers is a number if it is not too large. -/
theorem exists_mul? (small : x.value * y.value < tooLarge) : ∃ z, x.mul? y = some z := by
  have product : ((x.ratio.1 * y.ratio.1 : Nat) : ℚ) / (x.ratio.2 * y.ratio.2 : Nat) =
      x.value * y.value := by
    rw [Nat.cast_mul, Nat.cast_mul, mul_div_mul_comm, ratio_div, ratio_div]
  rw [← product] at small
  exact exists_ofRatio? (Nat.mul_pos x.ratio_den_pos y.ratio_den_pos) small

/-- The quotient of two numbers is a number if it is not too large, and not much greater then. -/
theorem exists_div? (nonzero : y.ratio.1 ≠ 0) (small : x.value / y.value < tooLarge) :
    ∃ z, x.div? y = some z ∧ z.value ≤ 2 * (x.value / y.value) := by
  have positive : 0 < x.ratio.2 * y.ratio.1 :=
    Nat.mul_pos x.ratio_den_pos (Nat.pos_of_ne_zero nonzero)
  have quotient : ((x.ratio.1 * y.ratio.2 : Nat) : ℚ) / (x.ratio.2 * y.ratio.1 : Nat) =
      x.value / y.value := by
    rw [Nat.cast_mul, Nat.cast_mul, mul_div_mul_comm, ← ratio_div x, ← ratio_div y, div_eq_mul_inv,
      div_eq_mul_inv _ (_ / _), inv_div]
  have asRatio : x.div? y = ofRatio? (x.negative != y.negative) (x.ratio.1 * y.ratio.2)
      (x.ratio.2 * y.ratio.1) := if_neg nonzero
  rw [← quotient] at small ⊢
  rw [asRatio]
  obtain ⟨z, rounded⟩ := exists_ofRatio? positive small
  exact ⟨z, rounded, value_le_of_ofRatio? positive rounded⟩

end Double

namespace Json.Number

open Double

/-! ## Powers of ten -/

theorem powerOfTen_ratio : ∀ k < 309,
    10 ^ k * (powerOfTen k).ratio.2 ≤ 2 * (powerOfTen k).ratio.1 ∧
      (powerOfTen k).ratio.1 * 2 ^ 53 ≤ 10 ^ k * (powerOfTen k).ratio.2 * (2 ^ 53 + 1) := by
  decide +kernel

/-- A power of ten is rounded by so much at most. -/
theorem powerOfTen_value {k : Nat} (small : k ≤ 308) :
    10 ^ k / 2 ≤ (powerOfTen k).value ∧ (powerOfTen k).value ≤ 10 ^ k * (1 + 1 / 2 ^ 53) := by
  obtain ⟨least, most⟩ := powerOfTen_ratio k (Nat.lt_succ_of_le small)
  have positive : (0 : ℚ) < (powerOfTen k).ratio.2 := Nat.cast_pos.2 (powerOfTen k).ratio_den_pos
  rw [← ratio_div]
  constructor
  · rw [le_div_iff₀ positive]
    have := (Nat.cast_le (α := ℚ)).2 least
    push_cast at this
    linarith
  · rw [div_le_iff₀ positive]
    have := (Nat.cast_le (α := ℚ)).2 most
    push_cast at this
    linarith

theorem powerOfTen_nonzero {k : Nat} (small : k ≤ 308) : (powerOfTen k).ratio.1 ≠ 0 := by
  have least := (powerOfTen_ratio k (Nat.lt_succ_of_le small)).1
  have := Nat.mul_pos (Nat.pow_pos (n := k) (show 0 < 10 by decide)) (powerOfTen k).ratio_den_pos
  omega

/-! ## Scaling -/

theorem lt_tooLarge : (2 : ℚ) ^ 66 < tooLarge := by
  have power : (2 : ℚ) ^ (20 : ℤ) ≤ 2 ^ (971 : ℤ) := zpow_le_zpow_right₀ one_le_two (by norm_num)
  rw [tooLarge]
  generalize (2 : ℚ) ^ (971 : ℤ) = top at power ⊢
  norm_num at power
  linarith

/-- A number that is not very large can be divided by a power of ten, and the quotient is not much
greater than it should be. -/
theorem exists_div?_powerOfTen {x : Double} (small : x.value ≤ 2 ^ 65) {k : Nat} (few : k ≤ 308) :
    ∃ z, x.div? (powerOfTen k) = some z ∧ z.value ≤ 4 * (x.value / 10 ^ k) := by
  have power : (0 : ℚ) < 10 ^ k := by positivity
  have divided : x.value / (powerOfTen k).value ≤ 2 * (x.value / 10 ^ k) := by
    calc
      x.value / (powerOfTen k).value ≤ x.value / (10 ^ k / 2) :=
        div_le_div_of_nonneg_left x.value_nonneg (by positivity) (powerOfTen_value few).1
      _ = 2 * (x.value / 10 ^ k) := by field_simp
  have below : x.value / 10 ^ k ≤ x.value :=
    div_le_self x.value_nonneg (one_le_pow₀ (by norm_num))
  have within : x.value / (powerOfTen k).value ≤ 2 ^ 66 := by
    generalize x.value / 10 ^ k = scaled at divided below
    linarith
  obtain ⟨z, quotient, bound⟩ := exists_div? (powerOfTen_nonzero few)
    (lt_of_le_of_lt within lt_tooLarge)
  refine ⟨z, quotient, bound.trans ?_⟩
  generalize x.value / 10 ^ k = scaled at divided ⊢
  linarith

/-- Such a number can be scaled down by any power of ten. -/
theorem exists_scale?_of_neg (fuel : Nat) {x : Double} {power : Int} (negative : power < 0)
    (small : x.value ≤ 2 ^ 65) : ∃ y, scale? fuel x power = some y := by
  induction fuel generalizing x power with
  | zero => exact ⟨x, rfl⟩
  | succ fuel ih =>
    rw [scale?]
    split
    · next few =>
      rw [if_neg (by omega)]
      obtain ⟨z, quotient, _⟩ := exists_div?_powerOfTen small few
      exact ⟨z, quotient⟩
    · split
      · exact ⟨x, rfl⟩
      · obtain ⟨z, quotient, bound⟩ := exists_div?_powerOfTen small (Nat.le_refl 308)
        rw [if_neg (by omega), quotient, Option.bind_some]
        refine ih (by omega) (bound.trans (le_trans ?_ small))
        have step : (4 : ℚ) ≤ 10 ^ 308 :=
          le_trans (by norm_num) (pow_le_pow_right₀ (by norm_num) (show 1 ≤ 308 by decide))
        have : x.value / 10 ^ 308 ≤ x.value / 4 :=
          div_le_div_of_nonneg_left x.value_nonneg (by norm_num) step
        generalize x.value / 10 ^ 308 = quotient at this ⊢
        linarith

theorem exists_scale?_of_nonneg {fuel : Nat} {x : Double} {k : Nat} (few : k ≤ 308)
    (small : x.value * (10 ^ k * (1 + 1 / 2 ^ 53)) < tooLarge) :
    ∃ y, scale? (fuel + 1) x k = some y := by
  rw [scale?, if_pos (by simpa using few), if_pos (by omega), Int.natAbs_natCast]
  refine exists_mul? (lt_of_le_of_lt ?_ small)
  exact mul_le_mul_of_nonneg_left (powerOfTen_value few).2 x.value_nonneg

/-! ## Significands -/

/-- A whole number has all its digits. -/
theorem minExponent_le_scaleOf (n : Nat) : minExponent ≤ scaleOf n 1 := by
  have : Nat.log2 1 = 0 := by decide
  rw [scaleOf, this]
  dsimp only
  split <;> rw [minExponent] <;> omega

theorem ofNat?_bound {n : Nat} (small : n < 2 ^ 64) : ∃ x, ofNat? n = some x ∧
    x.value ≤ n * (1 + 1 / 2 ^ 53) := by
  have few : (n : ℚ) < 2 ^ 64 := by exact_mod_cast small
  have low := lt_tooLarge
  obtain ⟨x, rounded⟩ : ∃ x, ofRatio? false n 1 = some x :=
    exists_ofRatio? Nat.one_pos (by rw [Nat.cast_one, div_one]; linarith)
  refine ⟨x, rounded, ?_⟩
  by_cases nonzero : n = 0
  · have zero := value_le_of_ofRatio? Nat.one_pos rounded
    simpa [nonzero] using zero
  · have near := value_le_of_normal nonzero Nat.one_pos (minExponent_le_scaleOf n) rounded
    rwa [Nat.cast_one, div_one] at near

/-- A number of 64 bits is read with every power of ten that is not too great. -/
theorem exists_ofParts? (negative : Bool) {n : Nat} (fits : n < 2 ^ 64) {power : Int}
    (small : 0 ≤ power → power ≤ 308 ∧ n * 10 ^ power * (1 + 1 / 2 ^ 53) ^ 2 < tooLarge) :
    ∃ y, ofParts? negative n power = some (.float y) := by
  obtain ⟨x, rounded, near⟩ := ofNat?_bound fits
  have scaled : ∃ y, scale? 5 x power = some y := by
    rcases lt_or_ge power 0 with down | up
    · refine exists_scale?_of_neg 5 down (near.trans ?_)
      have : (n : ℚ) ≤ 2 ^ 64 := by exact_mod_cast fits.le
      linarith
    · obtain ⟨few, small⟩ := small up
      lift power to Nat using up
      refine exists_scale?_of_nonneg (by omega) (lt_of_le_of_lt ?_ small)
      rw [zpow_natCast]
      calc
        x.value * (10 ^ power * (1 + 1 / 2 ^ 53) : ℚ)
          ≤ n * (1 + 1 / 2 ^ 53) * (10 ^ power * (1 + 1 / 2 ^ 53)) := by gcongr
        _ = n * 10 ^ power * (1 + 1 / 2 ^ 53) ^ 2 := by ring
  obtain ⟨y, scaled⟩ := scaled
  rw [ofParts?, rounded, Option.bind_some, scaled]
  exact ⟨_, rfl⟩


/-! ## Digits -/

theorem le_ofDigitChars (n : Nat) (cs : List Char) : n ≤ Nat.ofDigitChars 10 cs n := by
  rw [Nat.ofDigitChars_eq_ofDigitChars_zero]
  have := Nat.le_mul_of_pos_left n (Nat.pow_pos (n := cs.length) (show 0 < 10 by decide))
  omega

/-- Digits whose number fits 64 bits are all gathered. -/
theorem gather_eq {cs : List Char} {n : Nat}
    (fits : Decimal.fits 64 (Nat.ofDigitChars 10 cs n) = true) :
    gather n cs = (Nat.ofDigitChars 10 cs n, cs.length, 0) := by
  induction cs generalizing n with
  | nil => rfl
  | cons c cs ih =>
    have next : n * 10 + digit c = 10 * n + (c.toNat - '0'.toNat) := by
      rw [Nat.mul_comm, digit]
    rw [Nat.ofDigitChars_cons] at fits ⊢
    have here : Decimal.fits 64 (10 * n + (c.toNat - '0'.toNat)) = true := by
      have := le_ofDigitChars (10 * n + (c.toNat - '0'.toNat)) cs
      simp only [Decimal.fits, decide_eq_true_eq] at fits ⊢
      omega
    simp only [gather, next, here, if_true, ih fits, List.length_cons]

theorem isDigit_toDigits (n : Nat) : ∀ c ∈ Nat.toDigits 10 n, c.isDigit = true :=
  fun _ member => Nat.isDigit_of_mem_toDigits (by decide) (by decide) member

/-- Only the number zero starts with the digit zero. -/
theorem head?_toDigits {n : Nat} (positive : 0 < n) : (Nat.toDigits 10 n).head? ≠ some '0' := by
  induction n using Nat.strongRecOn with
  | ind n ih =>
    by_cases small : n < 10
    · rw [Nat.toDigits_of_lt_base small]
      have : ∀ n < 10, 0 < n → [n.digitChar].head? ≠ some '0' := by decide
      exact this n small positive
    · have ih := ih (n / 10) (by omega) (by omega)
      rw [Nat.toDigits_of_base_le (by decide) (by omega)]
      cases digits : Nat.toDigits 10 (n / 10) with
      | nil => exact absurd digits Nat.toDigits_ne_nil
      | cons c cs =>
        rw [digits] at ih
        exact ih

/-- The digits of a whole number: no zero stands before others. -/
structure Whole (ds : List Char) : Prop where
  digits : ∀ c ∈ ds, c.isDigit = true
  nonempty : ds ≠ []
  leading : ds.head? = some '0' → ds.length = 1

theorem whole_toDigits (n : Nat) : Whole (Nat.toDigits 10 n) where
  digits := isDigit_toDigits n
  nonempty := Nat.toDigits_ne_nil
  leading := by
    rcases Nat.eq_zero_or_pos n with rfl | positive
    · exact fun _ => rfl
    · exact fun zero => absurd zero (head?_toDigits positive)

theorem ended_cons {c : Char} (other : c.isDigit = false) (tail : List Char) :
    ∀ d ∈ (c :: tail).head?, d.isDigit = false := by
  rintro d ⟨⟩
  exact other

theorem ended_nil : ∀ c ∈ ([] : List Char).head?, c.isDigit = false := by
  simp

/-- Characters of a kind end where the text goes on with another. -/
theorem split_append {p : Char → Bool} {front tail : List Char} (all : ∀ c ∈ front, p c = true)
    (ended : ∀ c ∈ tail.head?, p c = false) :
    (front ++ tail).takeWhile p = front ∧ (front ++ tail).dropWhile p = tail := by
  rw [List.takeWhile_append_of_pos all, List.dropWhile_append_of_pos all]
  cases tail with
  | nil => simp
  | cons c tail =>
    have other : p c = false := ended c rfl
    rw [List.takeWhile_cons_of_neg (by simp [other]), List.dropWhile_cons_of_neg (by simp [other]),
      List.append_nil]
    exact ⟨rfl, rfl⟩

/-- The number whose whole part is `n`, by the text after it. -/
def afterWhole? (negative : Bool) (n : Nat) : List Char → Option Json
  | [] => ofWhole? negative n 0
  | c :: rest =>
    if c = '.' then withFraction? negative n 0 rest
    else if c = 'e' ∨ c = 'E' then withExponent? negative n 0 rest
    else none

/-- The number whose digits are those of `n`, by the text after the last one. -/
def afterFraction? (negative : Bool) (n : Nat) (power : Int) : List Char → Option Json
  | [] => ofParts? negative n power
  | c :: rest => if c = 'e' ∨ c = 'E' then withExponent? negative n power rest else none

theorem unsigned?_append (negative : Bool) {ds tail : List Char} (whole : Whole ds)
    (ended : ∀ c ∈ tail.head?, c.isDigit = false)
    (fits : Decimal.fits 64 (Nat.ofDigitChars 10 ds 0) = true) :
    unsigned? negative (ds ++ tail) = afterWhole? negative (Nat.ofDigitChars 10 ds 0) tail := by
  obtain ⟨all, after⟩ := split_append whole.digits ended
  have leading : (ds.head? == some '0' && decide (1 < ds.length)) = false := by
    rw [Bool.and_eq_false_iff, beq_eq_false_iff_ne, decide_eq_false_iff_not]
    exact or_iff_not_imp_left.2 fun zero => by
      rw [whole.leading (not_not.1 zero)]
      exact Nat.lt_irrefl 1
  have nonempty := List.isEmpty_eq_false_iff.2 whole.nonempty
  simp only [unsigned?, all, after, gather_eq fits, leading, nonempty, Bool.or_false,
    Bool.false_eq_true, if_false]
  cases tail <;> rfl

theorem withFraction?_append (negative : Bool) {n : Nat} {ds tail : List Char}
    (digits : ∀ c ∈ ds, c.isDigit = true) (nonempty : ds ≠ [])
    (ended : ∀ c ∈ tail.head?, c.isDigit = false)
    (fits : Decimal.fits 64 (Nat.ofDigitChars 10 ds n) = true) :
    withFraction? negative n 0 (ds ++ tail) =
      afterFraction? negative (Nat.ofDigitChars 10 ds n) (-ds.length) tail := by
  obtain ⟨all, after⟩ := split_append digits ended
  have nonempty := List.isEmpty_eq_false_iff.2 nonempty
  have power : ((0 : Nat) : Int) - ds.length = -ds.length := by omega
  simp only [withFraction?, all, after, gather_eq fits, nonempty, power, Bool.false_eq_true, if_false]
  cases tail <;> rfl

/-- Digits around a point are read as a whole number, and those after it are places. -/
theorem unsigned?_point (negative : Bool) {ds fraction tail : List Char} (whole : Whole ds)
    (digits : ∀ c ∈ fraction, c.isDigit = true) (nonempty : fraction ≠ [])
    (ended : ∀ c ∈ tail.head?, c.isDigit = false)
    (fits : Decimal.fits 64 (Nat.ofDigitChars 10 (ds ++ fraction) 0) = true) :
    unsigned? negative (ds ++ '.' :: (fraction ++ tail)) =
      afterFraction? negative (Nat.ofDigitChars 10 (ds ++ fraction) 0) (-fraction.length) tail := by
  rw [Nat.ofDigitChars_append] at fits ⊢
  have front : Decimal.fits 64 (Nat.ofDigitChars 10 ds 0) = true := by
    rw [Decimal.fits, decide_eq_true_eq] at fits ⊢
    exact (le_ofDigitChars _ fraction).trans_lt fits
  rw [unsigned?_append negative whole (ended_cons rfl _) front, afterWhole?, if_pos rfl,
    withFraction?_append negative digits nonempty ended fits]

/-! ## Integers -/

/-- The digits of a number that fits 64 bits are read as that number. -/
theorem unsigned?_toDigits (negative : Bool) {n : Nat} (fits : Decimal.fits 64 n = true) :
    unsigned? negative (Nat.toDigits 10 n) = ofWhole? negative n 0 := by
  have value : Nat.ofDigitChars 10 (Nat.toDigits 10 n) 0 = n := Nat.ofDigitChars_ten_toDigits
  have read := unsigned?_append negative (whole_toDigits n) ended_nil (by rwa [value])
  rwa [List.append_nil, value] at read

/-- A text that starts with a digit has no sign. -/
theorem ofChars?_of_isDigit {cs : List Char} (first : ∀ c ∈ cs.head?, c.isDigit = true) :
    ofChars? cs = unsigned? false cs := by
  unfold ofChars?
  split
  · exact absurd (first '-' rfl) (by decide)
  · rfl

/-- An integer of 64 bits is read as it is written. -/
theorem ofChars?_intText {n : Int}
    (fits : Decimal.fitsSigned 63 n = true ∨ Decimal.fitsUnsigned 64 n = true) :
    ofChars? (Token.intText n) = some (.int n) := by
  have bounds : -(2 ^ 63) ≤ n ∧ n < 2 ^ 64 := by
    have half : ((Nat.pow 2 63 : Nat) : Int) = 2 ^ 63 := rfl
    have whole : ((Nat.pow 2 64 : Nat) : Int) = 2 ^ 64 := rfl
    rw [Decimal.fitsSigned_iff, Decimal.fitsUnsigned_iff, half, whole] at fits
    omega
  have word : Decimal.fits 64 n.natAbs = true := by
    have whole : Nat.pow 2 64 = 2 ^ 64 := rfl
    rw [Decimal.fits, decide_eq_true_eq, whole]
    omega
  by_cases negative : n < 0
  · have small : ¬(n.natAbs = 0 ∨ Nat.pow 2 63 < n.natAbs) := by
      have half : Nat.pow 2 63 = 2 ^ 63 := rfl
      rw [half]
      omega
    rw [Token.intText, if_pos negative]
    show unsigned? true _ = _
    rw [unsigned?_toDigits true word]
    have same : -(n.natAbs : Int) = n := by omega
    simp only [ofWhole?, small, if_false, ne_eq, not_true_eq_false, Bool.not_true,
      Bool.false_eq_true, same]
  · rw [Token.intText, if_neg negative]
    have first : ∀ c ∈ (Nat.toDigits 10 n.natAbs).head?, c.isDigit = true := fun c first =>
      isDigit_toDigits n.natAbs c (List.mem_of_mem_head? first)
    rw [ofChars?_of_isDigit first, unsigned?_toDigits false word]
    have same : (n.natAbs : Int) = n := by omega
    simp only [ofWhole?, ne_eq, not_true_eq_false, if_false, Bool.not_false, if_true, same]

/-! ## Decimals -/

/-- The text of an exponent. -/
def exponentText (e : Int) : List Char :=
  (if e < 0 then '-' else '+') :: Nat.toDigits 10 e.natAbs

theorem exponent?_exponentText (e : Int) :
    exponent? (exponentText e) = some (decide (e < 0), e.natAbs) := by
  have value : (Nat.toDigits 10 e.natAbs).foldl (fun n c => n * 10 + digit c) 0 = e.natAbs := by
    have step : (fun n c => n * 10 + digit c) = fun n (c : Char) => 10 * n + (c.toNat - '0'.toNat) := by
      funext n c
      rw [Nat.mul_comm, digit]
    rw [step, ← Nat.ofDigitChars_eq_foldl, Nat.ofDigitChars_ten_toDigits]
  have all : (Nat.toDigits 10 e.natAbs).all Char.isDigit = true :=
    List.all_eq_true.2 (isDigit_toDigits e.natAbs)
  have nonempty : (Nat.toDigits 10 e.natAbs).isEmpty = false :=
    List.isEmpty_eq_false_iff.2 Nat.toDigits_ne_nil
  rw [exponentText]
  split <;> rename_i sign <;> simp [exponent?, value, all, nonempty, sign]

/-- An exponent that is written is added to the power. -/
theorem withExponent?_exponentText (negative : Bool) (n : Nat) (power : Int) {e : Int}
    (few : e.natAbs < 2 ^ 31) :
    withExponent? negative n power (exponentText e) = ofParts? negative n (power + e) := by
  have fits : Decimal.fits 31 e.natAbs = true := decide_eq_true few
  rw [withExponent?, exponent?_exponentText, Option.bind_some]
  simp only [fits, if_true, decide_eq_true_eq]
  congr 1
  split <;> omega

/-- The digits of a decimal around the point after the first. -/
def mantissa : List Char → List Char
  | [] => []
  | [d] => [d]
  | d :: rest => d :: '.' :: rest

section

variable {negative : Bool} {ds : List Char} (whole : Whole ds)
  (fits : Decimal.fits 64 (Nat.ofDigitChars 10 ds 0) = true)

include whole fits

theorem unsigned?_mantissa {e : Int} (few : e.natAbs < 2 ^ 31) :
    unsigned? negative (mantissa ds ++ 'e' :: exponentText e) =
      ofParts? negative (Nat.ofDigitChars 10 ds 0) (e - ds.length + 1) := by
  match ds with
  | [] => exact absurd rfl whole.nonempty
  | [d] =>
    rw [mantissa, unsigned?_append negative whole (ended_cons rfl _) fits, afterWhole?,
      if_neg (by decide), if_pos (.inl rfl), withExponent?_exponentText _ _ _ few]
    congr 1
    simp
  | d :: next :: rest =>
    obtain ⟨digit, others⟩ := List.forall_mem_cons.1 whole.digits
    have first : Whole [d] := ⟨by simpa using digit, by simp, fun _ => rfl⟩
    have exponent : ∀ c ∈ ('e' :: exponentText e).head?, c.isDigit = false := ended_cons rfl _
    have read := unsigned?_point negative first others (by simp) exponent fits
    rw [afterFraction?, if_pos (.inl rfl), withExponent?_exponentText _ _ _ few] at read
    refine read.trans (congrArg _ ?_)
    simp only [List.length_cons]
    omega

theorem unsigned?_leadingZeros (k : Nat) :
    unsigned? negative ('0' :: '.' :: List.replicate k '0' ++ ds) =
      ofParts? negative (Nat.ofDigitChars 10 ds 0) (-(k + ds.length)) := by
  have zero : Whole ['0'] := whole_toDigits 0
  have all : ∀ c ∈ List.replicate k '0' ++ ds, c.isDigit = true := by
    intro c member
    rcases List.mem_append.1 member with zeros | member
    · rw [List.eq_of_mem_replicate zeros]
      decide
    · exact whole.digits c member
  have total : Nat.ofDigitChars 10 (['0'] ++ (List.replicate k '0' ++ ds)) 0 =
      Nat.ofDigitChars 10 ds 0 := by
    have front : Nat.ofDigitChars 10 ['0'] 0 = 0 := rfl
    rw [Nat.ofDigitChars_append, Nat.ofDigitChars_append, front, Nat.ofDigitChars_replicate_zero,
      Nat.mul_zero]
  have read := unsigned?_point negative zero all (by simp [whole.nonempty]) ended_nil
    (by rwa [total])
  rw [total, List.append_nil, afterFraction?, List.length_append, List.length_replicate,
    Nat.cast_add] at read
  exact read

theorem unsigned?_inside {w : Nat} (some : 0 < w) (less : w < ds.length) :
    unsigned? negative (ds.take w ++ '.' :: ds.drop w) =
      ofParts? negative (Nat.ofDigitChars 10 ds 0) (w - ds.length) := by
  have front : Whole (ds.take w) := by
    refine ⟨fun c member => whole.digits c (List.mem_of_mem_take member), ?_, fun zero => ?_⟩
    · rw [← List.length_pos_iff, List.length_take]
      omega
    · have := whole.leading (by rwa [List.head?_take, if_neg some.ne'] at zero)
      omega
  have joined : ds.take w ++ ds.drop w = ds := List.take_append_drop w ds
  have read := unsigned?_point negative front
    (fun c member => whole.digits c (List.mem_of_mem_drop member)) (by simpa using less)
    ended_nil (by rwa [joined])
  rw [joined, List.append_nil, afterFraction?] at read
  refine read.trans (congrArg _ ?_)
  rw [List.length_drop]
  omega

end

theorem unsigned?_trailingZeros (negative : Bool) {n k : Nat} (positive : 0 < n)
    (small : n * 10 ^ (k + 1) < 2 ^ 64) :
    unsigned? negative (Nat.toDigits 10 n ++ List.replicate k '0' ++ ['.', '0']) =
      ofParts? negative (n * 10 ^ (k + 1)) (-1) := by
  have whole : Whole (Nat.toDigits 10 n ++ List.replicate k '0') := by
    refine ⟨fun c member => ?_, by simp [Nat.toDigits_ne_nil], fun zero => ?_⟩
    · rcases List.mem_append.1 member with member | zeros
      · exact isDigit_toDigits n c member
      · rw [List.eq_of_mem_replicate zeros]
        decide
    · rw [List.head?_append_of_ne_nil _ Nat.toDigits_ne_nil] at zero
      exact absurd zero (head?_toDigits positive)
  have total : Nat.ofDigitChars 10 (Nat.toDigits 10 n ++ List.replicate k '0' ++ ['0']) 0 =
      n * 10 ^ (k + 1) := by
    rw [List.append_assoc, ← List.replicate_succ', Nat.ofDigitChars_append,
      Nat.ofDigitChars_replicate_zero, Nat.ofDigitChars_ten_toDigits, Nat.mul_comm]
  have zero : ∀ c ∈ ['0'], c.isDigit = true := isDigit_toDigits 0
  have read := unsigned?_point negative whole zero (by simp) ended_nil
    (by rw [total]; exact decide_eq_true small)
  rw [total] at read
  exact read

end Json.Number

namespace Double

open Json.Number

/-- The text of a decimal without its sign, around its point or with an exponent. -/
def positional (digits : Nat) (place : Int) : List Char :=
  let ds := Nat.toDigits 10 digits
  let first : Int := place + ds.length - 1
  if first < -5 ∨ 15 < first then mantissa ds ++ 'e' :: exponentText first
  else if first < 0 then '0' :: '.' :: List.replicate (-first - 1).toNat '0' ++ ds
  else if 0 ≤ place then ds ++ List.replicate place.toNat '0' ++ ['.', '0']
  else ds.take (first + 1).toNat ++ '.' :: ds.drop (first + 1).toNat

/-- The text of a number without its sign. -/
def magnitude (x : Double) : List Char :=
  if x.significand = 0 then ['0', '.', '0'] else positional x.shortest.1 x.shortest.2

theorem render_toList (x : Double) :
    x.render.toList = (if x.negative then ['-'] else []) ++ x.magnitude := by
  rw [render, magnitude]
  by_cases zero : x.significand = 0
  · have isZero : x.isZero = true := beq_iff_eq.2 zero
    rw [isZero, if_pos zero, if_pos rfl, String.toList_append]
    split <;> rfl
  · have isZero : x.isZero = false := beq_eq_false_iff_ne.2 zero
    rw [isZero, if_neg zero]
    show String.toList (_ ++ String.ofList (positional x.shortest.1 x.shortest.2)) = _
    rw [String.toList_append, String.toList_ofList]
    split <;> rfl

/-! ## The characters of a number -/

theorem isPart_of_isDigit {c : Char} (digit : c.isDigit = true) : isPart c = true := by
  simp [isPart, digit]

theorem isPart_exponentText {e : Int} : ∀ c ∈ 'e' :: exponentText e, isPart c = true := by
  intro c member
  rw [exponentText] at member
  rcases List.mem_cons.1 member with rfl | member
  · rfl
  rcases List.mem_cons.1 member with rfl | member
  · split <;> rfl
  · exact isPart_of_isDigit (isDigit_toDigits _ c member)

theorem mem_mantissa {ds : List Char} {c : Char} (member : c ∈ mantissa ds) : c = '.' ∨ c ∈ ds := by
  match ds with
  | [] => exact .inr member
  | [d] => exact .inr member
  | d :: next :: rest => grind [mantissa]

theorem head?_mantissa (ds : List Char) : (mantissa ds).head? = ds.head? := by
  match ds with
  | [] => rfl
  | [d] => rfl
  | d :: next :: rest => rfl

/-- A decimal starts with a digit, and all its characters are parts of numbers. -/
theorem positional_chars (digits : Nat) (place : Int) :
    (∃ c ∈ (positional digits place).head?, c.isDigit = true) ∧
      ∀ c ∈ positional digits place, isPart c = true := by
  obtain ⟨d, rest, written⟩ := List.exists_cons_of_ne_nil (Nat.toDigits_ne_nil (b := 10) (n := digits))
  have first : d.isDigit = true := isDigit_toDigits digits d (by rw [written]; exact List.mem_cons_self)
  have all : ∀ c ∈ d :: rest, isPart c = true := fun c member =>
    isPart_of_isDigit (isDigit_toDigits digits c (by rwa [written]))
  have zeros : ∀ k, ∀ c ∈ List.replicate k '0', isPart c = true := fun k c member => by
    rw [List.eq_of_mem_replicate member]
    rfl
  rw [positional, written]
  generalize place + (d :: rest).length - 1 = e
  split
  · refine ⟨⟨d, ?_, first⟩, fun c member => ?_⟩
    · rw [List.head?_append, head?_mantissa]
      rfl
    · rcases List.mem_append.1 member with front | exponent
      · rcases mem_mantissa front with rfl | digit
        · rfl
        · exact all c digit
      · exact isPart_exponentText c exponent
  split
  · refine ⟨⟨'0', rfl, rfl⟩, fun c member => ?_⟩
    simp only [List.cons_append, List.mem_cons, List.mem_append] at member
    rcases member with rfl | rfl | member | digit
    · rfl
    · rfl
    · exact zeros _ c member
    · exact all c (List.mem_cons.2 digit)
  split
  · refine ⟨⟨d, rfl, first⟩, fun c member => ?_⟩
    simp only [List.mem_cons, List.mem_append, List.not_mem_nil, or_false] at member
    rcases member with (digit | member) | rfl | rfl
    · exact all c (List.mem_cons.2 digit)
    · exact zeros _ c member
    · rfl
    · rfl
  · obtain ⟨w, whole⟩ : ∃ w, (e + 1).toNat = w + 1 := ⟨e.toNat, by omega⟩
    rw [whole]
    refine ⟨⟨d, rfl, first⟩, fun c member => ?_⟩
    rcases List.mem_append.1 member with front | member
    · exact all c (List.mem_of_mem_take front)
    rcases List.mem_cons.1 member with rfl | back
    · rfl
    · exact all c (List.mem_of_mem_drop back)

theorem magnitude_chars (x : Double) :
    (∃ c ∈ x.magnitude.head?, c.isDigit = true) ∧ ∀ c ∈ x.magnitude, isPart c = true := by
  rw [magnitude]
  split
  · exact ⟨⟨'0', rfl, rfl⟩, List.all_eq_true.1 rfl⟩
  · exact positional_chars ..

/-! ## Reading decimals -/

/-- A decimal is read as a whole number of 64 bits times a power of ten.  If the power is not
negative, these are its digits and its place. -/
theorem unsigned?_positional (negative : Bool) {digits : Nat} {place : Int} (nonzero : digits ≠ 0)
    (few : digits ≤ 10 ^ 17) (least : -340 ≤ place) (most : place ≤ 308) :
    ∃ n power, unsigned? negative (positional digits place) = ofParts? negative n power ∧
      n < 2 ^ 64 ∧ (0 ≤ power → n = digits ∧ power = place) := by
  have whole := whole_toDigits digits
  have value : Nat.ofDigitChars 10 (Nat.toDigits 10 digits) 0 = digits :=
    Nat.ofDigitChars_ten_toDigits
  have length : (Nat.toDigits 10 digits).length ≤ 18 := by
    rw [Nat.length_toDigits_le_iff (by decide) (by decide)]
    omega
  have bound : digits < 10 ^ (Nat.toDigits 10 digits).length :=
    (Nat.length_toDigits_le_iff (by decide) Nat.length_toDigits_pos).1 (Nat.le_refl _)
  have positive : 0 < (Nat.toDigits 10 digits).length := Nat.length_toDigits_pos
  have small : digits < 2 ^ 64 := few.trans_lt (by decide)
  have fits : Decimal.fits 64 (Nat.ofDigitChars 10 (Nat.toDigits 10 digits) 0) = true := by
    rw [value]
    exact decide_eq_true small
  rw [positional]
  generalize start : place + (Nat.toDigits 10 digits).length - 1 = first
  split
  · refine ⟨digits, place, ?_, small, fun _ => ⟨rfl, rfl⟩⟩
    rw [unsigned?_mantissa whole fits (by omega), value]
    congr 1
    omega
  split
  · refine ⟨digits, place, ?_, small, fun _ => ⟨rfl, rfl⟩⟩
    rw [unsigned?_leadingZeros whole fits, value]
    congr 1
    omega
  split
  · have small : digits * 10 ^ (place.toNat + 1) < 2 ^ 64 := by
      calc
        digits * 10 ^ (place.toNat + 1)
          < 10 ^ (Nat.toDigits 10 digits).length * 10 ^ (place.toNat + 1) :=
          Nat.mul_lt_mul_of_pos_right bound (Nat.pow_pos (by decide))
        _ = 10 ^ ((Nat.toDigits 10 digits).length + (place.toNat + 1)) := (Nat.pow_add ..).symm
        _ ≤ 10 ^ 17 := Nat.pow_le_pow_right (by decide) (by omega)
        _ < 2 ^ 64 := by decide
    exact ⟨_, -1, unsigned?_trailingZeros negative (Nat.pos_of_ne_zero nonzero) small, small,
      by omega⟩
  · refine ⟨digits, place, ?_, small, fun _ => ⟨rfl, rfl⟩⟩
    rw [unsigned?_inside whole fits (by omega) (by omega), value]
    congr 1
    omega

/-- Rounding twice does not take the shortest decimal of a number to one that is too large. -/
theorem InRange.shortest_small {x : Double} (inRange : x.InRange) (nonzero : x.significand ≠ 0)
    (low : x.significand + 2 < 2 ^ 53 ∨ x.exponent < 971) :
    x.shortest.1 * 10 ^ x.shortest.2 * (1 + 1 / 2 ^ 53) ^ 2 < tooLarge := by
  obtain ⟨-, -, -, near⟩ := inRange.shortest_spec nonzero
  have bound : (x.significand + 1 / 2 : ℚ) * 2 ^ x.exponent ≤
      (2 ^ 53 - 5 / 2) * 2 ^ (971 : ℤ) := by
    rcases low with few | less
    · have digits : (x.significand : ℚ) + 3 ≤ 2 ^ 53 := by exact_mod_cast few
      have power : (2 : ℚ) ^ x.exponent ≤ 2 ^ (971 : ℤ) :=
        zpow_le_zpow_right₀ one_le_two inRange.most
      exact mul_le_mul (by linarith) power (by positivity) (by norm_num)
    · have digits : (x.significand : ℚ) + 1 ≤ 2 ^ 53 := by exact_mod_cast inRange.significand
      have power : (2 : ℚ) ^ x.exponent ≤ 2 ^ (970 : ℤ) :=
        zpow_le_zpow_right₀ one_le_two (by omega)
      have split : (2 : ℚ) ^ (971 : ℤ) = 2 ^ (970 : ℤ) * 2 := zpow_add_one₀ two_ne_zero 970
      have unit : (0 : ℚ) < 2 ^ (970 : ℤ) := by positivity
      have product : (x.significand + 1 / 2 : ℚ) * 2 ^ x.exponent ≤ 2 ^ 53 * 2 ^ (970 : ℤ) :=
        mul_le_mul (by linarith) power (by positivity) (by norm_num)
      rw [split]
      generalize (2 : ℚ) ^ (970 : ℤ) = top at product unit ⊢
      linarith
  have unit : (0 : ℚ) < 2 ^ (971 : ℤ) := by positivity
  have factor : (2 ^ 53 - 5 / 2 : ℚ) * (1 + 1 / 2 ^ 53) ^ 2 < 2 ^ 53 - 1 / 2 := by norm_num
  calc
    x.shortest.1 * 10 ^ x.shortest.2 * (1 + 1 / 2 ^ 53 : ℚ) ^ 2
      ≤ (2 ^ 53 - 5 / 2) * 2 ^ (971 : ℤ) * (1 + 1 / 2 ^ 53) ^ 2 :=
      mul_le_mul_of_nonneg_right (near.trans bound) (by positivity)
    _ = (2 ^ 53 - 5 / 2) * (1 + 1 / 2 ^ 53) ^ 2 * 2 ^ (971 : ℤ) := mul_right_comm ..
    _ < tooLarge := mul_lt_mul_of_pos_right factor unit

/-- The two greatest numbers are read. -/
theorem ofParts?_greatest : ∀ negative : Bool, ∀ m ∈ [2 ^ 53 - 2, 2 ^ 53 - 1],
    (ofParts? negative (shortest ⟨negative, m, 971⟩).1 (shortest ⟨negative, m, 971⟩).2).isSome := by
  decide +kernel

theorem exists_float_of_isSome {negative : Bool} {n : Nat} {power : Int}
    (read : (ofParts? negative n power).isSome) :
    ∃ y, ofParts? negative n power = some (.float y) := by
  obtain ⟨v, read⟩ := Option.isSome_iff_exists.1 read
  obtain ⟨x, ofNat, scaled⟩ := Option.bind_eq_some_iff.1 read
  obtain ⟨y, _, rfl⟩ := Option.map_eq_some_iff.1 scaled
  exact ⟨_, read⟩

variable {x : Double}

theorem InRange.exists_ofParts?_shortest (inRange : x.InRange) (nonzero : x.significand ≠ 0) :
    ∃ y, ofParts? x.negative x.shortest.1 x.shortest.2 = some (.float y) := by
  by_cases low : x.significand + 2 < 2 ^ 53 ∨ x.exponent < 971
  · obtain ⟨-, few, -, -⟩ := inRange.shortest_spec nonzero
    exact exists_ofParts? x.negative (few.trans_lt (by decide)) fun _ =>
      ⟨inRange.shortest_place_le nonzero, inRange.shortest_small nonzero low⟩
  · obtain ⟨negative, m, e⟩ := x
    have digits := inRange.significand
    have most := inRange.most
    rw [maxExponent] at most
    have top : e = 971 := by
      dsimp only at low most
      omega
    have greatest : m ∈ [2 ^ 53 - 2, 2 ^ 53 - 1] := by
      simp only [List.mem_cons, List.not_mem_nil, or_false]
      dsimp only at low digits
      omega
    rw [top]
    exact exists_float_of_isSome (ofParts?_greatest negative m greatest)

theorem InRange.exists_unsigned?_magnitude (inRange : x.InRange) :
    ∃ y, unsigned? x.negative x.magnitude = some (.float y) := by
  rw [magnitude]
  split
  · have read : unsigned? x.negative ['0', '.', '0'] = ofParts? x.negative 0 (-1) :=
      unsigned?_leadingZeros (whole_toDigits 0) rfl 0
    rw [read]
    exact exists_ofParts? x.negative (by decide) (by omega)
  · next nonzero =>
    obtain ⟨positive, few, least, -⟩ := inRange.shortest_spec nonzero
    obtain ⟨n, power, read, small, same⟩ := unsigned?_positional x.negative positive few least
      (inRange.shortest_place_le nonzero)
    rw [read]
    rcases lt_or_ge power 0 with down | up
    · exact exists_ofParts? x.negative small fun nonneg => absurd down (not_lt.2 nonneg)
    · obtain ⟨rfl, rfl⟩ := same up
      exact inRange.exists_ofParts?_shortest nonzero

/-- A number of double precision that is written is read as one. -/
theorem InRange.exists_ofChars?_render (inRange : x.InRange) :
    ∃ y, ofChars? x.render.toList = some (.float y) := by
  obtain ⟨y, read⟩ := inRange.exists_unsigned?_magnitude
  refine ⟨y, ?_⟩
  rw [render_toList]
  cases sign : x.negative with
  | true =>
    rw [sign] at read
    exact read
  | false =>
    rw [sign] at read
    obtain ⟨⟨c, first, digit⟩, -⟩ := x.magnitude_chars
    rw [if_neg (by decide), List.nil_append, ofChars?_of_isDigit, read]
    intro d member
    rwa [Option.mem_unique member first]

end Double

end SchemaBinder
