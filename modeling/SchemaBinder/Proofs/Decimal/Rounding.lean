import Mathlib.Algebra.Order.Field.Power
import Mathlib.Data.Nat.Cast.Order.Field
import Mathlib.Tactic.FieldSimp
import Mathlib.Tactic.Linarith
import Mathlib.Tactic.Ring
import SchemaBinder.Decimal.Double
/-!
# How far rounding goes

A number of double precision has a value, which is a fraction, and rounding a fraction gives a number
whose value is near to it.  What is needed of this is one side only: the value is not much greater
than the fraction (`value_le_of_ofRatio?`), and there is a number for every fraction that is not too
large (`exists_ofRatio?`).

The number is finite, whatever the fraction (`inRange_of_ofRatio?`), and so are products and quotients.
-/

namespace SchemaBinder.Double

/-- The magnitude of a number. -/
def value (x : Double) : ℚ := x.significand * 2 ^ x.exponent

/-- From here on a fraction is too large: half a unit of the last place above the greatest number. -/
def tooLarge : ℚ := (2 ^ 53 - 1 / 2) * 2 ^ (971 : ℤ)

/-- A finite number of double precision. -/
structure InRange (x : Double) : Prop where
  significand : x.significand < 2 ^ 53
  least : minExponent ≤ x.exponent
  most : x.exponent ≤ maxExponent

instance (x : Double) : Decidable x.InRange :=
  decidable_of_iff
    (x.significand < 2 ^ 53 ∧ minExponent ≤ x.exponent ∧ x.exponent ≤ maxExponent)
    ⟨fun ⟨significand, least, most⟩ => ⟨significand, least, most⟩,
      fun ⟨significand, least, most⟩ => ⟨significand, least, most⟩⟩

theorem inRange_zero (negative : Bool) : (zero negative).InRange :=
  ⟨Nat.two_pow_pos 53, Int.le_refl _, show minExponent ≤ maxExponent by decide⟩

theorem InRange.neg {x : Double} (inRange : x.InRange) : x.neg.InRange :=
  ⟨inRange.significand, inRange.least, inRange.most⟩

/-! ## Fractions -/

variable {num den : Nat} {x : Double} {negative : Bool}

theorem natPow_toNat (b : Nat) {e : Int} (nonneg : 0 ≤ e) :
    ((Nat.pow b e.toNat : Nat) : ℚ) = (b : ℚ) ^ e := by
  have same : e = (e.toNat : Int) := (Int.toNat_of_nonneg nonneg).symm
  rw [Nat.pow_eq, Nat.cast_pow]
  conv_rhs => rw [same]
  rw [zpow_natCast]

theorem scaled_den_pos (positive : 0 < den) (e : Int) : 0 < (scaled num den e).2 := by
  rw [scaled]
  split
  · exact positive
  · exact Nat.mul_pos positive (Nat.pow_pos (by decide))

theorem scaled_div (num den : Nat) (e : Int) :
    ((scaled num den e).1 : ℚ) / (scaled num den e).2 = num / den * 2 ^ (-e) := by
  rw [scaled]
  split
  · next negative =>
    rw [Nat.cast_mul, natPow_toNat 2 (by omega)]
    push_cast
    ring
  · next nonneg =>
    rw [Nat.cast_mul, natPow_toNat 2 (by omega), zpow_neg]
    push_cast
    field_simp

theorem ratio_den_pos (x : Double) : 0 < x.ratio.2 := by
  rw [ratio]
  split
  · exact Nat.pow_pos (by decide)
  · exact Nat.one_pos

theorem ratio_div (x : Double) : (x.ratio.1 : ℚ) / x.ratio.2 = x.value := by
  rw [ratio, value]
  split
  · rw [natPow_toNat 2 (by omega), zpow_neg]
    push_cast
    field_simp
  · rw [Nat.cast_mul, natPow_toNat 2 (by omega)]
    push_cast
    ring

/-! ## Rounded quotients -/

/-- A quotient is rounded up by a half at most, and never to more than twice its value. -/
theorem roundDiv_le (num : Nat) (positive : 0 < den) :
    (roundDiv num den : ℚ) ≤ num / den + 1 / 2 ∧ (roundDiv num den : ℚ) ≤ 2 * (num / den) := by
  have bound : 2 * (roundDiv num den * den) ≤ 2 * num + den ∧
      roundDiv num den * den ≤ 2 * num := by
    have whole := Nat.div_add_mod num den
    have small := Nat.mod_lt num positive
    rw [roundDiv]
    generalize num / den = q at *
    generalize num % den = r at *
    have up : (q + 1) * den = den * q + den := by ring
    have down : q * den = den * q := Nat.mul_comm q den
    split
    · omega
    · split
      · omega
      · split
        · omega
        · -- a tie is rounded up from an odd quotient, which is not zero
          have := Nat.le_mul_of_pos_right den (show 0 < q by omega)
          omega
  have denominator : (0 : ℚ) < den := Nat.cast_pos.2 positive
  constructor
  · rw [← sub_le_iff_le_add, le_div_iff₀ denominator]
    have := (Nat.cast_le (α := ℚ)).2 bound.1
    push_cast at this
    linarith
  · rw [← mul_div_assoc, le_div_iff₀ denominator]
    exact_mod_cast bound.2

/-! ## The scale of a fraction -/

/-- At its scale a fraction has 53 digits before the point. -/
theorem le_div_of_scaleOf (nonzero : num ≠ 0) (positive : 0 < den) :
    2 ^ 52 * 2 ^ scaleOf num den ≤ (num / den : ℚ) := by
  have denominator : (0 : ℚ) < den := Nat.cast_pos.2 positive
  have least : (2 : ℚ) ^ ((num.log2 : Int) - den.log2 - 1) ≤ num / den := by
    have above : (2 : ℚ) ^ num.log2 ≤ num := by exact_mod_cast Nat.log2_self_le nonzero
    have below : (den : ℚ) ≤ 2 ^ (den.log2 + 1) := by exact_mod_cast Nat.lt_log2_self.le
    have split : (num.log2 : Int) - den.log2 - 1 = (num.log2 : Int) - (den.log2 + 1 : Nat) := by
      push_cast
      ring
    rw [le_div_iff₀ denominator, split, zpow_sub₀ two_ne_zero, zpow_natCast, zpow_natCast]
    calc
      _ ≤ (2 : ℚ) ^ num.log2 / 2 ^ (den.log2 + 1) * 2 ^ (den.log2 + 1) := by gcongr
      _ = 2 ^ num.log2 := by field_simp
      _ ≤ num := above
  rw [scaleOf]
  dsimp only
  split
  · have split : ((num.log2 : Int) - den.log2 - 1) = 52 + ((num.log2 : Int) - den.log2 - 53) := by
      ring
    rw [split, zpow_add₀ two_ne_zero] at least
    exact least
  · next large =>
    rw [not_lt] at large
    generalize (num.log2 : Int) - den.log2 - 53 = e at large ⊢
    have whole : (2 : ℚ) ^ 53 ≤ num / den * 2 ^ (-e) := by
      rw [← scaled_div]
      calc
        (2 : ℚ) ^ 53 = (Nat.pow 2 53 : Nat) := by norm_num
        _ ≤ ((scaled num den e).1 / (scaled num den e).2 : Nat) := by exact_mod_cast large
        _ ≤ _ := Nat.cast_div_le
    rw [zpow_neg, ← div_eq_mul_inv, le_div_iff₀ (by positivity)] at whole
    rw [zpow_add₀ two_ne_zero]
    linarith

/-- At its scale a fraction has no more than 53 digits before the point. -/
theorem div_lt_of_scaleOf (positive : 0 < den) :
    (num / den : ℚ) < 2 ^ 53 * 2 ^ scaleOf num den := by
  have denominator : (0 : ℚ) < den := Nat.cast_pos.2 positive
  rw [scaleOf]
  dsimp only
  split
  · next small =>
    generalize (num.log2 : Int) - den.log2 - 53 = e at small ⊢
    have whole := (Nat.div_lt_iff_lt_mul (@scaled_den_pos num _ positive e)).1 small
    have below : ((scaled num den e).1 : ℚ) / (scaled num den e).2 < 2 ^ 53 := by
      rw [div_lt_iff₀ (Nat.cast_pos.2 (scaled_den_pos positive e))]
      exact_mod_cast whole
    rwa [scaled_div, zpow_neg, ← div_eq_mul_inv, div_lt_iff₀ (by positivity)] at below
  · have above : (num : ℚ) < 2 ^ (num.log2 + 1) := by exact_mod_cast Nat.lt_log2_self
    have below : (2 : ℚ) ^ den.log2 ≤ den := by exact_mod_cast Nat.log2_self_le positive.ne'
    have split : 2 ^ 53 * (2 : ℚ) ^ ((num.log2 : Int) - den.log2 - 53 + 1) =
        2 ^ (num.log2 + 1) / 2 ^ den.log2 := by
      rw [← zpow_natCast, ← zpow_natCast, ← zpow_natCast, ← zpow_sub₀ two_ne_zero,
        ← zpow_add₀ two_ne_zero]
      congr 1
      push_cast
      ring
    calc
      (num / den : ℚ) < 2 ^ (num.log2 + 1) / den := by gcongr
      _ ≤ 2 ^ (num.log2 + 1) / 2 ^ den.log2 := by gcongr
      _ = _ := split.symm

/-! ## Rounding -/

/-- The exponent of the number that a fraction is rounded to, unless it is carried. -/
def roundedExponent (num den : Nat) : Int := max (scaleOf num den) minExponent

/-- Its significand before it is carried. -/
def roundedSignificand (num den : Nat) : Nat :=
  roundDiv (scaled num den (roundedExponent num den)).1 (scaled num den (roundedExponent num den)).2

theorem ofRatio?_eq (nonzero : num ≠ 0) : ofRatio? negative num den =
    if roundedSignificand num den = 2 ^ 53 then
      if roundedExponent num den + 1 ≤ maxExponent then
        some ⟨negative, 2 ^ 52, roundedExponent num den + 1⟩
      else none
    else if roundedExponent num den ≤ maxExponent then
      some ⟨negative, roundedSignificand num den, roundedExponent num den⟩
    else none := by
  have opened : ofRatio? negative num den =
      let rounded := if roundedSignificand num den = 2 ^ 53
        then (2 ^ 52, roundedExponent num den + 1)
        else (roundedSignificand num den, roundedExponent num den)
      if rounded.2 ≤ maxExponent then some ⟨negative, rounded.1, rounded.2⟩ else none := by
    rw [ofRatio?, if_neg nonzero]
    rfl
  rw [opened]
  by_cases carried : roundedSignificand num den = 2 ^ 53
  · rw [if_pos carried, if_pos carried]
  · rw [if_neg carried, if_neg carried]

/-- The significand is near to the fraction in units of its last place. -/
theorem roundedSignificand_le (num : Nat) (positive : 0 < den) :
    (roundedSignificand num den : ℚ) ≤ num / den * 2 ^ (-roundedExponent num den) + 1 / 2 ∧
      (roundedSignificand num den : ℚ) ≤ 2 * (num / den * 2 ^ (-roundedExponent num den)) := by
  have near := roundDiv_le (scaled num den (roundedExponent num den)).1
    (@scaled_den_pos num _ positive (roundedExponent num den))
  rwa [scaled_div] at near

/-- The significand has 53 digits, unless it is carried. -/
theorem roundedSignificand_le_two_pow (num : Nat) (positive : 0 < den) :
    roundedSignificand num den ≤ 2 ^ 53 := by
  have near := (roundedSignificand_le num positive).1
  have digits : (num / den : ℚ) * 2 ^ (-roundedExponent num den) < 2 ^ 53 := by
    rw [zpow_neg, ← div_eq_mul_inv, div_lt_iff₀ (by positivity)]
    calc
      (num / den : ℚ) < 2 ^ 53 * 2 ^ scaleOf num den := div_lt_of_scaleOf positive
      _ ≤ 2 ^ 53 * 2 ^ roundedExponent num den := by
        gcongr
        · exact one_le_two
        · exact le_max_left _ _
  have below : (roundedSignificand num den : ℚ) < (2 ^ 53 + 1 : Nat) := by
    push_cast
    linarith
  exact Nat.lt_succ_iff.1 (Nat.cast_lt.1 below)

/-- What a fraction is rounded to is finite. -/
theorem inRange_of_ofRatio? (positive : 0 < den) (rounded : ofRatio? negative num den = some x) :
    x.InRange := by
  by_cases nonzero : num = 0
  · rw [ofRatio?, if_pos nonzero] at rounded
    cases rounded
    exact inRange_zero negative
  have least : minExponent ≤ roundedExponent num den := le_max_right _ _
  rw [ofRatio?_eq nonzero] at rounded
  split at rounded
  · split at rounded <;> cases rounded
    next most => exact ⟨show 2 ^ 52 < 2 ^ 53 by decide, show _ ≤ _ + 1 by omega, most⟩
  · next uncarried =>
    split at rounded <;> cases rounded
    next most =>
      exact ⟨lt_of_le_of_ne (roundedSignificand_le_two_pow num positive) uncarried, least, most⟩

/-- Carrying does not change the value. -/
theorem value_of_ofRatio? (nonzero : num ≠ 0) (rounded : ofRatio? negative num den = some x) :
    x.value = roundedSignificand num den * 2 ^ roundedExponent num den := by
  rw [ofRatio?_eq nonzero] at rounded
  split at rounded
  · next carried =>
    split at rounded
    · cases rounded
      rw [carried, value, zpow_add_one₀ two_ne_zero]
      push_cast
      ring
    · cases rounded
  · split at rounded
    · cases rounded
      rfl
    · cases rounded

/-- Rounding at most doubles a fraction. -/
theorem value_le_of_ofRatio? (positive : 0 < den) (rounded : ofRatio? negative num den = some x) :
    x.value ≤ 2 * (num / den) := by
  by_cases nonzero : num = 0
  · rw [ofRatio?, if_pos nonzero] at rounded
    cases rounded
    simp [value, zero, nonzero]
  · have near := (roundedSignificand_le num positive).2
    rw [value_of_ofRatio? nonzero rounded]
    calc
      (roundedSignificand num den : ℚ) * 2 ^ roundedExponent num den
        ≤ 2 * (num / den * 2 ^ (-roundedExponent num den)) * 2 ^ roundedExponent num den := by
        gcongr
      _ = 2 * (num / den) * (2 ^ (-roundedExponent num den) * 2 ^ roundedExponent num den) := by ring
      _ = 2 * (num / den) := by rw [← zpow_add₀ two_ne_zero, neg_add_cancel, zpow_zero, mul_one]

/-- Where a number has all its digits, rounding adds at most half a unit of the last one. -/
theorem value_le_of_normal (nonzero : num ≠ 0) (positive : 0 < den)
    (normal : minExponent ≤ scaleOf num den) (rounded : ofRatio? negative num den = some x) :
    x.value ≤ num / den * (1 + 1 / 2 ^ 53) := by
  have near := (roundedSignificand_le num positive).1
  have digits := le_div_of_scaleOf nonzero positive
  have exponent : roundedExponent num den = scaleOf num den := max_eq_left normal
  rw [value_of_ofRatio? nonzero rounded]
  rw [exponent] at near ⊢
  calc
    (roundedSignificand num den : ℚ) * 2 ^ scaleOf num den
      ≤ (num / den * 2 ^ (-scaleOf num den) + 1 / 2) * 2 ^ scaleOf num den := by gcongr
    _ = num / den * (2 ^ (-scaleOf num den) * 2 ^ scaleOf num den) + 2 ^ scaleOf num den / 2 := by
      ring
    _ = num / den + 2 ^ scaleOf num den / 2 := by
      rw [← zpow_add₀ two_ne_zero, neg_add_cancel, zpow_zero, mul_one]
    _ ≤ num / den * (1 + 1 / 2 ^ 53) := by linarith

/-- There is a number for every fraction that is not too large. -/
theorem exists_ofRatio? (positive : 0 < den) (small : (num / den : ℚ) < tooLarge) :
    ∃ x, ofRatio? negative num den = some x := by
  by_cases nonzero : num = 0
  · exact ⟨_, if_pos nonzero⟩
  have digits := le_div_of_scaleOf nonzero positive
  -- otherwise the fraction would have 53 digits before a place that is too high
  have scale : scaleOf num den ≤ maxExponent := by
    by_contra high
    rw [maxExponent] at high
    have power : (2 : ℚ) ^ (972 : ℤ) ≤ 2 ^ scaleOf num den :=
      zpow_le_zpow_right₀ one_le_two (by omega)
    have split : (2 : ℚ) ^ (972 : ℤ) = 2 ^ (971 : ℤ) * 2 := zpow_add_one₀ two_ne_zero 971
    have unit : (0 : ℚ) < 2 ^ (971 : ℤ) := by positivity
    rw [tooLarge] at small
    rw [split] at power
    generalize (2 : ℚ) ^ (971 : ℤ) = top at small power unit
    generalize (2 : ℚ) ^ scaleOf num den = place at digits power
    linarith
  have exponent : roundedExponent num den ≤ maxExponent := max_le scale (by decide)
  rw [ofRatio?_eq nonzero, if_pos exponent]
  split
  · next carried =>
    rcases exponent.lt_or_eq with low | high
    · exact ⟨_, if_pos low⟩
    · have near := (roundedSignificand_le num positive).1
      rw [carried, high, maxExponent, zpow_neg, ← div_eq_mul_inv, ← sub_le_iff_le_add,
        le_div_iff₀ (by positivity)] at near
      rw [tooLarge] at small
      generalize (2 : ℚ) ^ (971 : ℤ) = top at small near
      push_cast at near
      linarith
  · exact ⟨_, rfl⟩

/-! ## Arithmetic -/

variable {y z : Double}

theorem inRange_of_ofNat? {n : Nat} (rounded : ofNat? n = some x) : x.InRange :=
  inRange_of_ofRatio? Nat.one_pos rounded

theorem inRange_of_mul? (product : x.mul? y = some z) : z.InRange :=
  inRange_of_ofRatio? (Nat.mul_pos (ratio_den_pos x) (ratio_den_pos y)) product

theorem inRange_of_div? (quotient : x.div? y = some z) : z.InRange := by
  simp only [div?] at quotient
  split at quotient
  · cases quotient
  · next nonzero =>
    have divisor := Nat.mul_pos (ratio_den_pos x) (Nat.pos_of_ne_zero nonzero)
    exact inRange_of_ofRatio? divisor quotient

theorem inRange_of_ofDecimal? {digits : Nat} {power : Int}
    (rounded : ofDecimal? negative digits power = some x) : x.InRange := by
  rw [ofDecimal?] at rounded
  split at rounded
  · exact inRange_of_ofRatio? (Nat.pow_pos (by decide)) rounded
  · exact inRange_of_ofRatio? Nat.one_pos rounded

end SchemaBinder.Double
