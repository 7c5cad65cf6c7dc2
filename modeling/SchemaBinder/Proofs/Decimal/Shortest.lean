import SchemaBinder.Decimal.Shortest
import SchemaBinder.Proofs.Decimal.Rounding
/-!
# What the shortest decimal is like

The search for the shortest decimal of a number ends on one of the grids of up to seventeen digits,
for the one of seventeen digits is finer than the interval that is searched (`exists_onGrid`).  So the
decimal has no more digits, is not zero, and is above the number by half a unit of its last binary
place at most (`shortest_spec`).
-/

namespace SchemaBinder.Double

/-! ## The place of the first digit -/

theorem floorLog_spec {num den : Nat} (above : den ≤ num) (bound : Nat) :
    10 ^ floorLog num den bound * den ≤ num ∧ floorLog num den bound ≤ bound ∧
      (floorLog num den bound < bound → num < 10 ^ (floorLog num den bound + 1) * den) := by
  induction bound with
  | zero => simpa [floorLog] using above
  | succ k ih =>
    rw [floorLog, Nat.pow_eq]
    split
    · next fits => exact ⟨fits, Nat.le_refl _, fun less => absurd less (Nat.lt_irrefl _)⟩
    · next beyond =>
      obtain ⟨least, within, most⟩ := ih
      refine ⟨least, Nat.le_succ_of_le within, fun _ => ?_⟩
      rcases within.lt_or_eq with less | last
      · exact most less
      · rw [last]
        exact Nat.lt_of_not_le beyond

/-- A finite number is between these powers of ten, and so is what rounds to it. -/
theorem InRange.value_bounds {x : Double} (inRange : x.InRange) (nonzero : x.significand ≠ 0) :
    10 ^ (-324 : ℤ) < x.value ∧ (x.significand + 1 / 2) * 2 ^ x.exponent < (10 : ℚ) ^ (309 : ℤ) := by
  have least : (10 : ℚ) ^ (-324 : ℤ) < 2 ^ (-1074 : ℤ) := by
    have power : (2 : Nat) ^ 1074 < 10 ^ 324 := by decide +kernel
    rw [zpow_neg, zpow_neg]
    exact inv_strictAnti₀ (by positivity) (by exact_mod_cast power)
  have most : (2 : ℚ) ^ (1024 : ℤ) < 10 ^ (309 : ℤ) := by
    have power : (2 : Nat) ^ 1024 < 10 ^ 309 := by decide +kernel
    exact_mod_cast power
  have one : (1 : ℚ) ≤ x.significand := by exact_mod_cast Nat.pos_of_ne_zero nonzero
  have low : (2 : ℚ) ^ (-1074 : ℤ) ≤ 2 ^ x.exponent :=
    zpow_le_zpow_right₀ one_le_two inRange.least
  have high : (2 : ℚ) ^ x.exponent ≤ 2 ^ (971 : ℤ) :=
    zpow_le_zpow_right₀ one_le_two inRange.most
  have digits : (x.significand : ℚ) + 1 ≤ 2 ^ 53 := by exact_mod_cast inRange.significand
  have split : (2 : ℚ) ^ (1024 : ℤ) = 2 ^ 53 * 2 ^ (971 : ℤ) := by
    rw [← zpow_natCast, ← zpow_add₀ two_ne_zero]
    rfl
  rw [value]
  constructor
  · calc
      (10 : ℚ) ^ (-324 : ℤ) < 2 ^ (-1074 : ℤ) := least
      _ ≤ 2 ^ x.exponent := low
      _ ≤ x.significand * 2 ^ x.exponent := le_mul_of_one_le_left (by positivity) one
  · calc
      (x.significand + 1 / 2) * (2 : ℚ) ^ x.exponent ≤ 2 ^ 53 * 2 ^ (971 : ℤ) :=
        mul_le_mul (by linarith) high (by positivity) (by norm_num)
      _ = 2 ^ (1024 : ℤ) := split.symm
      _ < 10 ^ (309 : ℤ) := most

/-- The first digit of a fraction stands at its first place. -/
theorem firstPlace_spec {num den : Nat} (positive : 0 < den) (least : 10 ^ (-324 : ℤ) < (num / den : ℚ))
    (most : (num / den : ℚ) < 10 ^ (309 : ℤ)) :
    10 ^ firstPlace num den ≤ (num / den : ℚ) ∧
      (num / den : ℚ) < 10 ^ (firstPlace num den + 1) := by
  have denominator : (0 : ℚ) < den := Nat.cast_pos.2 positive
  have numerator : (0 : ℚ) < num := by
    have : (0 : ℚ) < num / den := lt_trans (by positivity) least
    rwa [div_pos_iff_of_pos_right denominator] at this
  rw [firstPlace]
  split
  · next above =>
    obtain ⟨low, within, high⟩ := floorLog_spec above 309
    generalize floorLog num den 309 = k at low within high
    have low : (10 : ℚ) ^ (k : Int) ≤ num / den := by
      rw [le_div_iff₀ denominator, zpow_natCast]
      exact_mod_cast low
    refine ⟨low, ?_⟩
    rcases within.lt_or_eq with less | rfl
    · rw [div_lt_iff₀ denominator, ← Nat.cast_add_one, zpow_natCast]
      exact_mod_cast high less
    · exact absurd (low.trans_lt most) (lt_irrefl _)
  · next below =>
    obtain ⟨low, within, high⟩ := floorLog_spec (Nat.le_of_not_le below) 324
    generalize floorLog den num 324 = k at low within high
    have power : (0 : ℚ) < 10 ^ k := by positivity
    have low : (10 : ℚ) ^ k * num ≤ den := by exact_mod_cast low
    dsimp only
    split
    · next exact_ =>
      have exact_ : (10 : ℚ) ^ k * num = den := by exact_mod_cast exact_
      have same : (num / den : ℚ) = 10 ^ (-k : Int) := by
        rw [← exact_, zpow_neg, zpow_natCast]
        field_simp
      rw [same]
      exact ⟨le_rfl, zpow_lt_zpow_right₀ (by norm_num) (by omega)⟩
    · next inexact =>
      have strict : (10 : ℚ) ^ k * num < den :=
        lt_of_le_of_ne low fun same => inexact (by exact_mod_cast same)
      constructor
      · rcases within.lt_or_eq with less | last
        · have high : (den : ℚ) < 10 ^ (k + 1) * num := by exact_mod_cast high less
          rw [le_div_iff₀ denominator, zpow_neg, ← Nat.cast_add_one, zpow_natCast,
            inv_mul_le_iff₀ (by positivity)]
          exact high.le
        · have place : (-324 : ℤ) = -(k : Int) := by omega
          rw [place, lt_div_iff₀ denominator, zpow_neg, zpow_natCast,
            inv_mul_lt_iff₀ power] at least
          exact absurd (least.trans_le low) (lt_irrefl _)
      · have place : (-(k + 1 : Int)) + 1 = -(k : Int) := by ring
        rw [place, div_lt_iff₀ denominator, zpow_neg, zpow_natCast, lt_inv_mul_iff₀ power]
        exact strict

/-! ## Grids -/

/-- Is a place of a grid within an interval?  Places are in units of `den`, the ends of the interval
in units of `num`, and these belong to it if the significand is even. -/
def within (even : Prop) [Decidable even] (low high num den c : Nat) : Bool :=
  if even then low * num ≤ c * den && c * den ≤ high * num
  else low * num < c * den && c * den < high * num

/-- The nearer of the two neighbours of a value on a grid that are within an interval. -/
def neighbour (even : Prop) [Decidable even] (low value high num den : Nat) : Option Nat :=
  let down := value * num / den
  let up := down + 1
  match within even low high num den down && down != 0, within even low high num den up with
  | true, true =>
    let a := value * num - down * den
    let b := up * den - value * num
    some (if a < b then down else if b < a then up else if down % 2 = 0 then down else up)
  | true, false => some down
  | false, true => some up
  | false, false => none

/-- A power of two as a fraction. -/
def binaryUnit (e : Int) : Nat × Nat :=
  if e < 0 then (1, Nat.pow 2 (-e).toNat) else (Nat.pow 2 e.toNat, 1)

/-- The unit of the interval of a number over the unit of a grid. -/
def gridUnit (x : Double) (place : Int) : Nat × Nat :=
  let unit := binaryUnit (x.exponent - 2)
  if place < 0 then (unit.1 * Nat.pow 10 (-place).toNat, unit.2)
  else (unit.1, unit.2 * Nat.pow 10 place.toNat)

theorem onGrid_eq (x : Double) (place : Int) : x.onGrid place =
    neighbour (x.significand % 2 = 0) x.interval.1 x.interval.2.1 x.interval.2.2
      (x.gridUnit place).1 (x.gridUnit place).2 :=
  rfl

variable {low value high num den c : Nat} {even : Prop} [Decidable even]

theorem le_of_within (inside : within even low high num den c = true) :
    low * num ≤ c * den ∧ c * den ≤ high * num := by
  rw [within] at inside
  split at inside <;> simp only [Bool.and_eq_true, decide_eq_true_eq] at inside <;> omega

/-- A neighbour is within the interval and next to the value. -/
theorem neighbour_spec (found : neighbour even low value high num den = some c) :
    c ≠ 0 ∧ c * den ≤ high * num ∧ c ≤ value * num / den + 1 := by
  rw [neighbour] at found
  dsimp only at found
  generalize value * num / den = down at found ⊢
  have ofDown (inside : (within even low high num den down && down != 0) = true) :
      down ≠ 0 ∧ down * den ≤ high * num := by
    rw [Bool.and_eq_true, bne_iff_ne] at inside
    exact ⟨inside.2, (le_of_within inside.1).2⟩
  have ofUp (inside : within even low high num den (down + 1) = true) :
      (down + 1) * den ≤ high * num := (le_of_within inside).2
  split at found
  · next insideDown insideUp =>
    obtain ⟨nonzero, below⟩ := ofDown insideDown
    cases found
    split_ifs
    · exact ⟨nonzero, below, Nat.le_succ down⟩
    · exact ⟨Nat.succ_ne_zero down, ofUp insideUp, Nat.le_refl _⟩
    · exact ⟨nonzero, below, Nat.le_succ down⟩
    · exact ⟨Nat.succ_ne_zero down, ofUp insideUp, Nat.le_refl _⟩
  · next insideDown _ =>
    obtain ⟨nonzero, below⟩ := ofDown insideDown
    cases found
    exact ⟨nonzero, below, Nat.le_succ c⟩
  · next insideUp =>
    cases found
    exact ⟨Nat.succ_ne_zero down, ofUp insideUp, Nat.le_refl _⟩
  · cases found

/-- A grid that is finer than the interval has a place within it. -/
theorem exists_neighbour (ordered : low * num < value * num ∧ value * num < high * num)
    (reached : den ≤ value * num) (fine : low * num + den < high * num) (positive : 0 < den) :
    ∃ c, neighbour even low value high num den = some c := by
  have nonzero : value * num / den ≠ 0 := (Nat.div_pos reached positive).ne'
  have below := Nat.div_mul_le_self (value * num) den
  have above := Nat.lt_div_mul_add (a := value * num) positive
  have up : (value * num / den + 1) * den = value * num / den * den + den := Nat.succ_mul _ den
  rw [neighbour]
  dsimp only
  split
  case h_4 outsideDown outsideUp =>
    rw [Bool.and_eq_false_iff, bne_eq_false_iff_eq, or_iff_left nonzero] at outsideDown
    rw [within] at outsideDown outsideUp
    split at outsideDown
    all_goals
      simp only [Bool.and_eq_false_iff, decide_eq_false_iff_not, *, if_false, if_true]
        at outsideDown outsideUp
      omega
  all_goals exact ⟨_, rfl⟩

variable {x : Double} {place : Int}

theorem binaryUnit_pos (e : Int) : 0 < (binaryUnit e).1 ∧ 0 < (binaryUnit e).2 := by
  rw [binaryUnit]
  split
  · exact ⟨Nat.one_pos, Nat.pow_pos (by decide)⟩
  · exact ⟨Nat.pow_pos (by decide), Nat.one_pos⟩

theorem binaryUnit_div (e : Int) : ((binaryUnit e).1 : ℚ) / (binaryUnit e).2 = 2 ^ e := by
  rw [binaryUnit]
  split
  · rw [natPow_toNat 2 (by omega), zpow_neg, Nat.cast_one, one_div, Nat.cast_ofNat, inv_inv]
  · rw [natPow_toNat 2 (by omega), Nat.cast_one, div_one, Nat.cast_ofNat]

theorem gridUnit_pos (x : Double) (place : Int) :
    0 < (x.gridUnit place).1 ∧ 0 < (x.gridUnit place).2 := by
  obtain ⟨num, den⟩ := binaryUnit_pos (x.exponent - 2)
  rw [gridUnit]
  split
  · exact ⟨Nat.mul_pos num (Nat.pow_pos (by decide)), den⟩
  · exact ⟨num, Nat.mul_pos den (Nat.pow_pos (by decide))⟩

theorem gridUnit_div (x : Double) (place : Int) :
    ((x.gridUnit place).1 : ℚ) / (x.gridUnit place).2 = 2 ^ (x.exponent - 2) / 10 ^ place := by
  rw [gridUnit, ← binaryUnit_div]
  split
  · rw [Nat.cast_mul, natPow_toNat 10 (by omega), zpow_neg, Nat.cast_ofNat]
    ring
  · rw [Nat.cast_mul, natPow_toNat 10 (by omega), Nat.cast_ofNat, div_mul_eq_div_div]

/-- Places of a grid and ends of an interval are compared as the numbers that they stand for. -/
theorem mul_gridUnit_le_iff {k : Nat} : k * (x.gridUnit place).1 ≤ c * (x.gridUnit place).2 ↔
    (k : ℚ) * 2 ^ (x.exponent - 2) ≤ c * 10 ^ place := by
  have denominator : (0 : ℚ) < (x.gridUnit place).2 := Nat.cast_pos.2 (x.gridUnit_pos place).2
  have power : (0 : ℚ) < 10 ^ place := by positivity
  rw [← div_le_iff₀ power, mul_div_assoc, ← gridUnit_div, ← mul_div_assoc, div_le_iff₀ denominator]
  exact_mod_cast Iff.rfl

theorem mul_le_gridUnit_iff {k : Nat} : c * (x.gridUnit place).2 ≤ k * (x.gridUnit place).1 ↔
    (c : ℚ) * 10 ^ place ≤ k * 2 ^ (x.exponent - 2) := by
  have denominator : (0 : ℚ) < (x.gridUnit place).2 := Nat.cast_pos.2 (x.gridUnit_pos place).2
  have power : (0 : ℚ) < 10 ^ place := by positivity
  rw [← le_div_iff₀ power, mul_div_assoc, ← gridUnit_div, ← mul_div_assoc, le_div_iff₀ denominator]
  exact_mod_cast Iff.rfl

theorem value_eq_quarters (x : Double) :
    x.value = (4 * x.significand : Nat) * 2 ^ (x.exponent - 2) := by
  rw [value, zpow_sub₀ two_ne_zero]
  push_cast
  ring

/-- What is found on a grid is not zero, not above the interval, and no more than one unit of the
grid above the number. -/
theorem onGrid_spec {n : Nat} (found : x.onGrid place = some c)
    (below : x.value < 10 ^ n * 10 ^ place) :
    c ≠ 0 ∧ c ≤ 10 ^ n ∧ c * 10 ^ place ≤ (x.significand + 1 / 2 : ℚ) * 2 ^ x.exponent := by
  rw [onGrid_eq] at found
  obtain ⟨nonzero, inside, near⟩ := neighbour_spec found
  refine ⟨nonzero, near.trans ?_, ?_⟩
  · have few : 4 * x.significand * (x.gridUnit place).1 < 10 ^ n * (x.gridUnit place).2 := by
      rw [← not_le, mul_le_gridUnit_iff, ← value_eq_quarters, not_le]
      push_cast
      exact below
    exact Nat.succ_le_of_lt ((Nat.div_lt_iff_lt_mul (x.gridUnit_pos place).2).2 few)
  · refine (mul_le_gridUnit_iff.1 inside).trans (le_of_eq ?_)
    show (((4 * x.significand + 2 : Nat) : ℚ) * _ = _)
    rw [zpow_sub₀ two_ne_zero]
    push_cast
    ring

/-- The interval around a number, in quarters of its last binary place. -/
theorem InRange.interval (inRange : x.InRange) (nonzero : x.significand ≠ 0) :
    x.interval.2.1 = 4 * x.significand ∧ x.interval.1 < 4 * x.significand ∧
      4 * x.significand < x.interval.2.2 ∧
      4 * x.significand < (x.interval.2.2 - x.interval.1) * 10 ^ 16 := by
  have digits := inRange.significand
  have power : Nat.pow 2 52 = 2 ^ 52 := rfl
  rw [Double.interval]
  dsimp only
  split <;> omega

/-- A grid of sixteen places below a number is fine enough. -/
theorem InRange.exists_onGrid (inRange : x.InRange) (nonzero : x.significand ≠ 0)
    (fine : 10 ^ 16 * 10 ^ place ≤ x.value) : ∃ c, x.onGrid place = some c := by
  obtain ⟨same, above, below, wide⟩ := inRange.interval nonzero
  obtain ⟨num, den⟩ := x.gridUnit_pos place
  have power : (0 : ℚ) < 10 ^ place := by positivity
  have unit : (0 : ℚ) < 2 ^ (x.exponent - 2) := by positivity
  rw [value_eq_quarters] at fine
  have reached : 1 * (x.gridUnit place).2 ≤ 4 * x.significand * (x.gridUnit place).1 := by
    rw [mul_le_gridUnit_iff, Nat.cast_one, one_mul]
    linarith
  have narrow : 1 * (x.gridUnit place).2 <
      (x.interval.2.2 - x.interval.1) * (x.gridUnit place).1 := by
    rw [← not_le, mul_gridUnit_le_iff, Nat.cast_one, one_mul, not_le]
    have wide : ((4 * x.significand : Nat) : ℚ) <
        (x.interval.2.2 - x.interval.1 : Nat) * 10 ^ 16 := by exact_mod_cast wide
    have := mul_lt_mul_of_pos_right wide unit
    linarith
  rw [one_mul] at reached narrow
  rw [onGrid_eq, same]
  refine exists_neighbour ⟨Nat.mul_lt_mul_of_pos_right above num,
    Nat.mul_lt_mul_of_pos_right below num⟩ reached ?_ den
  have width := Nat.sub_mul x.interval.2.2 x.interval.1 (x.gridUnit place).1
  omega

/-! ## The search -/

theorem onGrids_spec (first : Int) (more n : Nat) (last : ∃ c, x.onGrid (first - (n + more) + 1) = some c) :
    ∃ k, n ≤ k ∧ k ≤ n + more ∧ (x.onGrids first more n).2 = first - k + 1 ∧
      x.onGrid (first - k + 1) = some (x.onGrids first more n).1 := by
  induction more generalizing n with
  | zero =>
    obtain ⟨c, found⟩ := last
    rw [Nat.cast_zero, add_zero] at found
    refine ⟨n, Nat.le_refl n, Nat.le_refl n, rfl, ?_⟩
    rw [onGrids, found]
    rfl
  | succ more ih =>
    rw [onGrids]
    split
    · next c found => exact ⟨n, Nat.le_refl n, Nat.le_add_right n _, rfl, found⟩
    · have place : first - ((n + 1 : Nat) + (more : Nat)) + 1 = first - (n + (more + 1 : Nat)) + 1 := by
        push_cast
        ring
      obtain ⟨k, least, most, found⟩ := ih (n + 1) (by rwa [place])
      exact ⟨k, by omega, by omega, found⟩

/-- Zeros at the end are written as places instead. -/
theorem dropZeros_spec (fuel digits : Nat) (place : Int) (nonzero : digits ≠ 0) :
    (dropZeros fuel digits place).1 ≠ 0 ∧ (dropZeros fuel digits place).1 ≤ digits ∧
      place ≤ (dropZeros fuel digits place).2 ∧
      ((dropZeros fuel digits place).1 : ℚ) * 10 ^ (dropZeros fuel digits place).2 =
        digits * 10 ^ place := by
  induction fuel generalizing digits place with
  | zero => exact ⟨nonzero, Nat.le_refl _, le_refl _, rfl⟩
  | succ fuel ih =>
    rw [dropZeros]
    split
    · next ends =>
      obtain ⟨nonzero', least, most, same⟩ := ih (digits / 10) (place + 1) (by omega)
      refine ⟨nonzero', by omega, by omega, same.trans ?_⟩
      have tens : ((digits / 10 : Nat) : ℚ) * 10 = digits := by
        exact_mod_cast Nat.div_mul_cancel (Nat.dvd_of_mod_eq_zero ends.2)
      rw [zpow_add_one₀ (by norm_num), ← tens]
      ring
    · exact ⟨nonzero, Nat.le_refl _, le_refl _, rfl⟩

/-- The digits of the shortest decimal of a number are at most seventeen and not zero, and the decimal
is above the number by half a unit of its last binary place at most. -/
theorem InRange.shortest_spec (inRange : x.InRange) (nonzero : x.significand ≠ 0) :
    x.shortest.1 ≠ 0 ∧ x.shortest.1 ≤ 10 ^ 17 ∧ -340 ≤ x.shortest.2 ∧
      x.shortest.1 * 10 ^ x.shortest.2 ≤ (x.significand + 1 / 2 : ℚ) * 2 ^ x.exponent := by
  obtain ⟨least, most⟩ := inRange.value_bounds nonzero
  have place := @firstPlace_spec x.ratio.1 _ x.ratio_den_pos
  rw [ratio_div] at place
  have below : x.value < 10 ^ (309 : ℤ) := by
    refine lt_trans ?_ most
    rw [value]
    gcongr
    linarith
  obtain ⟨low, high⟩ := place least below
  rw [shortest]
  dsimp only
  generalize firstPlace x.ratio.1 x.ratio.2 = first at low high ⊢
  have started : -324 ≤ first := by
    by_contra before
    have : (10 : ℚ) ^ (first + 1) ≤ 10 ^ (-324 : ℤ) :=
      zpow_le_zpow_right₀ (by norm_num) (by omega)
    linarith
  have finest : ∃ c, x.onGrid (first - ((1 : Nat) + (16 : Nat)) + 1) = some c := by
    refine inRange.exists_onGrid nonzero (le_trans (le_of_eq ?_) low)
    rw [← zpow_natCast, ← zpow_add₀ (by norm_num)]
    congr 1
    push_cast
    ring
  obtain ⟨k, positive, few, place, found⟩ := onGrids_spec first 16 1 finest
  have below : x.value < 10 ^ k * 10 ^ (first - k + 1) := by
    rw [← zpow_natCast, ← zpow_add₀ (by norm_num)]
    convert high using 2
    ring
  obtain ⟨nonzero, digits, near⟩ := onGrid_spec found below
  rw [← place] at near
  obtain ⟨nonzero', fewer, later, same⟩ := dropZeros_spec 20 _ (x.onGrids first 16 1).2 nonzero
  refine ⟨nonzero', fewer.trans (digits.trans (Nat.pow_le_pow_right (by decide) few)), by omega, ?_⟩
  rw [same]
  exact near

theorem InRange.shortest_place_le (inRange : x.InRange) (nonzero : x.significand ≠ 0) :
    x.shortest.2 ≤ 308 := by
  obtain ⟨nonzero', -, -, near⟩ := inRange.shortest_spec nonzero
  have one : (1 : ℚ) ≤ x.shortest.1 := by exact_mod_cast Nat.pos_of_ne_zero nonzero'
  have power : (10 : ℚ) ^ x.shortest.2 < 10 ^ (309 : ℤ) := by
    calc
      (10 : ℚ) ^ x.shortest.2 ≤ x.shortest.1 * 10 ^ x.shortest.2 :=
        le_mul_of_one_le_left (by positivity) one
      _ ≤ (x.significand + 1 / 2) * 2 ^ x.exponent := near
      _ < 10 ^ (309 : ℤ) := (inRange.value_bounds nonzero).2
  exact Int.le_of_lt_add_one ((zpow_lt_zpow_iff_right₀ (by norm_num)).1 power)

end SchemaBinder.Double
