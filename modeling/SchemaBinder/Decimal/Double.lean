/-!
# Double-precision numbers, exactly

A finite number of double precision is a sign, a significand below `2 ^ 53` and a power of two.
All arithmetic here is on natural numbers, so every result can be computed in a proof.

One function rounds: `Double.ofRatio?` takes the fraction `num / den` to the nearest number,
ties to the even significand, and fails when that number would not be finite.  The product and
the quotient of two numbers are the rounded exact ones, and a decimal text is the rounded
fraction it denotes.

The representation is canonical: the significand has 53 digits, or the exponent is least.  So
two numbers are the same value exactly when they are equal, zero of either sign apart.
-/

namespace SchemaBinder

/-- A finite number of double precision, `± significand * 2 ^ exponent`. -/
structure Double where
  /-- Does the number carry the minus sign? -/
  negative : Bool
  /-- The significand, below `2 ^ 53`. -/
  significand : Nat
  /-- The power of two, from `-1074` to `971`. -/
  exponent : Int
deriving DecidableEq, Inhabited, Repr

namespace Double

/-- The least power of two. -/
def minExponent : Int := -1074

/-- The greatest power of two. -/
def maxExponent : Int := 971

/-- Zero of a given sign. -/
def zero (negative : Bool) : Double := ⟨negative, 0, minExponent⟩

/-- Is the number zero, of either sign? -/
def isZero (x : Double) : Bool := x.significand == 0

/-- The number with the other sign. -/
def neg (x : Double) : Double := { x with negative := !x.negative }

/-- The quotient of two natural numbers to the nearest one, ties to even. -/
def roundDiv (num den : Nat) : Nat :=
  let q := num / den
  let r := num % den
  if 2 * r < den then q
  else if den < 2 * r then q + 1
  else if q % 2 = 0 then q else q + 1

/-- The fraction `num / den * 2 ^ (-e)` as numerator and denominator. -/
def scaled (num den : Nat) (e : Int) : Nat × Nat :=
  if e < 0 then (num * Nat.pow 2 (-e).toNat, den) else (num, den * Nat.pow 2 e.toNat)

/-- A power of two that leaves 53 or 54 digits before the point of a positive fraction. -/
def scaleOf (num den : Nat) : Int :=
  let e : Int := (Nat.log2 num : Int) - Nat.log2 den - 53
  let (n, d) := scaled num den e
  if n / d < Nat.pow 2 53 then e else e + 1

/-- The number nearest to a positive or zero fraction, with a given sign.  There is none when
it would not be finite. -/
def ofRatio? (negative : Bool) (num den : Nat) : Option Double :=
  if num = 0 then some (zero negative)
  else
    let e := max (scaleOf num den) minExponent
    let (n, d) := scaled num den e
    let q := roundDiv n d
    let (q, e) := if q = Nat.pow 2 53 then (Nat.pow 2 52, e + 1) else (q, e)
    if e ≤ maxExponent then some ⟨negative, q, e⟩ else none

/-- The numerator and the denominator of the magnitude of a number. -/
def ratio (x : Double) : Nat × Nat :=
  if x.exponent < 0 then (x.significand, Nat.pow 2 (-x.exponent).toNat)
  else (x.significand * Nat.pow 2 x.exponent.toNat, 1)

/-- The product of two numbers, unless it is too large. -/
def mul? (x y : Double) : Option Double :=
  let (a, b) := x.ratio
  let (c, d) := y.ratio
  ofRatio? (x.negative != y.negative) (a * c) (b * d)

/-- The quotient of two numbers, unless it is too large.  Nothing is divided by zero. -/
def div? (x y : Double) : Option Double :=
  let (a, b) := x.ratio
  let (c, d) := y.ratio
  if c = 0 then none else ofRatio? (x.negative != y.negative) (a * d) (b * c)

/-- The number nearest to a natural number. -/
def ofNat? (n : Nat) : Option Double := ofRatio? false n 1

/-- The number nearest to `digits * 10 ^ power`. -/
def ofDecimal? (negative : Bool) (digits : Nat) (power : Int) : Option Double :=
  if power < 0 then ofRatio? negative digits (Nat.pow 10 (-power).toNat)
  else ofRatio? negative (digits * Nat.pow 10 power.toNat) 1

/-- Equality of values, for which the two zeros are one. -/
def same (x y : Double) : Bool :=
  x == y || (x.isZero && y.isZero)

end Double

end SchemaBinder
