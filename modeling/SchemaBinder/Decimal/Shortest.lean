import SchemaBinder.Decimal.Double
/-!
# The shortest decimal of a number

`Double.shortest` finds the decimal with the fewest digits that reads back as a given number:
among the grids of one, two, … seventeen digits, the first on which one of the value's two
neighbours lies within the interval that rounds to the number.  Of two such neighbours the
nearer is taken, and the even one at an exact tie.

`Double.render` writes it.  The number is written positionally while its first digit stands
between the fifth place after the point and the sixteenth before it, and with an exponent
outside.
-/

namespace SchemaBinder

/-- The decimal digits of a number without a sign, most significant first. -/
def decimalDigits (n : Nat) : List Char := Nat.toDigits 10 n

namespace Double

/-- The largest `k` up to a bound with `10 ^ k * den ≤ num`, by trying each from the bound down. -/
def floorLog (num den : Nat) : Nat → Nat
  | 0 => 0
  | k + 1 => if Nat.pow 10 (k + 1) * den ≤ num then k + 1 else floorLog num den k

/-- The place of the first digit of a positive fraction: its value is between `10 ^ place` and
`10 ^ (place + 1)`. -/
def firstPlace (num den : Nat) : Int :=
  if den ≤ num then floorLog num den 309
  else
    -- `den / num` is above one, so the first place is the least `k` with `10 ^ k` at least that
    let k := floorLog den num 324
    if Nat.pow 10 k * num = den then -k else -(k + 1 : Int)

/-- The interval of fractions that round to a number, in units of a quarter of its last binary
place: the lower end, the value and the upper end. -/
def interval (x : Double) : Nat × Nat × Nat :=
  let m := 4 * x.significand
  let below := if x.significand = Nat.pow 2 52 ∧ x.exponent ≠ minExponent then 1 else 2
  (m - below, m, m + 2)

/-- The best decimal of a number with its last digit at a given place, if there is one. -/
def onGrid (x : Double) (place : Int) : Option Nat :=
  -- everything in units of a quarter of the last binary place times a power of ten
  let (low, value, high) := x.interval
  let (unitNum, unitDen) : Nat × Nat :=
    let e := x.exponent - 2
    if e < 0 then (1, Nat.pow 2 (-e).toNat) else (Nat.pow 2 e.toNat, 1)
  let (num, den) : Nat × Nat :=
    if place < 0 then (unitNum * Nat.pow 10 (-place).toNat, unitDen)
    else (unitNum, unitDen * Nat.pow 10 place.toNat)
  -- a candidate `c` stands for `c * den` where the value is `value * num`
  let inside (c : Nat) : Bool :=
    if x.significand % 2 = 0 then low * num ≤ c * den && c * den ≤ high * num
    else low * num < c * den && c * den < high * num
  let down := value * num / den
  let up := down + 1
  match inside down && down != 0, inside up with
  | true, true =>
    let a := value * num - down * den
    let b := up * den - value * num
    some (if a < b then down else if b < a then up else if down % 2 = 0 then down else up)
  | true, false => some down
  | false, true => some up
  | false, false => none

/-- The first decimal found on the grids of `n`, `n + 1`, … digits, with its last place. -/
def onGrids (x : Double) (first : Int) : Nat → Nat → Nat × Int
  | 0, n => ((x.onGrid (first - n + 1)).getD 0, first - n + 1)
  | more + 1, n =>
    match x.onGrid (first - n + 1) with
    | some c => (c, first - n + 1)
    | none => onGrids x first more (n + 1)

/-- A count of digits without the zeros at its end, and the place of the last one left. -/
def dropZeros : Nat → Nat → Int → Nat × Int
  | 0, digits, place => (digits, place)
  | fuel + 1, digits, place =>
    if digits ≠ 0 ∧ digits % 10 = 0 then dropZeros fuel (digits / 10) (place + 1)
    else (digits, place)

/-- The digits of the shortest decimal of a positive number and the place of the last. -/
def shortest (x : Double) : Nat × Int :=
  let (num, den) := x.ratio
  let (digits, place) := x.onGrids (firstPlace num den) 16 1
  dropZeros 20 digits place

/-- The text of a number: the shortest decimal that reads back, with at least one digit on both
sides of the point, and an exponent for very large and very small numbers. -/
def render (x : Double) : String :=
  let sign := if x.negative then "-" else ""
  if x.isZero then sign ++ "0.0"
  else
    let (digits, place) := x.shortest
    let ds := decimalDigits digits
    let first : Int := place + ds.length - 1
    let body : List Char :=
      if first < -5 ∨ 15 < first then
        let mantissa := match ds with
          | [] => []
          | [d] => [d]
          | d :: rest => d :: '.' :: rest
        let exponent := (if first < 0 then '-' else '+') :: decimalDigits first.natAbs
        mantissa ++ 'e' :: exponent
      else if first < 0 then
        '0' :: '.' :: List.replicate (-first - 1).toNat '0' ++ ds
      else if 0 ≤ place then
        ds ++ List.replicate place.toNat '0' ++ ['.', '0']
      else
        let whole := (first + 1).toNat
        ds.take whole ++ '.' :: ds.drop whole
    sign ++ String.ofList body

end Double

end SchemaBinder
