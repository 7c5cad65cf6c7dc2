import SchemaBinder.Decimal.Word
import SchemaBinder.Json.Basic
/-!
# Numbers of JSON

How the text of a number is read.  An integer of 64 bits stays an integer.  Every other number
is read in double precision, in two rounded steps: the leading digits that fit into 64 bits are
one number, and it is multiplied with or divided by a power of ten.  So a number with a fraction
or an exponent need not be the nearest one in its last place, and a number beyond the largest
double is refused.
-/

namespace SchemaBinder.Json.Number

/-- The value of a digit. -/
def digit (c : Char) : Nat := c.toNat - '0'.toNat

/-- Appends digits to a number while the result fits into 64 bits.  Also returns how many digits
were appended and how many were left over. -/
def gather : Nat → List Char → Nat × Nat × Nat
  | n, [] => (n, 0, 0)
  | n, c :: cs =>
    let m := n * 10 + digit c
    if Decimal.fits 64 m then
      let (r, used, left) := gather m cs
      (r, used + 1, left)
    else (n, 0, cs.length + 1)

/-- A power of ten in double precision. -/
def powerOfTen (k : Nat) : Double :=
  (Double.ofDecimal? false 1 k).getD (Double.zero false)

/-- A number times a power of ten, in steps of at most 308 places.  Four steps take every number
of 64 bits to zero. -/
def scale? : Nat → Double → Int → Option Double
  | 0, x, _ => some x
  | fuel + 1, x, power =>
    if power.natAbs ≤ 308 then
      if 0 ≤ power then x.mul? (powerOfTen power.natAbs) else x.div? (powerOfTen power.natAbs)
    else if x.isZero then some x
    else if 0 ≤ power then none
    else (x.div? (powerOfTen 308)).bind fun y => scale? fuel y (power + 308)

/-- The double with a significand and a power of ten. -/
def ofParts? (negative : Bool) (significand : Nat) (power : Int) : Option Json :=
  (Double.ofNat? significand).bind fun x =>
    (scale? 5 x power).map fun y => .float (if negative then y.neg else y)

/-- The number with a whole significand of which `left` digits did not fit. -/
def ofWhole? (negative : Bool) (n left : Nat) : Option Json :=
  if left ≠ 0 then ofParts? negative n left
  else if !negative then some (.int n)
  else if n = 0 ∨ Nat.pow 2 63 < n then (Double.ofNat? n).map fun x => .float x.neg
  else some (.int (-n))

/-- An exponent: an optional sign and at least one digit, and nothing else. -/
def exponent? (cs : List Char) : Option (Bool × Nat) :=
  let (negative, ds) := match cs with
    | '-' :: ds => (true, ds)
    | '+' :: ds => (false, ds)
    | ds => (false, ds)
  if ds.isEmpty || !ds.all Char.isDigit then none
  else some (negative, ds.foldl (fun n c => n * 10 + digit c) 0)

/-- The number with a significand, a power of ten and the text of an exponent after them.  An
exponent beyond 31 bits is never added up. -/
def withExponent? (negative : Bool) (significand : Nat) (power : Int) (cs : List Char) :
    Option Json :=
  (exponent? cs).bind fun (down, e) =>
    if Decimal.fits 31 e then ofParts? negative significand (if down then power - e else power + e)
    else if significand = 0 ∨ down then
      some (.float (Double.zero negative))
    else none

/-- The number with a whole part and the text after its point. -/
def withFraction? (negative : Bool) (whole left : Nat) (cs : List Char) : Option Json :=
  let ds := cs.takeWhile Char.isDigit
  let (significand, used, _) := gather whole ds
  let power : Int := (left : Int) - used
  if ds.isEmpty then none
  else
    match cs.dropWhile Char.isDigit with
    | [] => ofParts? negative significand power
    | c :: rest => if c = 'e' ∨ c = 'E' then withExponent? negative significand power rest else none

/-- The number without a sign whose whole text is given. -/
def unsigned? (negative : Bool) (cs : List Char) : Option Json :=
  let ds := cs.takeWhile Char.isDigit
  let (whole, _, left) := gather 0 ds
  if ds.isEmpty || (ds.head? == some '0' && 1 < ds.length) then none
  else
    match cs.dropWhile Char.isDigit with
    | [] => ofWhole? negative whole left
    | c :: rest =>
      if c = '.' then withFraction? negative whole left rest
      else if c = 'e' ∨ c = 'E' then withExponent? negative whole left rest
      else none

/-- The number whose whole text is given. -/
def ofChars? : List Char → Option Json
  | '-' :: cs => unsigned? true cs
  | cs => unsigned? false cs

/-- The characters that can stand in the text of a number. -/
def isPart (c : Char) : Bool :=
  c.isDigit || c == '-' || c == '+' || c == '.' || c == 'e' || c == 'E'

end SchemaBinder.Json.Number
