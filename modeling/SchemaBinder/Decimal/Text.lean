import SchemaBinder.Decimal.Double
/-!
# Reading decimal numbers

The number of double precision that a decimal text denotes.  The text has a sign, digits around
a point, and an exponent; the sign, the point, the exponent and one of the two groups of digits
may be left out.
-/

namespace SchemaBinder.Decimal

/-- The value of digits after the digits of another value. -/
def natFrom (n : Nat) (cs : List Char) : Nat :=
  cs.foldl (fun n c => n * 10 + (c.toNat - '0'.toNat)) n

/-- The value of digits. -/
def nat (cs : List Char) : Nat := natFrom 0 cs

/-- Characters without a sign at their front, and whether it is the minus sign. -/
def splitSign : List Char → Bool × List Char
  | '-' :: cs => (true, cs)
  | '+' :: cs => (false, cs)
  | cs => (false, cs)

/-- The digits at the front of characters, and what follows them. -/
def splitDigits (cs : List Char) : List Char × List Char :=
  (cs.takeWhile Char.isDigit, cs.dropWhile Char.isDigit)

/-- The exponent that characters denote, zero if there are none. -/
def exponent? : List Char → Option Int
  | [] => some 0
  | c :: cs =>
    if c = 'e' || c = 'E' then
      let (negative, digits) := splitSign cs
      if digits.isEmpty || !digits.all Char.isDigit then none
      else some (if negative then -(nat digits : Int) else nat digits)
    else none

/-- The bound on the power of ten of a number that is neither too large nor nearest to zero. -/
def farPower : Int := 400

/-- The number nearest to `n * 10 ^ power`, where `n` has so many digits. -/
def nearest? (negative : Bool) (n digits : Nat) (power : Int) : Option Double :=
  if n = 0 then some (.zero negative)
  else if farPower < power + digits then none
  else if power + digits < -farPower then some (.zero negative)
  else Double.ofDecimal? negative n power

/-- The number that characters denote, unless it is too large. -/
def double? (cs : List Char) : Option Double := do
  let (negative, cs) := splitSign cs
  let (whole, cs) := splitDigits cs
  let (fraction, cs) := match cs with
    | '.' :: cs => splitDigits cs
    | cs => ([], cs)
  if whole.isEmpty && fraction.isEmpty then none
  else
    let power ← exponent? cs
    let digits := whole ++ fraction
    nearest? negative (nat digits) digits.length (power - fraction.length)

end SchemaBinder.Decimal
