import SchemaBinder.Decimal.Text
import SchemaBinder.Decimal.Word
import SchemaBinder.Json.Token
import SchemaBinder.Setting.Basic
/-!
# Plain texts

What a text without quotes is where any type will do: nothing, a truth value, a number, or
itself.

Whole numbers are decimal, or hexadecimal, octal or binary after `0x`, `0o` and `0b`.  Digits
with a needless zero in front are a text.  A whole number is kept if it fits 64 bits; it is of
no known type if it fits 128 bits, and is any other number if it does not.
-/

namespace SchemaBinder.Setting.Plain

/-! ## Words -/

/-- Is a text a word for nothing? -/
def isNull (s : String) : Bool :=
  ["null", "Null", "NULL", "~"].contains s

/-- The truth value that a word stands for. -/
def bool? (s : String) : Option Bool :=
  if ["true", "True", "TRUE"].contains s then some true
  else if ["false", "False", "FALSE"].contains s then some false
  else none

/-! ## Whole numbers -/

/-- The value of digits of a base. -/
def digits? (base : Nat) (cs : List Char) : Option Nat :=
  if cs.isEmpty then none
  else cs.foldlM (fun n c => do
    let d ← Json.Token.hexValue? c
    if d < base then some (n * base + d) else none) 0

/-- The value of digits after the mark of their base. -/
def basedDigits? : List Char → Option Nat
  | '0' :: 'x' :: cs => digits? 16 cs
  | '0' :: 'o' :: cs => digits? 8 cs
  | '0' :: 'b' :: cs => digits? 2 cs
  | _ => none

/-- Are characters digits with a needless zero in front? -/
def hasNeedlessZero (cs : List Char) : Bool :=
  match (Decimal.splitSign cs).2 with
  | '0' :: c :: cs => (c :: cs).all Char.isDigit
  | _ => false

/-- The whole number that a text denotes. -/
def whole? (s : String) : Option Int :=
  let cs := s.toList
  let (negative, magnitude) := Decimal.splitSign cs
  let n := basedDigits? magnitude <|>
    (if hasNeedlessZero cs then none else digits? 10 magnitude)
  n.map fun n => if negative then -(n : Int) else n

/-- The natural number of 64 bits that a text denotes.  It has no minus sign. -/
def word? (s : String) : Option UInt64 :=
  if s.toList.head? = some '-' then none
  else (whole? s).bind Decimal.word?

/-! ## Other numbers -/

/-- Words for numbers that are not finite. -/
def nonFiniteWords : List String :=
  [".inf", ".Inf", ".INF", "+.inf", "+.Inf", "+.INF", "-.inf", "-.Inf", "-.INF", ".nan", ".NaN",
    ".NAN"]

/-- The number that a text denotes, where it need not be whole. -/
def number? (s : String) : Option Setting :=
  if nonFiniteWords.contains s then some nonFinite
  else (Decimal.double? s.toList).map float

/-! ## Any type -/

/-- A whole number as a setting, unless it is too large for one. -/
def ofWhole? (n : Int) : Option Setting :=
  if Decimal.fitsSigned 63 n || Decimal.fitsUnsigned 64 n then some (int n)
  else if Decimal.fitsSigned 127 n || Decimal.fitsUnsigned 128 n then some unknown
  else none

/-- What a plain text is. -/
def settle (s : String) : Setting :=
  if s = "" || isNull s then null
  else
    match bool? s with
    | some b => bool b
    | none =>
      match (whole? s).bind ofWhole? with
      | some v => v
      | none =>
        if hasNeedlessZero s.toList then text s else (number? s).getD (text s)

/-- Is a plain text nothing where a text or nothing is wanted? -/
def isAbsent (s : String) : Bool := s = "" || isNull s

end SchemaBinder.Setting.Plain
