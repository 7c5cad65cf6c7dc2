import SchemaBinder.Text.Octets
/-!
# Percent encoding

A character that a part of a URL cannot hold is written as the octets of its UTF-8 form, each as
a percent sign and two capital hexadecimal digits.  Which characters these are depends on the
part.
-/

namespace SchemaBinder.Url

/-- A capital hexadecimal digit. -/
def hexDigit (n : Nat) : Char :=
  if n < 10 then Char.ofNat ('0'.toNat + n) else Char.ofNat ('A'.toNat + n - 10)

/-- The value of a hexadecimal digit. -/
def hexValue? (c : Char) : Option Nat :=
  if '0' ≤ c ∧ c ≤ '9' then some (c.toNat - '0'.toNat)
  else if 'a' ≤ c ∧ c ≤ 'f' then some (c.toNat - 'a'.toNat + 10)
  else if 'A' ≤ c ∧ c ≤ 'F' then some (c.toNat - 'A'.toNat + 10)
  else none

/-- The octets of a character, percent encoded. -/
def percent (c : Char) : List Char :=
  (String.utf8EncodeChar c).flatMap fun b => ['%', hexDigit (b.toNat / 16), hexDigit (b.toNat % 16)]

/-- Characters with the ones of a class percent encoded. -/
def encode (mustEncode : Char → Bool) (cs : List Char) : List Char :=
  cs.flatMap fun c => if mustEncode c then percent c else [c]

/-- The octets of characters with percent signs. -/
def decode : List Char → List UInt8
  | '%' :: a :: b :: rest =>
    match hexValue? a, hexValue? b with
    | some x, some y => UInt8.ofNat (x * 16 + y) :: decode rest
    | _, _ => '%'.toNat.toUInt8 :: decode (a :: b :: rest)
  | c :: rest => String.utf8EncodeChar c ++ decode rest
  | [] => []

/-! ## What each part cannot hold -/

/-- Controls and everything beyond ASCII. -/
def notGraphic (c : Char) : Bool := c.toNat < 0x20 || 0x7E < c.toNat

/-- The characters encoded in a fragment. -/
def notFragment (c : Char) : Bool :=
  notGraphic c || c == ' ' || c == '"' || c == '<' || c == '>' || c == '\x60'

/-- The characters encoded in a path. -/
def notPath (c : Char) : Bool :=
  notFragment c || c == '#' || c == '?' || c == '\x7b' || c == '\x7d'

/-- The characters encoded in a query. -/
def notQuery (c : Char) : Bool :=
  notGraphic c || c == ' ' || c == '"' || c == '#' || c == '<' || c == '>'

/-- The characters encoded in the query of a URL of a special scheme. -/
def notSpecialQuery (c : Char) : Bool := notQuery c || c == '\''

/-- The characters encoded in a user name or a password. -/
def notUser (c : Char) : Bool :=
  notPath c || c == '/' || c == ':' || c == ';' || c == '=' || c == '@' || c == '[' || c == '\\'
    || c == ']' || c == '^' || c == '|'

end SchemaBinder.Url
