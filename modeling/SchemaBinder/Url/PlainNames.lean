import SchemaBinder.Text.Letter
import SchemaBinder.Text.Octets
import SchemaBinder.Url.Domain
import SchemaBinder.Url.Punycode
/-!
# Plain domain names

Rules for domain names with no other tables than those for letters.  They are exact for names in ASCII
that have no label in Punycode.  In other names they know of fewer characters that are forbidden or
stand for others.

The small form of a letter is taken character by character.  Full-width forms of ASCII characters
count as those characters, the ideographic full stops as dots, and the characters without a shape as
nothing.  A label in Punycode must be the one that is written for the characters it stands for.
-/

namespace SchemaBinder.Url

/-- Has a character no shape, so that a name is read as if it were not there? -/
def isShapeless (c : Char) : Bool :=
  let n := c.toNat
  n == 0xAD || n == 0x200B || n == 0x2060 || n == 0xFEFF || (0xFE00 ≤ n && n ≤ 0xFE0F)

/-- The characters that a character of a name stands for. -/
def mapped (c : Char) : List Char :=
  let n := c.toNat
  if isShapeless c then []
  else if n = 0x3002 ∨ n = 0xFF61 then ['.']
  else if 0xFF01 ≤ n ∧ n ≤ 0xFF5E then [(Char.ofNat (n - 0xFEE0)).toLower]
  else Text.toLower c

/-- May a name not hold a character? -/
def isForbidden (c : Char) : Bool :=
  c.toNat ≤ 0x20 || (0x7F ≤ c.toNat && c.toNat ≤ 0x9F) || "#%/:<>?@[\\]^|".toList.contains c
    || c == Text.replacement || (0x80 ≤ c.toNat && Text.isBlank c)

/-- Can the characters stand in a label as they are? -/
def isSettled (label : List Char) : Bool :=
  !label.any isForbidden && label.flatMap mapped == label

/-- A label in ASCII, unless it is in Punycode and no label is written so. -/
def labelToAscii? (label : List Char) : Option (List Char) :=
  match Text.after? Punycode.mark label with
  | none => some (Punycode.encode label)
  | some text => do
    let decoded ← Punycode.decode? text
    if isSettled decoded && Punycode.encode decoded == label then some label else none

/-- A name in small letters and in ASCII, unless it holds a forbidden character. -/
def domainToAscii? (octets : List UInt8) : Option (List Char) :=
  let cs := (Text.ofOctets octets).flatMap mapped
  if cs.any isForbidden then none
  else ((Text.split '.' cs).mapM labelToAscii?).map ['.'].intercalate

/-- The rules that hold unless others are given. -/
instance : DomainNames := ⟨domainToAscii?⟩

end SchemaBinder.Url
