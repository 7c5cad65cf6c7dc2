/-!
# Text as octets

The UTF-8 form of text, and how octets that are not the form of any text are read: every
longest start of a character that is not completed counts as one replacement character.

The reader is a machine over single octets.  Its state is what the character being read still
needs; an octet that does not continue the character starts the next one.
-/

namespace SchemaBinder.Text

/-- The octets of characters. -/
def octets (cs : List Char) : List UInt8 :=
  cs.flatMap String.utf8EncodeChar

/-- The character that stands for octets that are no character. -/
def replacement : Char := Char.ofNat 0xFFFD

/-- A character of which some octets have been read. -/
structure Partial where
  /-- How many octets are still to come. -/
  needed : Nat
  /-- The least value of the next one. -/
  low : Nat
  /-- The greatest value of the next one. -/
  high : Nat
  /-- The code point so far. -/
  code : Nat

/-- The characters completed by the first octet of a character, and the state after it. -/
def firstOctet (b : Nat) : List Char × Option Partial :=
  if b < 0x80 then ([Char.ofNat b], none)
  else if 0xC2 ≤ b ∧ b ≤ 0xDF then ([], some ⟨1, 0x80, 0xBF, b - 0xC0⟩)
  else if b = 0xE0 then ([], some ⟨2, 0xA0, 0xBF, 0⟩)
  else if b = 0xED then ([], some ⟨2, 0x80, 0x9F, 0xD⟩)
  else if 0xE1 ≤ b ∧ b ≤ 0xEF then ([], some ⟨2, 0x80, 0xBF, b - 0xE0⟩)
  else if b = 0xF0 then ([], some ⟨3, 0x90, 0xBF, 0⟩)
  else if b = 0xF4 then ([], some ⟨3, 0x80, 0x8F, 4⟩)
  else if 0xF1 ≤ b ∧ b ≤ 0xF3 then ([], some ⟨3, 0x80, 0xBF, b - 0xF0⟩)
  else ([replacement], none)

/-- The characters completed by an octet, and the state after it. -/
def nextOctet (state : Option Partial) (b : Nat) : List Char × Option Partial :=
  match state with
  | none => firstOctet b
  | some p =>
    if p.low ≤ b ∧ b ≤ p.high then
      let code := p.code * 64 + b % 64
      if p.needed = 1 then ([Char.ofNat code], none)
      else ([], some ⟨p.needed - 1, 0x80, 0xBF, code⟩)
    else
      let (cs, state') := firstOctet b
      (replacement :: cs, state')

/-- The characters of octets from a state on. -/
def charsFrom (state : Option Partial) : List UInt8 → List Char
  | [] => if state.isSome then [replacement] else []
  | b :: bs =>
    let (cs, state') := nextOctet state b.toNat
    cs ++ charsFrom state' bs

/-- The characters of octets. -/
def ofOctets (bs : List UInt8) : List Char := charsFrom none bs

end SchemaBinder.Text
