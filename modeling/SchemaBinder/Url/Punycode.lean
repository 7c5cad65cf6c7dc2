import SchemaBinder.Text.Blank
/-!
# Punycode

A label with characters beyond ASCII is written with its ASCII characters first, and then the places
of the others as a sequence of digits with thirty-six values, whose weights adapt as the sequence goes
on.  The others come in the order of their code points, so each distance is counted from the place of
the one before.

Reading goes digit by digit.  The last digit of a distance is known by being below its threshold.
-/

namespace SchemaBinder.Url.Punycode

/-! ## Digits and weights -/

/-- A digit of thirty-six values. -/
def digit (n : Nat) : Char :=
  if n < 26 then Char.ofNat ('a'.toNat + n) else Char.ofNat ('0'.toNat + n - 26)

/-- The threshold of the digit at a weight `k` under a bias. -/
def threshold (k bias : Nat) : Nat :=
  if k ≤ bias then 1 else if bias + 26 ≤ k then 26 else k - bias

theorem threshold_pos (k bias : Nat) : 0 < threshold k bias := by
  unfold threshold
  grind

/-- The digits of a distance, from a weight on.  Each digit but the last leaves a smaller
distance. -/
def digits (bias q k : Nat) : List Char :=
  let t := threshold k bias
  if q < t then [digit q]
  else digit (t + (q - t) % (36 - t)) :: digits bias ((q - t) / (36 - t)) (k + 36)
termination_by q
decreasing_by
  have := threshold_pos k bias
  have := Nat.div_le_self (q - threshold k bias) (36 - threshold k bias)
  omega

/-- The bias that a distance leads to, from a weight on.  A great distance is divided by 35 until
it is small, and each division moves the bias on by one digit. -/
def biasFor (delta k : Nat) : Nat :=
  if 455 < delta then biasFor (delta / 35) (k + 36) else k + 36 * delta / (delta + 38)
termination_by delta
decreasing_by omega

/-- The bias after a distance has been written. -/
def adapt (delta count : Nat) (isFirst : Bool) : Nat :=
  let d := if isFirst then delta / 700 else delta / 2
  biasFor (d + d / count) 0

/-! ## Writing -/

/-- What encoding has reached: how many characters are written, the distance since the last one,
the bias, and the text. -/
structure State where
  /-- The number of characters written. -/
  written : Nat
  /-- The distance since the last one. -/
  delta : Nat
  /-- The bias of the next distance. -/
  bias : Nat
  /-- The text so far. -/
  text : List Char

/-- Writes every occurrence of the code point `n` in a label. -/
def writeAll (n basic : Nat) (s : State) (c : Char) : State :=
  if c.toNat < n then { s with delta := s.delta + 1 }
  else if c.toNat = n then
    { written := s.written + 1, delta := 0,
      bias := adapt s.delta (s.written + 1) (s.written == basic),
      text := s.text ++ digits s.bias s.delta 36 }
  else s

/-- Writes the code points from `n` on that a label holds, in ascending order. -/
def encodeFrom (label : List Char) (basic : Nat) : Nat → Nat → State → State
  | 0, _, s => s
  | fuel + 1, n, s =>
    match (label.map (·.toNat)).filter (n ≤ ·) |>.min? with
    | none => s
    | some m =>
      let s := { s with delta := s.delta + (m - n) * (s.written + 1) }
      let s := label.foldl (writeAll m basic) s
      encodeFrom label basic fuel (m + 1) { s with delta := s.delta + 1 }

/-- What a label in Punycode begins with. -/
def mark : List Char := "xn--".toList

/-- A label in ASCII. -/
def encode (label : List Char) : List Char :=
  let basic := label.filter (·.toNat < 0x80)
  if basic.length = label.length then label
  else
    let start := if basic.isEmpty then [] else basic ++ ['-']
    let s : State := ⟨basic.length, 0, 72, start⟩
    mark ++ (encodeFrom label basic.length label.length 0x80 s).text

/-! ## Reading -/

/-- The value of a digit. -/
def digitValue? (c : Char) : Option Nat :=
  if 'a' ≤ c ∧ c ≤ 'z' then some (c.toNat - 'a'.toNat)
  else if '0' ≤ c ∧ c ≤ '9' then some (c.toNat - '0'.toNat + 26)
  else none

/-- What decoding has reached: the label so far, the last code point that was put in, the place from
which the next distance counts, the bias, and the part of that distance that has been read, with the
weight of its next digit. -/
structure Decoding where
  /-- The label so far. -/
  label : List Char
  /-- The last code point that was put in. -/
  code : Nat
  /-- The place from which the next distance counts. -/
  place : Nat
  /-- The bias of that distance. -/
  bias : Nat
  /-- The part of it that has been read. -/
  distance : Nat
  /-- The value of its next digit. -/
  value : Nat
  /-- The weight of its next digit. -/
  weight : Nat

/-- Puts the next character in, whose distance has been read. -/
def Decoding.insert (s : Decoding) (distance : Nat) : Option Decoding :=
  let count := s.label.length + 1
  let code := s.code + (s.place + distance) / count
  let place := (s.place + distance) % count
  if code.isValidChar then
    some {
      label := s.label.insertIdx place (Char.ofNat code)
      code
      place := place + 1
      bias := adapt distance count (s.place == 0)
      distance := 0
      value := 1
      weight := 36 }
  else none

/-- Reads one digit. -/
def Decoding.read (s : Decoding) (c : Char) : Option Decoding := do
  let d ← digitValue? c
  let t := threshold s.weight s.bias
  let distance := s.distance + d * s.value
  if d < t then s.insert distance
  else
    return { s with distance, value := s.value * (36 - t), weight := s.weight + 36 }

/-- The label that a text without its mark stands for. -/
def decode? (text : List Char) : Option (List Char) := do
  let (basic, rest) := (Text.splitLast '-' text).getD ([], text)
  let s ← rest.foldlM Decoding.read ⟨basic, 0x80, 0, 72, 0, 1, 36⟩
  if s.weight = 36 then some s.label else none

end SchemaBinder.Url.Punycode
