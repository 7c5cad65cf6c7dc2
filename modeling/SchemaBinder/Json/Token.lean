import SchemaBinder.Json.Number
/-!
# Tokens of JSON

The text of a value is a sequence of tokens with blanks between them.  `Token.scan?` cuts a text
into its tokens; `Token.text` writes one.

A text token must be closed on its line, may hold every character from U+0020 on, and may name
others by their escapes.  An escaped half of a surrogate pair must be followed by its other half.
-/

namespace SchemaBinder.Json

/-- A token of JSON. -/
inductive Token where
  | openList
  | closeList
  | openObject
  | closeObject
  | comma
  | colon
  /-- A value that is neither a list nor an object. -/
  | scalar (v : Json)

namespace Token

/-! ## Reading -/

/-- The value of a hexadecimal digit. -/
def hexValue? (c : Char) : Option Nat :=
  if '0' ≤ c ∧ c ≤ '9' then some (c.toNat - '0'.toNat)
  else if 'a' ≤ c ∧ c ≤ 'f' then some (c.toNat - 'a'.toNat + 10)
  else if 'A' ≤ c ∧ c ≤ 'F' then some (c.toNat - 'A'.toNat + 10)
  else none

/-- The value of four hexadecimal digits. -/
def hex4? (a b c d : Char) : Option Nat := do
  let a ← hexValue? a
  let b ← hexValue? b
  let c ← hexValue? c
  let d ← hexValue? d
  return ((a * 16 + b) * 16 + c) * 16 + d

/-- The character that a one-letter escape names. -/
def escape? : Char → Option Char
  | '"' => some '"'
  | '\\' => some '\\'
  | '/' => some '/'
  | 'b' => some '\x08'
  | 'f' => some '\x0c'
  | 'n' => some '\n'
  | 'r' => some '\r'
  | 't' => some '\t'
  | _ => none

/-- The character of a surrogate pair. -/
def pair? (high low : Nat) : Option Char :=
  if 0xDC00 ≤ low ∧ low < 0xE000 then
    some (Char.ofNat (0x10000 + (high - 0xD800) * 0x400 + (low - 0xDC00)))
  else none

/-- The characters up to the closing quote, and what follows it. -/
def scanText? : List Char → Option (List Char × List Char)
  | [] => none
  | '"' :: rest => some ([], rest)
  | '\\' :: 'u' :: a :: b :: c :: d :: rest =>
    match hex4? a b c d with
    | none => none
    | some n =>
      if 0xD800 ≤ n ∧ n < 0xDC00 then
        match rest with
        | '\\' :: 'u' :: e :: f :: g :: h :: rest' =>
          match (hex4? e f g h).bind (pair? n) with
          | none => none
          | some ch => (scanText? rest').map fun p => (ch :: p.1, p.2)
        | _ => none
      else if 0xDC00 ≤ n ∧ n < 0xE000 then none
      else (scanText? rest).map fun p => (Char.ofNat n :: p.1, p.2)
  | '\\' :: c :: rest =>
    match escape? c with
    | none => none
    | some ch => (scanText? rest).map fun p => (ch :: p.1, p.2)
  | c :: rest =>
    if c.toNat < 0x20 then none else (scanText? rest).map fun p => (c :: p.1, p.2)

/-- A character put in front of the text leaves what follows it alone. -/
theorem length_of_map_cons {c : Char} {o : Option (List Char × List Char)}
    {p : List Char × List Char} {n : Nat} (h : o.map (fun q => (c :: q.1, q.2)) = some p)
    (ih : ∀ {q : List Char × List Char}, o = some q → q.2.length < n) : p.2.length < n := by
  obtain ⟨q, hq, rfl⟩ := Option.map_eq_some_iff.1 h
  exact ih (q := q) hq

/-- What follows the closing quote is shorter. -/
theorem scanText?_length {cs : List Char} {p : List Char × List Char} (h : scanText? cs = some p) :
    p.2.length < cs.length := by
  fun_induction scanText? cs generalizing p
  case case1 | case3 | case4 | case6 | case7 | case9 | case11 => cases h
  case case2 rest =>
    obtain rfl := Option.some.inj h
    exact Nat.lt_succ_self _
  case case5 ih | case8 ih | case10 ih | case12 ih =>
    have := length_of_map_cons h ih
    simp only [List.length_cons]
    omega

/-- The blanks between tokens. -/
def isSpace (c : Char) : Bool :=
  c == ' ' || c == '\n' || c == '\t' || c == '\r'

/-- The value that a word names. -/
def ofWord? (w : List Char) : Option Json :=
  if w = ['n', 'u', 'l', 'l'] then some .null
  else if w = ['t', 'r', 'u', 'e'] then some (.bool true)
  else if w = ['f', 'a', 'l', 's', 'e'] then some (.bool false)
  else none

/-- The token that is one punctuation mark. -/
def ofMark? : Char → Option Token
  | '[' => some openList
  | ']' => some closeList
  | '{' => some openObject
  | '}' => some closeObject
  | ',' => some comma
  | ':' => some colon
  | _ => none

/-- The tokens of a text. -/
def scan? (cs : List Char) : Option (List Token) :=
  match cs with
  | [] => some []
  | c :: rest =>
    if isSpace c then scan? rest
    else if c = '"' then
      match h : scanText? rest with
      | none => none
      | some (s, rest') =>
        have : rest'.length < rest.length := scanText?_length h
        (scan? rest').map (scalar (.str (String.ofList s)) :: ·)
    else
      match ofMark? c with
      | some t => (scan? rest).map (t :: ·)
      | none =>
        if c.isAlpha then
          let w := rest.takeWhile Char.isAlpha
          match ofWord? (c :: w) with
          | some v => (scan? (rest.dropWhile Char.isAlpha)).map (scalar v :: ·)
          | none => none
        else
          let w := rest.takeWhile Number.isPart
          match Number.ofChars? (c :: w) with
          | some v => (scan? (rest.dropWhile Number.isPart)).map (scalar v :: ·)
          | none => none
termination_by cs.length
decreasing_by
  all_goals simp only [List.length_cons]
  · omega
  · omega
  · omega
  · have := (List.dropWhile_suffix (l := rest) Char.isAlpha).length_le; omega
  · have := (List.dropWhile_suffix (l := rest) Number.isPart).length_le; omega

/-! ## Writing -/

/-- A hexadecimal digit. -/
def hexDigit (n : Nat) : Char :=
  if n < 10 then Char.ofNat ('0'.toNat + n) else Char.ofNat ('a'.toNat + n - 10)

/-- A character as it is written inside a text token. -/
def escaped (c : Char) : List Char :=
  if c = '"' then ['\\', '"']
  else if c = '\\' then ['\\', '\\']
  else if c = '\x08' then ['\\', 'b']
  else if c = '\x0c' then ['\\', 'f']
  else if c = '\n' then ['\\', 'n']
  else if c = '\r' then ['\\', 'r']
  else if c = '\t' then ['\\', 't']
  else if c.toNat < 0x20 then
    ['\\', 'u', '0', '0', hexDigit (c.toNat / 16), hexDigit (c.toNat % 16)]
  else [c]

/-- A text token. -/
def quoted (s : String) : List Char :=
  '"' :: (s.toList.flatMap escaped ++ ['"'])

/-- The decimal text of an integer. -/
def intText (n : Int) : List Char :=
  if n < 0 then '-' :: Nat.toDigits 10 n.natAbs else Nat.toDigits 10 n.natAbs

end Token

end SchemaBinder.Json
