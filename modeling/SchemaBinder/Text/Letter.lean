import SchemaBinder.Text.LetterTable
/-!
# Letters and their cases

The letter tests and case changes that the naming rules use.  They are Unicode's, one character
at a time: a character maps to the sequence of its full case mapping, whatever stands around it.

Characters of ASCII never reach the tables.  `isUpper_ascii`, `isLower_ascii` and
`isWord_ascii` say what the tests are there, and `capital_iff`, `small_iff` and `digit_iff` that
these are ranges of characters.
-/

namespace SchemaBinder.Text

/-- Is a code point in one of the runs of a table? -/
def inRuns (table : Array Run) (n : Nat) : Bool :=
  table.any (·.has n)

/-- Is a character a capital letter? -/
def isUpper (c : Char) : Bool :=
  if c.toNat < 0x80 then c.isUpper else inRuns upperRuns c.toNat

/-- Is a character a small letter? -/
def isLower (c : Char) : Bool :=
  if c.toNat < 0x80 then c.isLower else inRuns lowerRuns c.toNat

/-- Is a character a letter or a number? -/
def isWord (c : Char) : Bool :=
  if c.toNat < 0x80 then c.isAlphanum else inRuns wordRuns c.toNat

/-- The character that a table of shifts maps a code point to, or the character itself. -/
def shifted (table : Array Shift) (c : Char) : Char :=
  match table.find? (·.run.has c.toNat) with
  | some s => Char.ofNat (c.toNat + s.distance).toNat
  | none => c

/-- The small form of a character. -/
def toLower (c : Char) : List Char :=
  if c.toNat < 0x80 then [c.toLower]
  else if c.toNat = 0x130 then ['i', Char.ofNat 0x307]
  else [shifted lowerShifts c]

/-- The capital form of a character. -/
def toUpper (c : Char) : List Char :=
  if c.toNat < 0x80 then [c.toUpper]
  else
    match upperSequences.find? (·.1 == c.toNat) with
    | some (_, cs) => cs.map Char.ofNat
    | none => [shifted upperShifts c]

theorem capital_iff {c : Char} : c.isUpper = true ↔ 'A' ≤ c ∧ c ≤ 'Z' :=
  decide_eq_true_iff

theorem small_iff {c : Char} : c.isLower = true ↔ 'a' ≤ c ∧ c ≤ 'z' := by
  change (decide ('a' ≤ c) && decide (c ≤ 'z')) = true ↔ _
  rw [Bool.and_eq_true, decide_eq_true_iff, decide_eq_true_iff]

theorem digit_iff {c : Char} : c.isDigit = true ↔ '0' ≤ c ∧ c ≤ '9' := by
  change (decide ('0' ≤ c) && decide (c ≤ '9')) = true ↔ _
  rw [Bool.and_eq_true, decide_eq_true_iff, decide_eq_true_iff]

theorem letter_iff {c : Char} : c.isAlpha = true ↔ c.isUpper = true ∨ c.isLower = true :=
  Bool.or_eq_true_iff

theorem alphanumeric_iff {c : Char} : c.isAlphanum = true ↔ c.isAlpha = true ∨ c.isDigit = true :=
  Bool.or_eq_true_iff

theorem isUpper_ascii {c : Char} (h : c.toNat < 0x80) : isUpper c = c.isUpper := by
  simp [isUpper, h]

theorem isLower_ascii {c : Char} (h : c.toNat < 0x80) : isLower c = c.isLower := by
  simp [isLower, h]

theorem isWord_ascii {c : Char} (h : c.toNat < 0x80) : isWord c = c.isAlphanum := by
  simp [isWord, h]

theorem toLower_ascii {c : Char} (h : c.toNat < 0x80) : toLower c = [c.toLower] := by
  simp [toLower, h]

theorem toUpper_ascii {c : Char} (h : c.toNat < 0x80) : toUpper c = [c.toUpper] := by
  simp [toUpper, h]

end SchemaBinder.Text
