/-!
# Breaks, blanks and gaps

The classes of characters that YAML is cut with, and the *gaps* between the words of a scalar
that may go over several lines.

A text is first given one form of line break, so that every break is one character.  Two breaks
of their own, U+2028 and U+2029, are kept as they are.

A gap is what separates two words.  Blanks on one line are kept.  A single break is folded into
a blank, and of several breaks the first is dropped; the blanks around breaks do not count.
-/

namespace SchemaBinder.Yaml

/-! ## Characters -/

/-- Does a character end a line? -/
def isBreak (c : Char) : Bool :=
  c == '\n' || c.toNat == 0x2028 || c.toNat == 0x2029

/-- Is a character a byte order mark? -/
def isOrderMark (c : Char) : Bool := c.toNat == 0xFEFF

/-- Does a character separate words on one line? -/
def isBlank (c : Char) : Bool := c == ' ' || c == '\t'

/-- Does a character end a word? -/
def isSpace (c : Char) : Bool := isBlank c || isBreak c

/-- Do characters start with a blank or a break, or are there none? -/
def endsWord (cs : List Char) : Bool :=
  match cs with
  | [] => true
  | c :: _ => isSpace c

/-- Can an anchor hold a character? -/
def isNameChar (c : Char) : Bool := c.isAlphanum || c == '_' || c == '-'

/-- Can a document hold a character? -/
def isAllowed (c : Char) : Bool :=
  let n := c.toNat
  n == 0x09 || n == 0x0A || n == 0x0D || (0x20 ≤ n && n ≤ 0x7E) || n == 0x85
    || (0xA0 ≤ n && n ≤ 0xFFFD) || 0x10000 ≤ n

/-- A text with one form of line break. -/
def normalBreaks : List Char → List Char
  | [] => []
  | '\r' :: '\n' :: cs => '\n' :: normalBreaks cs
  | c :: cs => (if c = '\r' ∨ c.toNat = 0x85 then '\n' else c) :: normalBreaks cs

/-- The characters of a text without a byte order mark, in one form of line break.  There are
none if the text holds a character that no document can hold. -/
def source? (text : String) : Option (List Char) :=
  let cs := match text.toList with
    | c :: cs => if isOrderMark c then cs else c :: cs
    | [] => []
  if cs.all isAllowed then some (normalBreaks cs) else none

/-- Do characters start with the mark of the start or the end of a document? -/
def isDocumentMark : List Char → Bool
  | '-' :: '-' :: '-' :: cs => endsWord cs
  | '.' :: '.' :: '.' :: cs => endsWord cs
  | _ => false

/-! ## Gaps -/

/-- What separates two words. -/
inductive Gap where
  /-- Nothing. -/
  | none
  /-- Blanks on one line, the last one first. -/
  | blanks (reversed : List Char)
  /-- Line breaks: the first one, unless it is escaped, and the others, the last one first. -/
  | breaks (first : Option Char) (reversed : List Char)

namespace Gap

/-- The gap with one more blank or break. -/
def add (c : Char) : Gap → Gap
  | none => if isBreak c then breaks (some c) [] else blanks [c]
  | blanks cs => if isBreak c then breaks (some c) [] else blanks (c :: cs)
  | breaks first cs => if isBreak c then breaks first (c :: cs) else breaks first cs

/-- The characters that a gap stands for. -/
def chars : Gap → List Char
  | none => []
  | blanks cs => cs.reverse
  | breaks (some '\n') [] => [' ']
  | breaks (some '\n') cs => cs.reverse
  | breaks (some c) cs => c :: cs.reverse
  | breaks Option.none cs => cs.reverse

/-- Does the gap hold a line break? -/
def isBroken : Gap → Bool
  | breaks _ _ => true
  | _ => false

/-- Is there no gap? -/
def isNone : Gap → Bool
  | none => true
  | _ => false

end Gap

end SchemaBinder.Yaml
