import SchemaBinder.Json.Token
import SchemaBinder.Setting.Plain
import SchemaBinder.Text.Blank
import SchemaBinder.Yaml.Gap
/-!
# Writing YAML

`Yaml.render` writes a setting in block style: a field or an item to a line, a list at the
indentation of its key, a table two blanks further in.

A text stands without quotes where it then reads back as a text.  A text of several lines is a
literal block; all others that need quotes have single ones, or double ones if some of their
characters need escapes.
-/

namespace SchemaBinder.Yaml.Printer

/-! ## The shape of a text -/

/-- Can a text be written with a character as it is? -/
def isPrintable (c : Char) : Bool :=
  let n := c.toNat
  n == 0x0A || (0x20 ≤ n && n ≤ 0x7E) || (0xA0 ≤ n && n ≤ 0xFFFD && n != 0xFEFF)

/-- Does a text need escapes: for a character that is not printable, or for a blank before a line
break? -/
def needsEscapes (cs : List Char) : Bool :=
  cs.any (!isPrintable ·) || (cs.zip cs.tail).any fun (c, d) => c == ' ' && isBreak d

/-- Does a blank stand behind a line break? -/
def hasBreakBlank (cs : List Char) : Bool :=
  (cs.zip cs.tail).any fun (c, d) => isBreak c && d == ' '

/-- Does a text start or end with a blank or a line break? -/
def hasOuterSpace (cs : List Char) : Bool :=
  [cs.head?, cs.getLast?].any fun c => (c.map fun c => c == ' ' || isBreak c).getD false

/-- Can a text not start with a character unless it is quoted? -/
def isMark (c : Char) : Bool :=
  ['#', ',', '[', ']', '{', '}', '&', '*', '!', '|', '>', '\'', '"', '%', '@',
    Char.ofNat 0x60].contains c

/-- Does a text start with a mark of the notation? -/
def startsWithMark (cs : List Char) : Bool :=
  isDocumentMark (cs.take 3) ||
    match cs with
    | [] => false
    | c :: cs => isMark c || (['?', ':', '-'].contains c && endsWord cs)

/-- Does a text hold what ends a text without quotes? -/
def holdsMark : List Char → Bool
  | c :: d :: cs =>
    (d == ':' && endsWord cs) || (d == '#' && isSpace c) || holdsMark (d :: cs)
  | _ => false

/-- Would a text without quotes be something else than a text? -/
def isAmbiguous (s : String) : Bool :=
  match Setting.Plain.settle s with
  | .text _ => Setting.Plain.hasNeedlessZero s.toList
  | _ => true

/-- How a text is written. -/
inductive Style where
  /-- As it is. -/
  | plain
  /-- Between single quotes, with a quote inside written twice. -/
  | single
  /-- Between double quotes, with escapes. -/
  | double
  /-- As lines below the key. -/
  | literal
deriving DecidableEq

/-- The style of a text. -/
def style (s : String) : Style :=
  let cs := s.toList
  if cs.contains '\n' then
    if needsEscapes cs || cs.getLast? == some ' ' then .double else .literal
  else if needsEscapes cs || hasBreakBlank cs then .double
  else if isAmbiguous s || hasOuterSpace cs || startsWithMark cs || holdsMark cs || cs.any isBreak
  then .single
  else .plain

/-! ## Indentation -/

/-- Characters with two blanks in front of each of their lines.  `atStart` tells whether a line
starts with the first of them; a line of no characters has no blanks. -/
def indentChars : Bool → List Char → List Char
  | _, [] => []
  | atStart, c :: cs =>
    if isBreak c then c :: indentChars true cs
    else if atStart then ' ' :: ' ' :: c :: indentChars false cs
    else c :: indentChars false cs

/-- A line that is indented by two blanks. -/
def indented (line : String) : String := String.ofList (indentChars true line.toList)

/-! ## Texts -/

/-- A text in single quotes.  Where it goes on in another line, that line is indented. -/
def singleQuoted (s : String) : String :=
  let body := s.toList.flatMap fun c => if c = '\'' then ['\'', '\''] else [c]
  "'" ++ String.ofList (indentChars false (body ++ ['\'']))

/-- So many hexadecimal digits of a number in capitals. -/
def hexDigits : Nat → Nat → List Char
  | 0, _ => []
  | k + 1, n => hexDigits k (n / 16) ++ [(Json.Token.hexDigit (n % 16)).toUpper]

/-- The letters of the characters that have an escape of their own. -/
def escapeLetters : List (Nat × Char) :=
  [(0, '0'), (7, 'a'), (8, 'b'), (9, 't'), (10, 'n'), (11, 'v'), (12, 'f'), (13, 'r'), (0x1B, 'e'),
    (0x22, '"'), (0x5C, '\\'), (0x85, 'N'), (0xA0, '_'), (0x2028, 'L'), (0x2029, 'P')]

/-- A character between double quotes. -/
def escaped (c : Char) : List Char :=
  let n := c.toNat
  if isPrintable c && !isBreak c && c != '"' && c != '\\' then [c]
  else
    match escapeLetters.lookup n with
    | some letter => ['\\', letter]
    | none =>
      if n ≤ 0xFF then '\\' :: 'x' :: hexDigits 2 n
      else if n ≤ 0xFFFF then '\\' :: 'u' :: hexDigits 4 n
      else '\\' :: 'U' :: hexDigits 8 n

/-- A text in double quotes. -/
def doubleQuoted (s : String) : String :=
  "\"" ++ String.ofList (s.toList.flatMap escaped) ++ "\""

/-- The marks of a literal block: its indentation if its first line starts with a blank or is
empty, and what happens to the line breaks at its end. -/
def literalMarks (cs : List Char) : String :=
  let indent := match cs with
    | c :: _ => if c = ' ' || isBreak c then "2" else ""
    | [] => ""
  let chomping := match cs.reverse with
    | c :: d :: _ => if !isBreak c then "-" else if isBreak d then "+" else ""
    | [c] => if isBreak c then "+" else "-"
    | [] => "-"
  "|" ++ indent ++ chomping

/-- The lines of a literal block. -/
def literalLines (s : String) : List String :=
  let lines := Text.segments '\n' s
  let lines := if s.toList.getLast? == some '\n' then lines.dropLast else lines
  literalMarks s.toList :: lines.map indented

/-- The lines of a text. -/
def textLines (s : String) : List String :=
  match style s with
  | .plain => [s]
  | .single => [singleQuoted s]
  | .double => [doubleQuoted s]
  | .literal => literalLines s

/-! ## Values -/

/-- The lines of a value that is written behind its key. -/
def scalarLines : Setting → List String
  | .null => ["null"]
  | .bool b => [if b then "true" else "false"]
  | .int n => [String.ofList (Json.Token.intText n)]
  | .text s => textLines s
  | _ => ["null"]

/-- The greatest number of octets of a key that is followed by its colon. -/
def maxKey : Nat := 128

/-- The lines of a key and of the colon behind it.  A long key, or one of several lines, has a
mark in front and its colon on a line of its own. -/
def keyLines (s : String) : List String :=
  if s.utf8ByteSize ≤ maxKey && !s.toList.any isBreak then
    [String.intercalate "\n" (textLines s) ++ ":"]
  else
    match textLines s with
    | [] => ["?", ":"]
    | first :: more => ("? " ++ first) :: more ++ [":"]

/-- Lines with a text in front of the first of them. -/
def behind (front : String) : List String → List String
  | [] => [front]
  | line :: more => (front ++ " " ++ line) :: more

/-- Lines behind the last of some lines. -/
def append (keys lines : List String) : List String :=
  keys.dropLast ++ behind (keys.getLastD "") lines

/-- Lines behind a dash. -/
def item : List String → List String
  | [] => ["-"]
  | line :: more => ("- " ++ line) :: more.map indented

mutual

/-- The lines of a table or a list that is not empty. -/
def lines : Setting → List String
  | .table fields => fieldLines fields
  | .list items => itemLines items
  | v => scalarLines v

/-- The lines of fields. -/
def fieldLines : List (String × Setting) → List String
  | [] => []
  | (k, v) :: rest =>
    (match v with
      | .table [] => append (keyLines k) ["\x7b\x7d"]
      | .list [] => append (keyLines k) ["[]"]
      | .table fields => keyLines k ++ (fieldLines fields).map indented
      | .list items => keyLines k ++ itemLines items
      | v => append (keyLines k) (scalarLines v)) ++ fieldLines rest

/-- The lines of items. -/
def itemLines : List Setting → List String
  | [] => []
  | v :: rest =>
    (match v with
      | .table [] => ["- \x7b\x7d"]
      | .list [] => ["- []"]
      | .table fields => item (fieldLines fields)
      | .list items => item (itemLines items)
      | v => behind "-" (scalarLines v)) ++ itemLines rest

end

end Printer

/-- The text of a setting, with a line break at its end. -/
def render (v : Setting) : String :=
  String.join ((Printer.lines v).map (· ++ "\n"))

end SchemaBinder.Yaml
