import SchemaBinder.Json.Token
import SchemaBinder.Yaml.Gap
/-!
# Scalars

The text of a scalar in each of its styles: between single or double quotes, plain, and as a
block of lines behind `|` or `>`.

A quoted or plain scalar may go over several lines; the gaps between its words are folded as
`Gap.chars` says.  A block keeps its lines without the indentation of the first one.  A folded
block joins neighbouring lines by a blank, unless one of them starts with a blank.
-/

namespace SchemaBinder.Yaml.Scalar

/-! ## Quoted scalars -/

/-- The number of characters of an escape by code after its letter. -/
def codeLength? : Char → Option Nat
  | 'x' => some 2
  | 'u' => some 4
  | 'U' => some 8
  | _ => none

/-- The character that a letter behind a backslash stands for. -/
def letter? : Char → Option Char
  | '0' => some (Char.ofNat 0)
  | 'a' => some (Char.ofNat 7)
  | 'b' => some (Char.ofNat 8)
  | 't' => some '\t'
  | '\t' => some '\t'
  | 'n' => some '\n'
  | 'v' => some (Char.ofNat 11)
  | 'f' => some (Char.ofNat 12)
  | 'r' => some '\r'
  | 'e' => some (Char.ofNat 0x1B)
  | ' ' => some ' '
  | '"' => some '"'
  | '/' => some '/'
  | '\\' => some '\\'
  | 'N' => some (Char.ofNat 0x85)
  | '_' => some (Char.ofNat 0xA0)
  | 'L' => some (Char.ofNat 0x2028)
  | 'P' => some (Char.ofNat 0x2029)
  | _ => none

/-- The character of a code in hexadecimal digits. -/
def ofCode? (digits : List Char) : Option Char := do
  let n ← digits.foldlM (fun n c => (Json.Token.hexValue? c).map (n * 16 + ·)) 0
  if n.isValidChar then some (Char.ofNat n) else none

/-- The character that an escape stands for, and the number of characters after its letter. -/
def escape? (letter : Char) (cs : List Char) : Option (Char × Nat) :=
  match codeLength? letter with
  | some n =>
    if cs.length < n then none else (ofCode? (cs.take n)).map fun c => (c, n)
  | none => (letter? letter).map fun c => (c, 0)

/-- A scalar in quotes, from some place inside on: its text, and the number of characters up to
its last quote.  `text` is the text so far with its last character first, `passed` the number of
characters before, and `lineStart` tells whether a line starts here. -/
def singleQuoted? (lineStart : Bool) (gap : Gap) (text : List Char) (passed : Nat) :
    List Char → Option (List Char × Nat)
  | [] => none
  | '\'' :: '\'' :: cs =>
    singleQuoted? false .none ('\'' :: (gap.chars.reverse ++ text)) (passed + 2) cs
  | c :: cs =>
    if lineStart && isDocumentMark (c :: cs) then none
    else if isSpace c then singleQuoted? (isBreak c) (gap.add c) text (passed + 1) cs
    else if c = '\'' then some (text.reverse ++ gap.chars, passed + 1)
    else singleQuoted? false .none (c :: (gap.chars.reverse ++ text)) (passed + 1) cs

/-- The same for a scalar in double quotes, which may hold escapes. -/
def doubleQuoted? (lineStart : Bool) (gap : Gap) (text : List Char) (passed : Nat)
    (cs : List Char) : Option (List Char × Nat) :=
  match cs with
  | [] => none
  | c :: cs =>
    if lineStart && isDocumentMark (c :: cs) then none
    else if isSpace c then doubleQuoted? (isBreak c) (gap.add c) text (passed + 1) cs
    else if c = '"' then some (text.reverse ++ gap.chars, passed + 1)
    else
      let text := gap.chars.reverse ++ text
      if c = '\\' then
        match cs with
        | [] => none
        | e :: cs =>
          if isBreak e then doubleQuoted? true (.breaks none []) text (passed + 2) cs
          else
            match escape? e cs with
            | none => none
            | some (d, n) => doubleQuoted? false .none (d :: text) (passed + 2 + n) (cs.drop n)
      else doubleQuoted? false .none (c :: text) (passed + 1) cs
termination_by cs.length
decreasing_by all_goals simp <;> omega

/-! ## Plain scalars -/

/-- A plain scalar. -/
structure Plain where
  /-- The text. -/
  text : List Char
  /-- The number of its characters and of those in the gap behind it. -/
  passed : Nat
  /-- Does that gap hold a line break? -/
  isBroken : Bool

/-- Is a character a mark of flow collections? -/
def isFlowMark (c : Char) : Bool := [',', '[', ']', '{', '}'].contains c

/-- Does a plain scalar end before these characters? -/
def endsPlain (inFlow : Bool) : List Char → Bool
  | [] => true
  | c :: cs => (c == ':' && endsWord cs) || (inFlow && isFlowMark c)

/-- Is there a colon where a plain scalar in a flow collection must not have one? -/
def isStrayColon (inFlow : Bool) : List Char → Bool
  | ':' :: c :: _ => inFlow && (isFlowMark c || c == '?')
  | _ => false

/-- A plain scalar, from some place inside on.  Outside of flow collections its lines are
indented by at least `indent`. -/
def plain? (inFlow : Bool) (indent column : Nat) (gap : Gap) (text : List Char) (passed : Nat) :
    List Char → Option Plain
  | [] => some ⟨text.reverse, passed, gap.isBroken⟩
  | c :: cs =>
    if isSpace c then
      if gap.isBroken && column < indent && c == '\t' then none
      else
        plain? inFlow indent (if isBreak c then 0 else column + 1) (gap.add c) text (passed + 1) cs
    else if (!gap.isNone && ((!inFlow && column < indent) || c == '#'))
        || (column == 0 && isDocumentMark (c :: cs)) then
      some ⟨text.reverse, passed, gap.isBroken⟩
    else if isStrayColon inFlow (c :: cs) then none
    else if endsPlain inFlow (c :: cs) then some ⟨text.reverse, passed, gap.isBroken⟩
    else
      plain? inFlow indent (column + 1) .none (c :: (gap.chars.reverse ++ text)) (passed + 1) cs

/-! ## Blocks -/

/-- What happens to the line breaks at the end of a block. -/
inductive Chomping where
  /-- They are dropped. -/
  | strip
  /-- The first one is kept. -/
  | clip
  /-- They are kept. -/
  | keep
deriving DecidableEq

/-- The chomping that a mark stands for. -/
def Chomping.ofMark? : Char → Option Chomping
  | '-' => some strip
  | '+' => some keep
  | _ => none

/-- Is a character a digit that can tell the indentation of a block? -/
def isIndentDigit (c : Char) : Bool := c.isDigit && c != '0'

/-- The marks behind the start of a block: how it is chomped, how far it is indented beyond the
collection around it (zero if its first line decides), and the number of marks. -/
def blockMarks? : List Char → Option (Chomping × Nat × Nat)
  | [] => some (.clip, 0, 0)
  | c :: cs =>
    match Chomping.ofMark? c, cs.head?.getD ' ' with
    | some k, d =>
      if isIndentDigit d then some (k, d.toNat - '0'.toNat, 2)
      else if d = '0' then none
      else some (k, 0, 1)
    | none, d =>
      if isIndentDigit c then
        match Chomping.ofMark? d with
        | some k => some (k, c.toNat - '0'.toNat, 2)
        | none => some (.clip, c.toNat - '0'.toNat, 1)
      else if c = '0' then none
      else some (.clip, 0, 0)

/-- Is the rest of the line that starts a block free of everything but blanks and a comment? -/
def isHeaderEnd (line : List Char) : Bool :=
  match line.dropWhile isBlank with
  | [] => true
  | c :: _ => c == '#'

/-- The empty lines before a line of a block. -/
structure Margin where
  /-- The line breaks. -/
  breaks : List Char
  /-- The greatest number of blanks in front of a line. -/
  widest : Nat
  /-- The column of the next character. -/
  column : Nat
  /-- The characters from there on. -/
  rest : List Char
  /-- The number of characters before. -/
  passed : Nat

/-- Reads the empty lines before a line of a block, and the indentation of that line.  An
`indent` of zero is not known yet. -/
def margin? (indent column widest : Nat) (breaks : List Char) (passed : Nat) :
    List Char → Option Margin
  | [] => some ⟨breaks.reverse, max widest column, column, [], passed⟩
  | c :: cs =>
    let inMargin := indent == 0 || column < indent
    if c = ' ' ∧ inMargin then margin? indent (column + 1) widest breaks (passed + 1) cs
    else if c = '\t' ∧ inMargin then none
    else if isBreak c then
      margin? indent 0 (max widest column) (c :: breaks) (passed + 1) cs
    else some ⟨breaks.reverse, max widest column, column, c :: cs, passed⟩

/-- The lines of a block so far. -/
structure Lines where
  /-- The text, its last character first. -/
  text : List Char
  /-- The break after the last line. -/
  lastBreak : List Char
  /-- Does the last line start with a blank? -/
  afterBlank : Bool

/-- The text with the breaks after the last line, folded unless the block is literal. -/
def Lines.joined (lines : Lines) (literal nextBlank : Bool) (breaks : List Char) : List Char :=
  if !literal && lines.lastBreak == ['\n'] && !lines.afterBlank && !nextBlank then
    (if breaks.isEmpty then [' '] else breaks.reverse) ++ lines.text
  else breaks.reverse ++ (lines.lastBreak ++ lines.text)

/-- The lines of a block from a margin on, and the margin behind them.  Every line uses up some
of the fuel. -/
def blockLines? (literal : Bool) (indent : Nat) : Nat → Lines → Margin → Option (Lines × Margin)
  | 0, lines, m => some (lines, m)
  | fuel + 1, lines, m =>
    match m.rest with
    | [] => some (lines, m)
    | c :: cs =>
      if m.column ≠ indent then some (lines, m)
      else
        let line := (c :: cs).takeWhile (!isBreak ·)
        let after := (c :: cs).dropWhile (!isBreak ·)
        let lastBreak := after.take 1
        let next : Lines := {
          text := line.reverse ++ lines.joined literal (isBlank c) m.breaks
          lastBreak
          afterBlank := isBlank c }
        let passed := m.passed + line.length + lastBreak.length
        match margin? indent 0 0 [] passed (after.drop 1) with
        | none => none
        | some margin => blockLines? literal indent fuel next margin

/-- A block behind its mark: its text, and the number of its characters.  `outer` is the
indentation of the collection around it. -/
def block? (literal : Bool) (outer : Int) (cs : List Char) : Option (List Char × Nat) := do
  let (chomping, extra, marks) ← blockMarks? cs
  let header := cs.takeWhile (!isBreak ·)
  let body := cs.dropWhile (!isBreak ·)
  if !isHeaderEnd (header.drop marks) then none
  else
    let given := if extra = 0 then 0 else (max outer 0).toNat + extra
    let first ← margin? given 0 0 [] (header.length + (body.take 1).length) (body.drop 1)
    let indent := if given = 0 then max (max first.widest (outer + 1).toNat) 1 else given
    let (lines, last) ← blockLines? literal indent (cs.length + 1) ⟨[], [], false⟩ first
    let kept := match chomping with
      | .strip => []
      | .clip => lines.lastBreak
      | .keep => lines.lastBreak ++ last.breaks
    return (lines.text.reverse ++ kept, last.passed)

end SchemaBinder.Yaml.Scalar
