import SchemaBinder.Decimal.Text
import SchemaBinder.Decimal.Word
import SchemaBinder.Json.Token
import SchemaBinder.Setting.Basic
import SchemaBinder.Text.Blank
/-!
# Values of TOML

The values of TOML 1.0 that are written without other values inside: texts in four kinds of
quotes, truth values, numbers, dates and times.

Every reader takes characters in which a line ends in one line feed, and gives what it has read
together with what follows.
-/

namespace SchemaBinder.Toml

/-! ## Characters -/

/-- Is a character a blank? -/
def isBlank (c : Char) : Bool := c == ' ' || c == '\t'

/-- Can a text or a comment hold a character as it is? -/
def isPrintable (c : Char) : Bool := c == '\t' || (0x20 ≤ c.toNat && c.toNat != 0x7F)

/-- Can a key without quotes hold a character? -/
def isKeyChar (c : Char) : Bool := c.isAlphanum || c == '_' || c == '-'

/-- A text in which a line ends in one line feed. -/
def normalBreaks : List Char → List Char
  | [] => []
  | '\r' :: '\n' :: cs => '\n' :: normalBreaks cs
  | c :: cs => c :: normalBreaks cs

/-! ## Texts -/

/-- The character that a letter behind a backslash stands for. -/
def letter? : Char → Option Char
  | 'b' => some (Char.ofNat 8)
  | 't' => some '\t'
  | 'n' => some '\n'
  | 'f' => some (Char.ofNat 12)
  | 'r' => some '\r'
  | '"' => some '"'
  | '\\' => some '\\'
  | _ => none

/-- The number of digits of an escape by code after its letter. -/
def codeLength (c : Char) : Nat := if c = 'u' then 4 else if c = 'U' then 8 else 0

/-- The character that an escape stands for, and the number of characters after its letter. -/
def escape? (letter : Char) (cs : List Char) : Option (Char × Nat) :=
  match codeLength letter with
  | 0 => (letter? letter).map (·, 0)
  | n =>
    if cs.length < n then none
    else
      ((cs.take n).foldlM (fun n c => (Json.Token.hexValue? c).map (n * 16 + ·)) 0).bind fun code =>
        if code.isValidChar then some (Char.ofNat code, n) else none

/-- A text on one line in single quotes, behind the first of them. -/
def literal? : List Char → Option (List Char × List Char)
  | [] => none
  | '\'' :: cs => some ([], cs)
  | c :: cs => if isPrintable c then (literal? cs).map fun (t, rest) => (c :: t, rest) else none

/-- A text on one line in double quotes, behind the first of them. -/
def basic? (cs : List Char) : Option (List Char × List Char) :=
  match cs with
  | [] => none
  | c :: cs =>
    if c = '"' then some ([], cs)
    else if c = '\\' then
      match cs with
      | [] => none
      | e :: cs =>
        match escape? e cs with
        | none => none
        | some (d, n) => (basic? (cs.drop n)).map fun (t, rest) => (d :: t, rest)
    else if isPrintable c then (basic? cs).map fun (t, rest) => (c :: t, rest)
    else none
termination_by cs.length
decreasing_by all_goals simp <;> omega

/-- The end of a text in three quotes of a kind: up to two quotes that belong to it, and what
follows. -/
def closing? (q : Char) (cs : List Char) : Option (List Char × List Char) :=
  let quotes := cs.takeWhile (· == q)
  if quotes.length < 3 || 5 < quotes.length then none
  else some (quotes.drop 3, cs.drop quotes.length)

/-- A text in three single quotes, behind the first of them. -/
def longLiteral? : List Char → Option (List Char × List Char)
  | [] => none
  | c :: cs =>
    if c = '\'' ∧ Text.hasStart "'''" (String.ofList ((c :: cs).take 3)) then closing? '\'' (c :: cs)
    else if isPrintable c || c == '\n' then
      (longLiteral? cs).map fun (t, rest) => (c :: t, rest)
    else none

/-- What follows a backslash at the end of a line: all blanks and line breaks are left out. -/
def afterFold? (cs : List Char) : Option (List Char) :=
  match cs.dropWhile isBlank with
  | '\n' :: cs => some (cs.dropWhile fun c => isBlank c || c == '\n')
  | _ => none

theorem length_afterFold? {cs rest : List Char} (h : afterFold? cs = some rest) :
    rest.length ≤ cs.length := by
  unfold afterFold? at h
  split at h
  · rename_i ds hd
    obtain rfl := Option.some.inj h
    have h1 := (List.dropWhile_suffix isBlank (l := cs)).length_le
    have h2 := (List.dropWhile_suffix (fun c => isBlank c || c == '\n') (l := ds)).length_le
    rw [hd] at h1
    simp only [List.length_cons] at h1
    omega
  · simp at h

/-- A text in three double quotes, behind the first of them. -/
def longBasic? (cs : List Char) : Option (List Char × List Char) :=
  match cs with
  | [] => none
  | c :: cs =>
    if c = '"' ∧ Text.hasStart "\"\"" (String.ofList (cs.take 2)) then closing? '"' (c :: cs)
    else if c = '\\' then
      match h : afterFold? cs with
      | some rest =>
        have := length_afterFold? h
        longBasic? rest
      | none =>
        match cs with
        | [] => none
        | e :: cs =>
          match escape? e cs with
          | none => none
          | some (d, n) => (longBasic? (cs.drop n)).map fun (t, rest) => (d :: t, rest)
    else if isPrintable c || c == '\n' then (longBasic? cs).map fun (t, rest) => (c :: t, rest)
    else none
termination_by cs.length
decreasing_by all_goals simp <;> omega

/-- Characters without a line break at their front. -/
def dropBreak : List Char → List Char
  | '\n' :: cs => cs
  | cs => cs

/-- A text in quotes. -/
def quoted? (cs : List Char) : Option (String × List Char) :=
  let found := match cs with
    | '"' :: '"' :: '"' :: cs => longBasic? (dropBreak cs)
    | '\'' :: '\'' :: '\'' :: cs => longLiteral? (dropBreak cs)
    | '"' :: cs => basic? cs
    | '\'' :: cs => literal? cs
    | _ => none
  found.map fun (t, rest) => (String.ofList t, rest)

/-! ## Numbers -/

/-- Digits without the underscores between them.  An underscore must have a digit on both
sides. -/
def joinedDigits? (isDigit : Char → Bool) : List Char → Option (List Char)
  | [] => none
  | [c] => if isDigit c then some [c] else none
  | c :: '_' :: cs => if isDigit c then (joinedDigits? isDigit cs).map (c :: ·) else none
  | c :: cs => if isDigit c then (joinedDigits? isDigit cs).map (c :: ·) else none

/-- Digits of a base without underscores. -/
def basedDigits? (base : Nat) (cs : List Char) : Option (List Char) :=
  joinedDigits? (fun c => ((Json.Token.hexValue? c).map (decide <| · < base)).getD false) cs

/-- The value of digits of a base. -/
def based? (base : Nat) (cs : List Char) : Option Nat := do
  let digits ← basedDigits? base cs
  return digits.foldl (fun n c => n * base + (Json.Token.hexValue? c).getD 0) 0

/-- Decimal digits without a needless zero in front. -/
def wholeDigits? (cs : List Char) : Option (List Char) := do
  let digits ← basedDigits? 10 cs
  if digits.head? = some '0' && 1 < digits.length then none else some digits

/-- A whole number, if it fits 64 bits with a sign. -/
def int? (cs : List Char) : Option Setting := do
  let n : Int ← match cs with
    | '0' :: 'x' :: cs => (based? 16 cs).map fun n => (n : Int)
    | '0' :: 'o' :: cs => (based? 8 cs).map fun n => (n : Int)
    | '0' :: 'b' :: cs => (based? 2 cs).map fun n => (n : Int)
    | cs =>
      let (negative, cs) := Decimal.splitSign cs
      (wholeDigits? cs).map fun ds => if negative then -(Decimal.nat ds : Int) else Decimal.nat ds
  if Decimal.fitsSigned 63 n then some (.int n) else none

/-- The digits of an exponent with its mark and sign, if there is one. -/
def exponentDigits? : List Char → Option (List Char)
  | [] => some []
  | c :: cs =>
    if c = 'e' || c = 'E' then
      let (negative, cs) := Decimal.splitSign cs
      (basedDigits? 10 cs).map fun ds => 'e' :: (if negative then ['-'] else []) ++ ds
    else none

/-- Any other number. -/
def float? (cs : List Char) : Option Setting :=
  let (negative, magnitude) := Decimal.splitSign cs
  if magnitude = ['i', 'n', 'f'] || magnitude = ['n', 'a', 'n'] then some .nonFinite
  else do
    let isPart := fun (c : Char) => c.isDigit || c == '_'
    let whole ← wholeDigits? (magnitude.takeWhile isPart)
    let rest := magnitude.dropWhile isPart
    let (fraction, rest) ← match rest with
      | '.' :: cs => do
        let fraction ← basedDigits? 10 (cs.takeWhile isPart)
        some ('.' :: fraction, cs.dropWhile isPart)
      | rest => if rest.isEmpty then none else some ([], rest)
    let power ← exponentDigits? rest
    let sign := if negative then ['-'] else []
    return ((Decimal.double? (sign ++ whole ++ fraction ++ power)).map Setting.float).getD .nonFinite

/-! ## Dates and times -/

/-- A number of `n` digits from `low` to `high`, and what follows it. -/
def field? (n low high : Nat) (cs : List Char) : Option (Nat × List Char) :=
  let ds := cs.take n
  if ds.length = n && ds.all Char.isDigit && low ≤ Decimal.nat ds && Decimal.nat ds ≤ high then
    some (Decimal.nat ds, cs.drop n)
  else none

/-- The rest after a given character. -/
def mark? (c : Char) (cs : List Char) : Option (List Char) :=
  if cs.head? = some c then some cs.tail else none

/-- The number of days of a month. -/
def daysOfMonth (year month : Nat) : Nat :=
  if month = 2 then
    if year % 4 = 0 && (year % 100 ≠ 0 || year % 400 = 0) then 29 else 28
  else if [4, 6, 9, 11].contains month then 30
  else 31

/-- A date, and what follows it. -/
def date? (cs : List Char) : Option (List Char × List Char) := do
  let (year, rest) ← field? 4 0 9999 cs
  let (month, rest) ← field? 2 1 12 (← mark? '-' rest)
  let (_, rest) ← field? 2 1 (daysOfMonth year month) (← mark? '-' rest)
  return (cs.take 10, rest)

/-- The digits behind the point of seconds: at most nine, without zeros at their end. -/
def secondsFraction (ds : List Char) : List Char :=
  match Text.dropEnd (· == '0') (ds.take 9) with
  | [] => []
  | ds => '.' :: ds

/-- A time of day, and what follows it. -/
def time? (cs : List Char) : Option (List Char × List Char) := do
  let (_, rest) ← field? 2 0 23 cs
  let (_, rest) ← field? 2 0 59 (← mark? ':' rest)
  let (_, rest) ← field? 2 0 60 (← mark? ':' rest)
  match rest with
  | '.' :: rest =>
    let (ds, rest) := Decimal.splitDigits rest
    if ds.isEmpty then none else some (cs.take 8 ++ secondsFraction ds, rest)
  | rest => some (cs.take 8, rest)

/-- The distance from universal time that is the end of characters, or nothing. -/
def offset? : List Char → Option (List Char)
  | [] => some []
  | ['Z'] => some ['Z']
  | ['z'] => some ['Z']
  | c :: cs => do
    if c ≠ '+' && c ≠ '-' then none
    else
      let (_, rest) ← field? 2 0 23 cs
      let (_, rest) ← field? 2 0 59 (← mark? ':' rest)
      if rest.isEmpty then some (c :: cs) else none

/-- Does a time follow the date before these characters? -/
def startsTime : List Char → Bool
  | c :: cs => (c == 'T' || c == 't' || c == ' ') && (time? cs).isSome
  | [] => false

/-- The text of a date, a time, or both. -/
def dateTimeText? (cs : List Char) : Option (List Char) :=
  match date? cs with
  | some (date, []) => some date
  | some (date, rest) =>
    if startsTime rest then do
      let (time, rest) ← time? rest.tail
      return date ++ 'T' :: time ++ (← offset? rest)
    else none
  | none =>
    match time? cs with
    | some (time, []) => some time
    | _ => none

/-- The key of the text of a date or time, which counts as a table. -/
def dateTimeKey : String := "$__toml_private_datetime"

/-- A date, a time, or both. -/
def dateTime? (cs : List Char) : Option Setting :=
  (dateTimeText? cs).map fun t => .table [(dateTimeKey, .text (String.ofList t))]

/-! ## Values without quotes -/

/-- Can a value without quotes hold a character? -/
def isWordChar (c : Char) : Bool := isKeyChar c || c == '+' || c == '.' || c == ':'

/-- The characters of a value without quotes, and what follows them.  The blank between a date
and a time belongs to the value. -/
def word (cs : List Char) : List Char × List Char :=
  let w := cs.takeWhile isWordChar
  let rest := cs.dropWhile isWordChar
  match date? w, rest with
  | some (_, []), ' ' :: c :: more =>
    if c.isDigit then
      (w ++ ' ' :: (c :: more).takeWhile isWordChar, (c :: more).dropWhile isWordChar)
    else (w, rest)
  | _, _ => (w, rest)

/-- The value that a word without quotes denotes. -/
def ofWord? (w : List Char) : Option Setting :=
  if w = ['t', 'r', 'u', 'e'] then some (.bool true)
  else if w = ['f', 'a', 'l', 's', 'e'] then some (.bool false)
  else int? w <|> float? w <|> dateTime? w

end SchemaBinder.Toml
