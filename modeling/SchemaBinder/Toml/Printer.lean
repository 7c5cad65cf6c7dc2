import SchemaBinder.Toml.Value
/-!
# Writing TOML

`Toml.render?` writes a table: first its values, then its tables, each under a header with an
empty line in front.  A list of several items has one on each line.

A text stands in double quotes, or in single ones where that saves escapes.  A whole number
must fit 64 bits with a sign.
-/

namespace SchemaBinder.Toml.Printer

/-! ## Texts -/

/-- Does a character need an escape in every text of one line? -/
def isControl (c : Char) : Bool := !isPrintable c && c != '\n'

/-- The greatest number of times that a character stands in a row. -/
def longestRun (c : Char) (cs : List Char) : Nat :=
  let step := fun (run, longest) d =>
    if d = c then (run + 1, max longest (run + 1)) else (0, longest)
  (cs.foldl step (0, 0)).2

/-- The escape of a character between double quotes. -/
def escaped (c : Char) : List Char :=
  if c.toNat = 8 then ['\\', 'b']
  else if c = '\t' then ['\\', 't']
  else if c = '\n' then ['\\', 'n']
  else if c.toNat = 12 then ['\\', 'f']
  else if c = '\r' then ['\\', 'r']
  else if c = '"' then ['\\', '"']
  else if c = '\\' then ['\\', '\\']
  else if isPrintable c then [c]
  else
    '\\' :: 'u' :: '0' :: '0' ::
      [(Json.Token.hexDigit (c.toNat / 16)).toUpper, (Json.Token.hexDigit (c.toNat % 16)).toUpper]

/-- Characters between three double quotes, of which at most two may stand in a row. -/
def longEscaped : Nat → List Char → List Char
  | _, [] => []
  | run, c :: cs =>
    if c = '"' then
      if run < 2 then '"' :: longEscaped (run + 1) cs else '\\' :: '"' :: longEscaped 0 cs
    else (if c = '\n' then ['\n'] else escaped c) ++ longEscaped 0 cs

/-- A text in three quotes, on lines of its own if it has several. -/
def long (quote body : String) (isBroken : Bool) : String :=
  quote ++ (if isBroken then "\n" else "") ++ body ++ quote

/-- The text of a text. -/
def text (s : String) : String :=
  let cs := s.toList
  let hasControl := cs.any isControl
  let isBroken := cs.contains '\n'
  let hasBackslash := cs.contains '\\'
  let singles := longestRun '\'' cs
  let doubles := longestRun '"' cs
  if !hasControl && !hasBackslash && doubles = 0 && !isBroken then
    "\"" ++ String.ofList (cs.flatMap escaped) ++ "\""
  else if !hasControl && singles = 0 && !isBroken then "'" ++ s ++ "'"
  else if !hasControl && !hasBackslash && doubles ≤ 2 then
    long "\"\"\"" (String.ofList (longEscaped 0 cs)) isBroken
  else if !hasControl && singles ≤ 2 then long "'''" s isBroken
  else if isBroken then long "\"\"\"" (String.ofList (longEscaped 0 cs)) true
  else "\"" ++ String.ofList (cs.flatMap escaped) ++ "\""

/-- The text of a key. -/
def key (s : String) : String :=
  let cs := s.toList
  if !cs.isEmpty && cs.all isKeyChar then s
  else if !cs.any (fun c => isControl c || c == '\n') && !cs.contains '\'' &&
      (cs.contains '\\' || cs.contains '"') then
    "'" ++ s ++ "'"
  else "\"" ++ String.ofList (cs.flatMap escaped) ++ "\""

/-! ## Values -/

mutual

/-- The text of a value that is no table. -/
def value? : Setting → Option String
  | .bool b => some (if b then "true" else "false")
  | .int n =>
    if Decimal.fitsSigned 63 n then some (String.ofList (Json.Token.intText n)) else none
  | .text s => some (text s)
  | .list items => do
    match ← values? items with
    | [] => return "[]"
    | [v] => return "[" ++ v ++ "]"
    | vs => return "[\n" ++ String.join (vs.map fun v => "    " ++ v ++ ",\n") ++ "]"
  | _ => none

/-- The texts of the items of a list. -/
def values? : List Setting → Option (List String)
  | [] => some []
  | v :: rest => do
    let text ← value? v
    let texts ← values? rest
    return text :: texts

end

/-! ## Tables -/

/-- The lines of the fields that are no tables. -/
def valueLines? : List (String × Setting) → Option (List String)
  | [] => some []
  | (_, .table _) :: rest => valueLines? rest
  | (k, v) :: rest => do
    let text ← value? v
    let texts ← valueLines? rest
    return (key k ++ " = " ++ text) :: texts

/-- The lines of the tables among the fields at a path. -/
def innerLines? (path : List String) : List (String × Setting) → Option (List String)
  | [] => some []
  | (k, .table fields) :: rest => do
    let inner := path ++ [key k]
    let values ← valueLines? fields
    let tables ← innerLines? inner fields
    let more ← innerLines? path rest
    return ["", "[" ++ ".".intercalate inner ++ "]"] ++ values ++ tables ++ more
  | _ :: rest => innerLines? path rest

/-- The lines of a table. -/
def tableLines? (fields : List (String × Setting)) : Option (List String) := do
  return (← valueLines? fields) ++ (← innerLines? [] fields)

end Printer

/-- The text of a table.  There is none if a number is too large, or if a part has no form in
this notation. -/
def render? : Setting → Option String
  | .table fields => do
    let lines ← Printer.tableLines? fields
    return String.join (lines.map (· ++ "\n"))
  | _ => none

end SchemaBinder.Toml
