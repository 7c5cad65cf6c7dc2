import SchemaBinder.Toml.Value
/-!
# Reading TOML

`Toml.read?` reads a document of TOML 1.0 into a table.

The document is kept as a tree while it is read, since tables are written in parts.  A table is
*implied* by the header of a table inside it, *dotted* if a key with dots has made it, and
*stated* by a header of its own.  A header may state a table once, unless it is dotted; a key
with dots may add to dotted tables only.  Values, among them tables and lists in brackets, are
closed.
-/

namespace SchemaBinder.Toml

/-! ## The tree of a document -/

/-- How a table has come about. -/
inductive TableKind where
  /-- By the header of a table inside it. -/
  | implied
  /-- By a key with dots. -/
  | dotted
  /-- By its own header. -/
  | stated
deriving DecidableEq

/-- A part of a document. -/
inductive Part where
  /-- A value, which is closed. -/
  | value (v : Setting)
  /-- A table. -/
  | table (kind : TableKind) (fields : List (String × Part))
  /-- A list of tables, the last one first. -/
  | tables (reversed : List (List (String × Part)))

mutual

/-- The setting of a part. -/
def Part.toSetting : Part → Setting
  | .value v => v
  | .table _ fields => .table (fieldSettings fields)
  | .tables reversed => .list (tableSettings reversed).reverse

/-- The settings of fields. -/
def fieldSettings : List (String × Part) → List (String × Setting)
  | [] => []
  | (k, p) :: rest => (k, p.toSetting) :: fieldSettings rest

/-- The settings of tables. -/
def tableSettings : List (List (String × Part)) → List Setting
  | [] => []
  | fields :: rest => .table (fieldSettings fields) :: tableSettings rest

end

/-- Changes the fields of the table at a path below some fields.  `kind` is the kind of tables
that are made on the way; a dotted path leads only through implied and dotted tables. -/
def changeAt? (kind : TableKind) (change : TableKind → List (String × Part) →
      Option (TableKind × List (String × Part))) :
    List String → TableKind → List (String × Part) → Option (TableKind × List (String × Part))
  | [], own, fields => change own fields
  | key :: path, own, fields =>
    match (Assoc.get? key fields).getD (.table kind []) with
    | .value _ => none
    | .tables [] => none
    | .tables (last :: others) => do
      let (_, last) ← changeAt? kind change path .stated last
      return (own, Assoc.set key (.tables (last :: others)) fields)
    | .table inner below =>
      if kind = .dotted && inner = .stated then none
      else do
        let (inner, below) ← changeAt? kind change path inner below
        return (own, Assoc.set key (.table inner below) fields)

/-- Adds a value under the last key of a path, below a table. -/
def addValue? (path : List String) (key : String) (v : Setting)
    (own : TableKind) (fields : List (String × Part)) :
    Option (TableKind × List (String × Part)) :=
  changeAt? .dotted (fun kind fields =>
    if (kind == .dotted) == path.isEmpty || (Assoc.get? key fields).isSome then none
    else some (kind, Assoc.set key (.value v) fields)) path own fields

/-- States the table of a header. -/
def stateTable? (key : String) (own : TableKind) (fields : List (String × Part)) :
    Option (TableKind × List (String × Part)) :=
  match Assoc.get? key fields with
  | none => some (own, Assoc.set key (.table .stated []) fields)
  | some (.table .implied below) => some (own, Assoc.set key (.table .stated below) fields)
  | some _ => none

/-- Adds a table to the list of a header. -/
def addTable? (key : String) (own : TableKind) (fields : List (String × Part)) :
    Option (TableKind × List (String × Part)) :=
  match Assoc.get? key fields with
  | none => some (own, Assoc.set key (.tables [[]]) fields)
  | some (.tables others) => some (own, Assoc.set key (.tables ([] :: others)) fields)
  | some _ => none

/-! ## Keys -/

/-- A key without dots, and what follows it. -/
def simpleKey? (cs : List Char) : Option (String × List Char) :=
  match cs with
  | '"' :: cs => (basic? cs).map fun (t, rest) => (String.ofList t, rest)
  | '\'' :: cs => (literal? cs).map fun (t, rest) => (String.ofList t, rest)
  | cs =>
    let name := cs.takeWhile isKeyChar
    if name.isEmpty then none else some (String.ofList name, cs.dropWhile isKeyChar)

/-- A key and its parts between dots, and what follows it.  Every part uses up some fuel. -/
def key? : Nat → List Char → Option (List String × List Char)
  | 0, _ => none
  | fuel + 1, cs => do
    let (name, rest) ← simpleKey? (cs.dropWhile isBlank)
    match rest.dropWhile isBlank with
    | '.' :: rest =>
      let (names, rest) ← key? fuel rest
      return (name :: names, rest)
    | rest => return ([name], rest)

/-! ## Values -/

/-- Characters without a comment at their front, which holds no control characters. -/
def afterComment? : List Char → Option (List Char)
  | '#' :: cs =>
    let comment := cs.takeWhile (· ≠ '\n')
    if comment.all isPrintable then some (cs.dropWhile (· ≠ '\n')) else none
  | cs => some cs

/-- Characters without blanks, line breaks and comments at their front.  Every line uses up some
fuel. -/
def afterGap? : Nat → List Char → Option (List Char)
  | 0, cs => some cs
  | fuel + 1, cs => do
    match ← afterComment? (cs.dropWhile isBlank) with
    | '\n' :: rest => afterGap? fuel rest
    | rest => return rest

/-- The parts of a table in braces as a setting. -/
def inlineTable (fields : List (String × Part)) : Setting := .table (fieldSettings fields)

mutual

/-- A value, and what follows it.  Every call uses up some fuel. -/
def value? : Nat → List Char → Option (Setting × List Char)
  | 0, _ => none
  | fuel + 1, cs =>
    match cs with
    | '[' :: cs => do
      let (items, rest) ← items? fuel cs
      return (.list items, rest)
    | '{' :: cs =>
      match cs.dropWhile isBlank with
      | '}' :: rest => some (.table [], rest)
      | cs => do
        let (fields, rest) ← inlineFields? fuel [] cs
        return (inlineTable fields, rest)
    | '"' :: cs => (quoted? ('"' :: cs)).map fun (s, rest) => (.text s, rest)
    | '\'' :: cs => (quoted? ('\'' :: cs)).map fun (s, rest) => (.text s, rest)
    | cs => do
      let (w, rest) := word cs
      return (← ofWord? w, rest)

/-- The items of a list behind its bracket or a comma, and what follows the list. -/
def items? : Nat → List Char → Option (List Setting × List Char)
  | 0, _ => none
  | fuel + 1, cs => do
    match ← afterGap? cs.length cs with
    | ']' :: rest => return ([], rest)
    | cs =>
      let (item, rest) ← value? fuel cs
      match ← afterGap? rest.length rest with
      | ']' :: rest => return ([item], rest)
      | ',' :: rest =>
        let (items, rest) ← items? fuel rest
        return (item :: items, rest)
      | _ => none

/-- The fields of a table in braces, and what follows the table. -/
def inlineFields? : Nat → List (String × Part) → List Char →
    Option (List (String × Part) × List Char)
  | 0, _, _ => none
  | fuel + 1, fields, cs => do
    let (names, rest) ← key? cs.length cs
    let rest ← mark? '=' rest
    let (v, rest) ← value? fuel (rest.dropWhile isBlank)
    let (_, fields) ← addValue? names.dropLast (names.getLastD "") v .stated fields
    match rest.dropWhile isBlank with
    | '}' :: rest => return (fields, rest)
    | ',' :: rest => inlineFields? fuel fields rest
    | _ => none

end

/-! ## Documents -/

/-- What has been read of a document. -/
structure State where
  /-- The parts so far. -/
  fields : List (String × Part)
  /-- The path of the last header. -/
  header : List String

/-- Changes the fields of the table of the last header. -/
def State.changeCurrent? (s : State) (change : TableKind → List (String × Part) →
      Option (TableKind × List (String × Part))) : Option State := do
  let (_, fields) ← changeAt? .implied change s.header .stated s.fields
  return { s with fields }

/-- Enters the table of a header. -/
def State.enter? (s : State) (names : List String)
    (add : String → TableKind → List (String × Part) →
      Option (TableKind × List (String × Part))) : Option State := do
  let (_, fields) ← changeAt? .implied (add (names.getLastD "")) names.dropLast .stated s.fields
  return { fields, header := names }

/-- The rest after the end of a line, before which only blanks and a comment may come. -/
def afterLine? (cs : List Char) : Option (List Char) := do
  match ← afterComment? (cs.dropWhile isBlank) with
  | [] => return []
  | '\n' :: rest => return rest
  | _ => none

/-- What one line says, and what follows it. -/
def line? (s : State) (cs : List Char) : Option (State × List Char) :=
  match cs.dropWhile isBlank with
  | [] => some (s, [])
  | '\n' :: rest => some (s, rest)
  | '#' :: rest => (afterLine? ('#' :: rest)).map (s, ·)
  | '[' :: '[' :: cs => do
    let (names, rest) ← key? cs.length cs
    let rest ← mark? ']' (← mark? ']' rest)
    return (← s.enter? names addTable?, ← afterLine? rest)
  | '[' :: cs => do
    let (names, rest) ← key? cs.length cs
    let rest ← mark? ']' rest
    return (← s.enter? names stateTable?, ← afterLine? rest)
  | cs => do
    let (names, rest) ← key? cs.length cs
    let rest ← mark? '=' rest
    let (v, rest) ← value? (rest.length + 1) (rest.dropWhile isBlank)
    let s ← s.changeCurrent? (addValue? names.dropLast (names.getLastD "") v)
    return (s, ← afterLine? rest)

/-- What the lines of a document say.  Every line uses up some fuel. -/
def lines? : Nat → State → List Char → Option State
  | 0, s, _ => some s
  | fuel + 1, s, cs =>
    if cs.isEmpty then some s
    else
      match line? s cs with
      | none => none
      | some (s, rest) => lines? fuel s rest

/-- The characters of a text without a byte order mark. -/
def source (text : String) : List Char :=
  match text.toList with
  | c :: cs => normalBreaks (if c.toNat = 0xFEFF then cs else c :: cs)
  | [] => []

/-- The table that a text writes. -/
def read? (text : String) : Option Setting := do
  let cs := source text
  let s ← lines? (cs.length + 1) ⟨[], []⟩ cs
  return .table (fieldSettings s.fields)

end SchemaBinder.Toml
