import SchemaBinder.Yaml.Mark
import SchemaBinder.Yaml.Scalar
/-!
# Tokens

The tokens of a document.  Outside of flow collections, which are written in brackets, the
indentation of lines makes tokens of its own: the starts and ends of block collections.

A mapping key needs no mark in front.  What may be such a *simple key* is remembered until a
colon follows it, and only then its key token is put in front of it, with the start of a block
mapping if the key is indented further than the collection around it.  A simple key ends on the
line it starts on, within `maxSimpleKey` characters.
-/

namespace SchemaBinder.Yaml

/-- A token. -/
inductive Token where
  /-- A directive. -/
  | directive (d : Mark.Directive)
  /-- The start of a document. -/
  | documentStart
  /-- The end of a document. -/
  | documentEnd
  /-- The start of a block sequence. -/
  | sequenceStart
  /-- The start of a block mapping. -/
  | mappingStart
  /-- The end of a block collection. -/
  | blockEnd
  /-- The mark of an entry of a block sequence. -/
  | entry
  /-- A bracket that opens a flow sequence. -/
  | openList
  /-- A bracket that closes a flow sequence. -/
  | closeList
  /-- A brace that opens a flow mapping. -/
  | openTable
  /-- A brace that closes a flow mapping. -/
  | closeTable
  /-- A comma in a flow collection. -/
  | comma
  /-- The front of a key. -/
  | key
  /-- The front of a value. -/
  | value
  /-- An alias. -/
  | alias_ (name : String)
  /-- An anchor. -/
  | anchor (name : String)
  /-- A tag. -/
  | tag (t : Mark.Tag)
  /-- A scalar, plain or in quotes or as a block. -/
  | scalar (isPlain : Bool) (text : String)

namespace Token

/-! ## The state of a scan -/

/-- The greatest number of characters of a simple key. -/
def maxSimpleKey : Nat := 1024

/-- What may turn out to be a simple key. -/
structure SimpleKey where
  /-- Must it be one? -/
  required : Bool
  /-- The number of tokens in front of it. -/
  position : Nat
  /-- The number of characters in front of it. -/
  offset : Nat
  /-- Its line. -/
  line : Nat
  /-- Its column. -/
  column : Nat

/-- The state of a scan. -/
structure Scan where
  /-- The characters to come. -/
  rest : List Char
  /-- The number of characters before. -/
  offset : Nat
  /-- The number of lines before. -/
  line : Nat
  /-- The number of characters before on this line. -/
  column : Nat
  /-- The column of the innermost block collection, `-1` outside of all. -/
  indent : Int
  /-- The columns of the block collections around it. -/
  outer : List Int
  /-- May a simple key start here? -/
  keyAllowed : Bool
  /-- What may be a simple key in the innermost flow collection. -/
  simpleKey : Option SimpleKey
  /-- What may be one in each flow collection around it. -/
  outerKeys : List (Option SimpleKey)
  /-- The tokens so far, the last one first. -/
  tokens : List Token
  /-- The number of tokens so far. -/
  count : Nat

namespace Scan

/-- The scan of a text from its start on. -/
def start (cs : List Char) : Scan where
  rest := cs
  offset := 0
  line := 0
  column := 0
  indent := -1
  outer := []
  keyAllowed := true
  simpleKey := none
  outerKeys := []
  tokens := []
  count := 0

/-- Is the scan inside a flow collection? -/
def inFlow (s : Scan) : Bool := !s.outerKeys.isEmpty

/-- The scan after one character. -/
def skipChar (s : Scan) (c : Char) : Scan :=
  if isBreak c then { s with offset := s.offset + 1, line := s.line + 1, column := 0 }
  else { s with offset := s.offset + 1, column := s.column + 1 }

/-- The scan after some characters. -/
def skip (s : Scan) (n : Nat) : Scan :=
  { (s.rest.take n).foldl skipChar s with rest := s.rest.drop n }

/-- The scan with one more token. -/
def push (s : Scan) (t : Token) : Scan :=
  { s with tokens := t :: s.tokens, count := s.count + 1 }

/-- The scan with one more token at a position before its end. -/
def insert (s : Scan) (position : Nat) (t : Token) : Scan :=
  let later := s.count - position
  { s with
    tokens := s.tokens.take later ++ t :: s.tokens.drop later
    count := s.count + 1 }

/-! ## Indentation -/

/-- Ends the block collections that are indented further than a column. -/
def closeBlocks (s : Scan) (column : Int) : Scan :=
  if s.inFlow then s
  else
    let closed := (s.indent :: s.outer).takeWhile (column < ·)
    let left := (s.indent :: s.outer).dropWhile (column < ·)
    { s with
      indent := left.headD (-1)
      outer := left.tail
      tokens := List.replicate closed.length .blockEnd ++ s.tokens
      count := s.count + closed.length }

/-- Starts a block collection at a column, if it is indented further than the one around it.
Its token is put at a position. -/
def openBlock (s : Scan) (column position : Nat) (t : Token) : Scan :=
  if s.inFlow || (column : Int) ≤ s.indent then s
  else { s with indent := column, outer := s.indent :: s.outer }.insert position t

/-! ## Simple keys -/

/-- Forgets what may be a simple key, unless it must be one. -/
def dropKey (s : Scan) : Option Scan :=
  match s.simpleKey with
  | some k => if k.required then none else some { s with simpleKey := none }
  | none => some s

/-- Remembers that a simple key may start here. -/
def saveKey (s : Scan) : Option Scan := do
  if s.keyAllowed then
    let required := !s.inFlow && s.indent == s.column
    let s ← s.dropKey
    return { s with simpleKey := some ⟨required, s.count, s.offset, s.line, s.column⟩ }
  else return s

/-- Is it too late for a colon behind a simple key? -/
def isStale (s : Scan) (k : SimpleKey) : Bool :=
  k.line < s.line || k.offset + maxSimpleKey < s.offset

/-- What may still be a simple key, unless it must be one and no longer can. -/
def freshKey? (s : Scan) : Option SimpleKey → Option (Option SimpleKey)
  | some k => if s.isStale k then (if k.required then none else some none) else some k
  | none => some none

/-- Forgets what can no longer be a simple key. -/
def dropStaleKeys (s : Scan) : Option Scan := do
  let simpleKey ← s.freshKey? s.simpleKey
  let outerKeys ← s.outerKeys.mapM s.freshKey?
  return { s with simpleKey, outerKeys }

/-! ## One token -/

/-- The number of characters before the next token, and whether a line break is among them.
`tabs` tells whether tabs are skipped like blanks; behind a line break they are so only inside a
flow collection.  A byte order mark is skipped where a line starts. -/
def beforeToken (inFlow tabs lineStart inComment broken : Bool) (passed : Nat) :
    List Char → Nat × Bool
  | [] => (passed, broken)
  | c :: cs =>
    if isBreak c then beforeToken inFlow inFlow true false true (passed + 1) cs
    else if inComment || c == '#' then beforeToken inFlow tabs false true broken (passed + 1) cs
    else if c == ' ' || (c == '\t' && tabs) || (lineStart && isOrderMark c) then
      beforeToken inFlow tabs false false broken (passed + 1) cs
    else (passed, broken)

/-- Goes to the next token.  Outside of flow collections a simple key may start on a new
line. -/
def toToken (s : Scan) : Scan :=
  let (n, broken) := beforeToken s.inFlow (s.inFlow || !s.keyAllowed) (s.column == 0) false false 0 s.rest
  { s.skip n with keyAllowed := s.keyAllowed || (broken && !s.inFlow) }

/-- A token of `n` characters that ends all block collections. -/
def topToken (s : Scan) (t : Token) (n : Nat) : Option Scan := do
  let s ← (s.closeBlocks (-1)).dropKey
  return ({ s with keyAllowed := false }.skip n).push t

/-- A bracket or brace that opens a flow collection. -/
def openFlow (s : Scan) (t : Token) : Option Scan := do
  let s ← s.saveKey
  return ({ s with
    simpleKey := none, outerKeys := s.simpleKey :: s.outerKeys, keyAllowed := true
    }.skip 1).push t

/-- A bracket or brace that closes a flow collection. -/
def closeFlow (s : Scan) (t : Token) : Option Scan := do
  let s ← s.dropKey
  let s := match s.outerKeys with
    | [] => s
    | k :: outer => { s with simpleKey := k, outerKeys := outer }
  return ({ s with keyAllowed := false }.skip 1).push t

/-- A comma in a flow collection. -/
def comma (s : Scan) : Option Scan := do
  let s ← s.dropKey
  return ({ s with keyAllowed := true }.skip 1).push .comma

/-- The mark of an entry of a block sequence. -/
def entry (s : Scan) : Option Scan := do
  if !s.inFlow && !s.keyAllowed then none
  else
    let s ← (s.openBlock s.column s.count .sequenceStart).dropKey
    return ({ s with keyAllowed := true }.skip 1).push .entry

/-- The mark of a key. -/
def key (s : Scan) : Option Scan := do
  if !s.inFlow && !s.keyAllowed then none
  else
    let s ← (s.openBlock s.column s.count .mappingStart).dropKey
    return ({ s with keyAllowed := !s.inFlow }.skip 1).push .key

/-- The mark of a value.  It makes what may be a simple key one. -/
def value (s : Scan) : Option Scan :=
  match s.simpleKey with
  | some k =>
    let s := (s.insert k.position .key).openBlock k.column k.position .mappingStart
    some (({ s with simpleKey := none, keyAllowed := false }.skip 1).push .value)
  | none =>
    if !s.inFlow && !s.keyAllowed then none
    else
      let s := s.openBlock s.column s.count .mappingStart
      some (({ s with keyAllowed := !s.inFlow }.skip 1).push .value)

/-- A token of `n` characters that may start a simple key. -/
def word (s : Scan) (t : Token) (n : Nat) : Option Scan := do
  let s ← s.saveKey
  return ({ s with keyAllowed := false }.skip n).push t

/-- A plain scalar. -/
def plain (s : Scan) : Option Scan := do
  let p ← Scalar.plain? s.inFlow (s.indent + 1).toNat s.column .none [] 0 s.rest
  let s ← s.word (.scalar true (String.ofList p.text)) p.passed
  return if p.isBroken then { s with keyAllowed := true } else s

/-- A scalar in quotes. -/
def quoted (s : Scan) (scalar : Option (List Char × Nat)) : Option Scan := do
  let (text, n) ← scalar
  s.word (.scalar false (String.ofList text)) n

/-- A block scalar. -/
def block (s : Scan) (literal : Bool) (cs : List Char) : Option Scan := do
  let s ← s.dropKey
  let (text, n) ← Scalar.block? literal s.indent cs
  return ({ s with keyAllowed := true }.skip (n + 1)).push (.scalar false (String.ofList text))

/-- The rest of a line. -/
def lineOf (cs : List Char) : List Char := cs.takeWhile (!isBreak ·)

/-- The marks that start anything but a plain scalar, or start one only at times. -/
def marks : List Char :=
  ['-', '?', ':', ',', '[', ']', '{', '}', '#', '&', '*', '!', '|', '>', '\'', '"', '%', '@',
    Char.ofNat 0x60]

/-- Can a plain scalar start with a character, whatever follows it? -/
def startsPlain (c : Char) : Bool := !isSpace c && !marks.contains c

/-- The scan after the token that starts with a character. -/
def step (s : Scan) (c : Char) (cs : List Char) : Option Scan :=
  let ends := endsWord cs
  if s.column = 0 ∧ c = '%' then do
    let line := lineOf cs
    s.topToken (.directive (← Mark.directive? line)) (line.length + 1)
  else if s.column = 0 ∧ isDocumentMark (c :: cs) then
    s.topToken (if c = '-' then .documentStart else .documentEnd) 3
  else if c = '[' then s.openFlow .openList
  else if c = '{' then s.openFlow .openTable
  else if c = ']' then s.closeFlow .closeList
  else if c = '}' then s.closeFlow .closeTable
  else if c = ',' then s.comma
  else if c = '-' ∧ ends then s.entry
  else if c = '?' ∧ (s.inFlow ∨ ends) then s.key
  else if c = ':' ∧ (s.inFlow ∨ ends) then s.value
  else if c = '*' then do
    let name ← Mark.anchor? (lineOf cs)
    s.word (.alias_ name) (name.length + 1)
  else if c = '&' then do
    let name ← Mark.anchor? (lineOf cs)
    s.word (.anchor name) (name.length + 1)
  else if c = '!' then do
    let line := lineOf (c :: cs)
    let (t, rest) ← Mark.tag? s.inFlow line
    s.word (.tag t) (line.length - rest.length)
  else if c = '|' ∧ !s.inFlow then s.block true cs
  else if c = '>' ∧ !s.inFlow then s.block false cs
  else if c = '\'' then s.quoted (Scalar.singleQuoted? false .none [] 1 cs)
  else if c = '"' then s.quoted (Scalar.doubleQuoted? false .none [] 1 cs)
  else if startsPlain c || (c == '-' && !(cs.head?.map isBlank).getD false)
      || (!s.inFlow && (c == '?' || c == ':') && !ends) then s.plain
  else none

/-- The scan at the end of the text. -/
def finish (s : Scan) : Option Scan := do
  let s := if s.column = 0 then s else { s with column := 0, line := s.line + 1 }
  (s.closeBlocks (-1)).dropKey

/-- The tokens of the rest of the text.  Every token uses up some of the fuel. -/
def run : Nat → Scan → Option (List Token)
  | 0, _ => none
  | fuel + 1, s => do
    let s ← s.toToken.dropStaleKeys
    let s := s.closeBlocks s.column
    match s.rest with
    | [] => return (← s.finish).tokens.reverse
    | c :: cs => run fuel (← s.step c cs)

end Scan

/-- The tokens of a text. -/
def scan? (cs : List Char) : Option (List Token) :=
  (Scan.start cs).run (cs.length + 1)

end Token

end SchemaBinder.Yaml
