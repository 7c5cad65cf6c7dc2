import SchemaBinder.Decimal.Text
import SchemaBinder.Json.Token
import SchemaBinder.Text.Octets
import SchemaBinder.Yaml.Gap
/-!
# Anchors, tags and directives

The small marks of a document: the name behind `&` or `*`, the tag behind `!`, and the lines at
its top that start with `%`.

A tag has a handle, which stands for the start of a longer text, and a suffix.  A directive
`%TAG` gives a handle its meaning, and `%YAML` tells the version.
-/

namespace SchemaBinder.Yaml.Mark

/-! ## Anchors -/

/-- Can these characters follow an anchor? -/
def endsAnchor (cs : List Char) : Bool :=
  endsWord cs ||
    match cs with
    | [] => true
    | c :: _ => ['?', ':', ',', ']', '}', '%', '@', Char.ofNat 0x60].contains c

/-- The name behind the mark of an anchor or an alias. -/
def anchor? (cs : List Char) : Option String :=
  let name := cs.takeWhile isNameChar
  if name.isEmpty || !endsAnchor (cs.dropWhile isNameChar) then none
  else some (String.ofList name)

/-! ## Tags -/

/-- Can a tag hold a character?  `verbatim` tells whether it is written in full. -/
def isTagChar (verbatim : Bool) (c : Char) : Bool :=
  isNameChar c || [';', '/', '?', ':', '@', '&', '=', '+', '$', '.', '%', '!', '~', '*', '\'',
    '(', ')'].contains c || (verbatim && [',', '[', ']'].contains c)

/-- The octets of the text of a tag, whose percent signs are decoded. -/
def tagOctets? : List Char → Option (List UInt8)
  | [] => some []
  | '%' :: a :: b :: cs => do
    let a ← Json.Token.hexValue? a
    let b ← Json.Token.hexValue? b
    let rest ← tagOctets? cs
    return UInt8.ofNat (a * 16 + b) :: rest
  | c :: cs => if c = '%' then none else (tagOctets? cs).map (String.utf8EncodeChar c ++ ·)

/-- The text of a tag after a given start, and what follows it.  The two must not both be
empty. -/
def tagText? (verbatim : Bool) (start : List Char) (cs : List Char) :
    Option (String × List Char) := do
  let raw := cs.takeWhile (isTagChar verbatim)
  let octets ← tagOctets? raw
  let decoded ← String.fromUTF8? ⟨octets.toArray⟩
  if start.isEmpty && raw.isEmpty then none
  else some (String.ofList (start.drop 1) ++ decoded, cs.dropWhile (isTagChar verbatim))

/-- The handle at the front of a tag, and what follows it. -/
def handle? (cs : List Char) : Option (List Char × List Char) :=
  match cs with
  | '!' :: cs =>
    let name := cs.takeWhile isNameChar
    match cs.dropWhile isNameChar with
    | '!' :: rest => some ('!' :: name ++ ['!'], rest)
    | rest => some ('!' :: name, rest)
  | _ => none

/-- A tag as it is written. -/
structure Tag where
  /-- The handle.  There is none in a tag that is written in full. -/
  handle : String
  /-- The rest. -/
  suffix : String

/-- A tag that is written in full, and what follows it. -/
def verbatimTag? (cs : List Char) : Option (Tag × List Char) := do
  let (suffix, rest) ← tagText? true [] cs
  match rest with
  | '>' :: rest => some (⟨"", suffix⟩, rest)
  | _ => none

/-- A tag with a handle, and what follows it. -/
def shortTag? (cs : List Char) : Option (Tag × List Char) := do
  let (handle, rest) ← handle? cs
  if 1 < handle.length && handle.getLast? == some '!' then
    let (suffix, rest) ← tagText? false [] rest
    return (⟨String.ofList handle, suffix⟩, rest)
  else
    let (suffix, rest) ← tagText? false handle rest
    return (if suffix = "" then ⟨"", "!"⟩ else ⟨"!", suffix⟩, rest)

/-- A tag, and what follows it.  A blank or a break must, or a comma in a flow collection. -/
def tag? (inFlow : Bool) (cs : List Char) : Option (Tag × List Char) := do
  let (tag, rest) ← match cs with
    | '!' :: '<' :: cs => verbatimTag? cs
    | cs => shortTag? cs
  if endsWord rest || (inFlow && rest.head? == some ',') then some (tag, rest) else none

/-! ## Directives -/

/-- A line that starts with a percent sign. -/
inductive Directive where
  /-- The version of the document. -/
  | version (major minor : Nat)
  /-- The meaning of a handle. -/
  | handle (handle start : String)

/-- A number of at most nine digits, and what follows it. -/
def versionNumber? (cs : List Char) : Option (Nat × List Char) :=
  let (digits, rest) := Decimal.splitDigits cs
  if digits.isEmpty || 9 < digits.length then none else some (Decimal.nat digits, rest)

/-- The version behind the name of its directive, and what follows it. -/
def version? (cs : List Char) : Option (Directive × List Char) := do
  let (major, rest) ← versionNumber? cs
  match rest with
  | '.' :: rest =>
    let (minor, rest) ← versionNumber? rest
    return (.version major minor, rest)
  | _ => none

/-- A handle and its meaning behind the name of their directive, and what follows them. -/
def handleMeaning? (cs : List Char) : Option (Directive × List Char) := do
  let (handle, rest) ← handle? cs
  if handle.length ≠ 1 && handle.getLast? != some '!' then none
  else if !(rest.head?.map isBlank).getD false then none
  else
    let (start, rest) ← tagText? true [] (rest.dropWhile isBlank)
    if endsWord rest then some (.handle (String.ofList handle) start, rest) else none

/-- A directive on a line behind its percent sign.  Only a comment may follow it. -/
def directive? (line : List Char) : Option Directive := do
  let name := String.ofList (line.takeWhile isNameChar)
  let rest := line.dropWhile isNameChar
  if name = "" || !endsWord rest then none
  else
    let value := rest.dropWhile isBlank
    let (directive, rest) ←
      if name = "YAML" then version? value
      else if name = "TAG" then handleMeaning? value
      else none
    match rest.dropWhile isBlank with
    | [] => some directive
    | c :: _ => if c = '#' then some directive else none

end SchemaBinder.Yaml.Mark
