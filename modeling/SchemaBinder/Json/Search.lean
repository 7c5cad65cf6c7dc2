import SchemaBinder.Decimal.Word
import SchemaBinder.Json.Basic
import SchemaBinder.Text.Blank
/-!
# Searching a JSON value

Two ways to reach a part of a value.

`pointer?` follows a JSON pointer: segments with a slash before each, where `~1` stands for a
slash and `~0` for a tilde, and a list is entered by the decimal position of an item.

`find?` takes the value of the first field with a given key, in the order of `entries`: fields
in writing order, each before the fields inside its own value.
-/

namespace SchemaBinder.Json

/-! ## Pointers -/

/-- A segment of a pointer with its escapes replaced, `~1` before `~0`. -/
def unescapeSegment (cs : List Char) : List Char :=
  let rec replace (code : Char) (mark : Char) : List Char → List Char
    | '~' :: c :: rest => if c = code then mark :: replace code mark rest
        else '~' :: replace code mark (c :: rest)
    | c :: rest => c :: replace code mark rest
    | [] => []
  replace '0' '~' (replace '1' '/' cs)

/-- The position that a segment names.  Its first digit is zero only if it is the only one. -/
def position? (cs : List Char) : Option Nat :=
  if cs.isEmpty || !cs.all Char.isDigit || (cs.head? == some '0' && 1 < cs.length) then none
  else
    let n := cs.foldl (fun n c => n * 10 + (c.toNat - '0'.toNat)) 0
    if Decimal.fits 64 n then some n else none

/-- The part of a value under one segment. -/
def child? (v : Json) (segment : List Char) : Option Json :=
  match v with
  | .obj fields => Assoc.get? (String.ofList segment) fields
  | .arr items => (position? segment).bind fun n => items[n]?
  | _ => none

/-- The part of a value that a pointer names. -/
def pointer? (pointer : String) (v : Json) : Option Json :=
  match pointer.toList with
  | [] => some v
  | c :: cs =>
    if c = '/' then
      (Text.split '/' cs).foldl (fun v segment => v.bind (child? · (unescapeSegment segment)))
        (some v)
    else none

/-! ## The first field with a key -/

mutual

/-- All fields of the objects in a value, each before the ones inside its own value. -/
def entries : Json → List (String × Json)
  | .arr items => entriesItems items
  | .obj fields => entriesFields fields
  | _ => []

/-- The fields inside the items of a list. -/
def entriesItems : List Json → List (String × Json)
  | [] => []
  | v :: rest => entries v ++ entriesItems rest

/-- The fields of an object and the ones inside them. -/
def entriesFields : List (String × Json) → List (String × Json)
  | [] => []
  | (k, v) :: rest => (k, v) :: (entries v ++ entriesFields rest)

end

mutual

/-- The value of the first field with a key, at any depth. -/
def find? (key : String) : Json → Option Json
  | .arr items => findItems? key items
  | .obj fields => findFields? key fields
  | _ => none

/-- The first one inside the items of a list. -/
def findItems? (key : String) : List Json → Option Json
  | [] => none
  | v :: rest =>
    match find? key v with
    | some w => some w
    | none => findItems? key rest

/-- The first one among the fields of an object and inside them. -/
def findFields? (key : String) : List (String × Json) → Option Json
  | [] => none
  | (k, v) :: rest =>
    if k = key then some v
    else
      match find? key v with
      | some w => some w
      | none => findFields? key rest

end

end SchemaBinder.Json
