import SchemaBinder.Setting.Plain
/-!
# Settled values

A settled value has no plain text and no marked value left at its outside: every such value has
become what it is where any type will do.  `Setting.toJson?` settles a value to its depths.

A value that is nested in more than `maxDepth` lists and tables has no JSON form, nor has one
with a part of no known type.
-/

namespace SchemaBinder.Setting

/-- What a value is where any type will do. -/
def settle : Setting → Setting
  | plain s => Plain.settle s
  | marked v _ => v.settle
  | v => v

/-- The greatest number of lists and tables around a value. -/
def maxDepth : Nat := 128

mutual

/-- The JSON form of a value that may have so many levels of lists and tables.  A number that is
not finite is `null`. -/
def toJsonWithin? (levels : Nat) : Setting → Option Json
  | null => some .null
  | bool b => some (.bool b)
  | int n => some (.int n)
  | float x => some (.float x)
  | nonFinite => some .null
  | text s => some (.str s)
  | plain s =>
    match Plain.settle s with
    | null => some .null
    | bool b => some (.bool b)
    | int n => some (.int n)
    | float x => some (.float x)
    | nonFinite => some .null
    | text s => some (.str s)
    | _ => none
  | list items =>
    if levels = 0 then none else (itemsToJson? (levels - 1) items).map .arr
  | table fields =>
    if levels = 0 then none
    else (fieldsToJson? (levels - 1) fields).map fun fields => .obj (Assoc.ofList fields)
  | marked v _ => toJsonWithin? levels v
  | unknown => none

/-- The JSON forms of the items of a list. -/
def itemsToJson? (levels : Nat) : List Setting → Option (List Json)
  | [] => some []
  | v :: rest => do
    let w ← toJsonWithin? levels v
    let ws ← itemsToJson? levels rest
    return w :: ws

/-- The JSON forms of the fields of a table. -/
def fieldsToJson? (levels : Nat) : List (String × Setting) → Option (List (String × Json))
  | [] => some []
  | (k, v) :: rest => do
    let w ← toJsonWithin? levels v
    let ws ← fieldsToJson? levels rest
    return (k, w) :: ws

end

/-- The JSON form of a value.  Of repeated keys the first keeps its place and the last its
value. -/
def toJson? (v : Setting) : Option Json := v.toJsonWithin? maxDepth

end SchemaBinder.Setting
