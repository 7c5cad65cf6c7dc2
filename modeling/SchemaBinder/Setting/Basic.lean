import SchemaBinder.Json.Basic
/-!
# Settings

The values that configurations and mapping documents are made of, whatever notation they are
written in.

Two kinds of values leave open what they are.  A *plain* text stands in the document without
quotes, so `5` can be a text or a number; `Setting.settle` decides.  A *marked* value carries a
type of its own; it counts as that where any type will do, and as its bare form where a certain
type is wanted.
-/

namespace SchemaBinder

/-- A value of a configuration. -/
inductive Setting where
  /-- No value. -/
  | null
  /-- A truth value. -/
  | bool (b : Bool)
  /-- A whole number. -/
  | int (n : Int)
  /-- Any other finite number. -/
  | float (x : Double)
  /-- An infinite number, or one that is no number. -/
  | nonFinite
  /-- A text. -/
  | text (s : String)
  /-- A text without quotes. -/
  | plain (s : String)
  /-- A list. -/
  | list (items : List Setting)
  /-- A table, its fields in writing order.  A key may be repeated. -/
  | table (fields : List (String × Setting))
  /-- A value of a given type, and its bare form. -/
  | marked (value bare : Setting)
  /-- A value of no known type. -/
  | unknown
deriving Inhabited

namespace Setting

/-- The value without the type that it carries. -/
def bare : Setting → Setting
  | marked _ v => v.bare
  | v => v

/-! ## From JSON -/

mutual

/-- The setting of a JSON value. -/
def ofJson : Json → Setting
  | .null => null
  | .bool b => bool b
  | .int n => int n
  | .float x => float x
  | .str s => text s
  | .arr items => list (ofJsonItems items)
  | .obj fields => table (ofJsonFields fields)

/-- The settings of the items of a list. -/
def ofJsonItems : List Json → List Setting
  | [] => []
  | v :: rest => ofJson v :: ofJsonItems rest

/-- The settings of the fields of an object. -/
def ofJsonFields : List (String × Json) → List (String × Setting)
  | [] => []
  | (k, v) :: rest => (k, ofJson v) :: ofJsonFields rest

end

end Setting

end SchemaBinder
