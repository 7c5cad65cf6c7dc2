import SchemaBinder.Assoc
import SchemaBinder.Decimal.Double
/-!
# JSON values

The values a schema document is made of.  An object keeps the order of its fields, and a number
is an integer or a number of double precision; the two are never equal.

`Json.same` is equality of values: the order of the fields of an object does not matter to it,
nor does the sign of a zero.
-/

namespace SchemaBinder

/-- A JSON value. -/
inductive Json where
  /-- The value `null`. -/
  | null
  /-- A truth value. -/
  | bool (b : Bool)
  /-- A number that is written without a point or an exponent. -/
  | int (n : Int)
  /-- A number that is written with one. -/
  | float (x : Double)
  /-- A text. -/
  | str (s : String)
  /-- A list. -/
  | arr (items : List Json)
  /-- An object, its fields in writing order. -/
  | obj (fields : List (String × Json))
deriving Inhabited, Repr

namespace Json

/-! ## Parts of a value -/

/-- The text, if the value is one. -/
def asStr? : Json → Option String
  | str s => some s
  | _ => none

/-- The truth value, if the value is one. -/
def asBool? : Json → Option Bool
  | bool b => some b
  | _ => none

/-- The items, if the value is a list. -/
def asArr? : Json → Option (List Json)
  | arr items => some items
  | _ => none

/-- The fields, if the value is an object. -/
def asObj? : Json → Option (List (String × Json))
  | obj fields => some fields
  | _ => none

/-- The value of a field of an object. -/
def get? (key : String) : Json → Option Json
  | obj fields => Assoc.get? key fields
  | _ => none

/-- The text under a key. -/
def getStr? (key : String) (v : Json) : Option String :=
  (v.get? key).bind asStr?

/-- The truth value under a key. -/
def getBool? (key : String) (v : Json) : Option Bool :=
  (v.get? key).bind asBool?

/-- The list under a key. -/
def getArr? (key : String) (v : Json) : Option (List Json) :=
  (v.get? key).bind asArr?

/-- The fields of the object under a key. -/
def getObj? (key : String) (v : Json) : Option (List (String × Json)) :=
  (v.get? key).bind asObj?

/-- Is the value an object? -/
def isObj (v : Json) : Bool := v.asObj?.isSome

/-- A text or `null`. -/
def ofStr? : Option String → Json
  | some s => str s
  | none => null

/-- A list of texts. -/
def ofStrs (texts : List String) : Json := arr (texts.map str)

/-! ## Equality of values -/

mutual

/-- Are two values equal? -/
def same : Json → Json → Bool
  | null, null => true
  | bool a, bool b => a == b
  | int a, int b => a == b
  | float a, float b => a.same b
  | str a, str b => a == b
  | arr xs, arr ys => sameItems xs ys
  | obj fs, obj gs => fs.length == gs.length && sameFields fs gs
  | _, _ => false

/-- Are two lists equal, item by item? -/
def sameItems : List Json → List Json → Bool
  | [], [] => true
  | x :: xs, y :: ys => same x y && sameItems xs ys
  | _, _ => false

/-- Does every field have an equal one among the fields of another object? -/
def sameFields : List (String × Json) → List (String × Json) → Bool
  | [], _ => true
  | (k, v) :: fs, gs =>
    (match Assoc.get? k gs with
      | some w => same v w
      | none => false) && sameFields fs gs

end

/-- Equality of a value that may be absent. -/
def same? : Option Json → Option Json → Bool
  | none, none => true
  | some v, some w => same v w
  | _, _ => false

/-! ## The bound of nesting -/

mutual

/-- The greatest number of lists and objects around any part of a value. -/
def depth : Json → Nat
  | arr items => depthItems items + 1
  | obj fields => depthFields fields + 1
  | _ => 0

/-- The greatest depth of an item. -/
def depthItems : List Json → Nat
  | [] => 0
  | v :: rest => max (depth v) (depthItems rest)

/-- The greatest depth of the value of a field. -/
def depthFields : List (String × Json) → Nat
  | [] => 0
  | (_, v) :: rest => max (depth v) (depthFields rest)

end

end Json

end SchemaBinder
