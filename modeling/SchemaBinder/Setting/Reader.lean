import SchemaBinder.Setting.Settled
/-!
# Reading settings

Readers for the types that configurations are made of.  A reader fails with a `ShapeFault`.

Where a certain type is wanted a plain text can be of that type: `5` is a text where a text is
wanted.  The readers whose names end in `Settled` take a value for what it is where any type
will do, and do not accept `5` as a text.

A record is a table or, in notations that allow it, a list of the values of its first fields.
It is read field by field in writing order, starting from a record of defaults, and the first
field that cannot be read decides the fault.  A field of a record must not be repeated.
-/

namespace SchemaBinder

/-- Why a value cannot be read as a setting. -/
inductive ShapeFault where
  /-- The value is not of the wanted type. -/
  | wrongShape
  /-- The value is neither a text nor a list of texts. -/
  | notTextOrTexts
deriving DecidableEq, Repr

/-- The wording of a fault, where it has one. -/
def ShapeFault.message? : ShapeFault → Option String
  | wrongShape => none
  | notTextOrTexts => some "Expected string or array of strings"

namespace Setting

/-- The outcome of reading a value. -/
abbrev Reading (α : Type) := Except ShapeFault α

/-- A result, or else the common fault. -/
def orWrongShape {α : Type} : Option α → Reading α
  | some a => .ok a
  | none => .error .wrongShape

/-! ## Single values -/

/-- A text. -/
def readText (v : Setting) : Reading String :=
  match v.bare with
  | text s => .ok s
  | plain s => .ok s
  | _ => .error .wrongShape

/-- Is a value nothing, where it is optional?  A marked value is if its type says so. -/
def isAbsent (v : Setting) : Bool :=
  match v with
  | null => true
  | plain s => Plain.isAbsent s
  | marked null _ => true
  | _ => false

/-- A text, or nothing. -/
def readText? (v : Setting) : Reading (Option String) :=
  if v.isAbsent then .ok none else v.readText.map some

/-- A truth value. -/
def readBool (v : Setting) : Reading Bool :=
  match v.bare with
  | bool b => .ok b
  | plain s => orWrongShape (Plain.bool? s)
  | _ => .error .wrongShape

/-- A natural number of 64 bits. -/
def readWord (v : Setting) : Reading UInt64 :=
  match v.bare with
  | int n => orWrongShape (Decimal.word? n)
  | plain s => orWrongShape (Plain.word? s)
  | _ => .error .wrongShape

/-! ## Lists and tables -/

/-- The items of a list.  A plain text of no characters is an empty one. -/
def readList (v : Setting) : Reading (List Setting) :=
  match v.bare with
  | list items => .ok items
  | plain "" => .ok []
  | _ => .error .wrongShape

/-- The fields of a table.  A plain text of no characters is an empty one. -/
def readTable (v : Setting) : Reading (List (String × Setting)) :=
  match v.bare with
  | table fields => .ok fields
  | plain "" => .ok []
  | _ => .error .wrongShape

/-- A list of texts. -/
def readTexts (v : Setting) : Reading (List String) := do
  (← readList v).mapM readText

/-- A table of texts. -/
def readTextTable (v : Setting) : Reading (SortedTable String) := do
  let pairs ← (← readTable v).mapM fun (key, v) => do return (key, ← readText v)
  return .ofList pairs

/-! ## Settled values -/

/-- A settled text. -/
def readTextSettled (v : Setting) : Reading String :=
  match v.settle with
  | text s => .ok s
  | _ => .error .wrongShape

/-- A settled text, or nothing. -/
def readTextSettled? (v : Setting) : Reading (Option String) :=
  match v.settle with
  | null => .ok none
  | text s => .ok (some s)
  | _ => .error .wrongShape

/-- A settled truth value. -/
def readBoolSettled (v : Setting) : Reading Bool :=
  match v.settle with
  | bool b => .ok b
  | _ => .error .wrongShape

/-- One of several cases by its name: a settled text, or a table with that one field, which is
nothing. -/
def readCase {α : Type} (cases : List (String × α)) (v : Setting) : Reading α :=
  match v.settle with
  | text s => orWrongShape (Assoc.get? s cases)
  | table [(s, w)] =>
    match w.settle with
    | null => orWrongShape (Assoc.get? s cases)
    | _ => .error .wrongShape
  | _ => .error .wrongShape

/-- Texts, each once. -/
def distinctTexts : List String → List Setting → Reading (List String)
  | texts, [] => .ok texts
  | texts, v :: rest =>
    match v.settle with
    | text s => distinctTexts (if texts.contains s then texts else texts ++ [s]) rest
    | _ => .error .notTextOrTexts

/-- Nothing, a settled text, or a list of settled texts, of which each counts once. -/
def readTextOrTexts (v : Setting) : Reading (List String) :=
  match v.settle with
  | null => .ok []
  | text s => .ok [s]
  | list items => distinctTexts [] items
  | _ => .error .notTextOrTexts

/-! ## Records -/

/-- Does a list of keys repeat one of some names? -/
def repeats (names keys : List String) : Bool :=
  names.any fun name => 1 < keys.count name

/-- The fields of a record with these names, in writing order.  `asList` tells whether it may be
a list. -/
def readFields (asList : Bool) (names : List String) (v : Setting) :
    Reading (List (String × Setting)) :=
  match asList, v.bare with
  | true, list items =>
    if names.length < items.length then .error .wrongShape else .ok (names.zip items)
  | _, v => readTable v

/-- Reads fields one after the other into a record. -/
def readInto {ρ : Type} (names : List String) (readField : ρ → String → Setting → Reading ρ)
    (start : ρ) (fields : List (String × Setting)) : Reading ρ :=
  if repeats names (fields.map (·.1)) then .error .wrongShape
  else fields.foldlM (fun record (key, v) => readField record key v) start

end Setting

end SchemaBinder
