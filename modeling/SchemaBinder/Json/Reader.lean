import SchemaBinder.Json.Token
/-!
# Reading JSON

`Json.ofTokens?` reads a value from its tokens with a stack of the lists and objects that are
still open, so it is one pass over the tokens.  `Json.read?` reads a text.

A value may be nested in at most 127 lists and objects.  When an object repeats a key, the field
keeps its first place and takes the last value.
-/

namespace SchemaBinder.Json

/-- A list or an object that is not closed yet. -/
inductive Open where
  /-- A list and its items so far, the last one first. -/
  | list (items : List Json)
  /-- An object, its fields so far, and the key whose value is being read. -/
  | field (fields : List (String × Json)) (key : String)

/-- What has been read, and so what may come next. -/
inductive Stage where
  /-- A value must come. -/
  | value
  /-- The first item of a list or its end. -/
  | firstItem
  /-- The first key of an object or its end. -/
  | firstKey
  /-- A key of an object with these fields. -/
  | key (fields : List (String × Json))
  /-- The colon after a key. -/
  | colon
  /-- The value of the innermost item or field, after which a comma or an end comes. -/
  | done (v : Json)

namespace Stage

/-- The greatest number of lists and objects around a value. -/
def maxOpen : Nat := 127

/-- The next stage and stack after a token; `none` where it may not come. -/
def step : Stage → List Open → Token → Option (Stage × List Open)
  | value, os, .scalar v => some (done v, os)
  | value, os, .openList => if os.length < maxOpen then some (firstItem, .list [] :: os) else none
  | value, os, .openObject => if os.length < maxOpen then some (firstKey, os) else none
  | firstItem, .list _ :: os, .closeList => some (done (.arr []), os)
  | firstItem, os, .scalar v => some (done v, os)
  | firstItem, os, .openList =>
    if os.length < maxOpen then some (firstItem, .list [] :: os) else none
  | firstItem, os, .openObject => if os.length < maxOpen then some (firstKey, os) else none
  | firstKey, os, .closeObject => some (done (.obj []), os)
  | firstKey, os, .scalar (.str k) => some (colon, .field [] k :: os)
  | key fs, os, .scalar (.str k) => some (colon, .field fs k :: os)
  | colon, os, .colon => some (value, os)
  | done v, .list vs :: os, .comma => some (value, .list (v :: vs) :: os)
  | done v, .list vs :: os, .closeList => some (done (.arr (v :: vs).reverse), os)
  | done v, .field fs k :: os, .comma => some (key (Assoc.set k v fs), os)
  | done v, .field fs k :: os, .closeObject => some (done (.obj (Assoc.set k v fs)), os)
  | _, _, _ => none

end Stage

/-- The value whose tokens these are, from a stage and a stack on. -/
def ofTokensFrom? : Stage → List Open → List Token → Option Json
  | .done v, [], [] => some v
  | _, _, [] => none
  | stage, os, t :: ts =>
    match stage.step os t with
    | some (stage', os') => ofTokensFrom? stage' os' ts
    | none => none

/-- The value whose tokens these are. -/
def ofTokens? (ts : List Token) : Option Json :=
  ofTokensFrom? .value [] ts

/-- The value that a text writes. -/
def read? (text : String) : Option Json :=
  (Token.scan? text.toList).bind ofTokens?

end SchemaBinder.Json
