import SchemaBinder.Json.Token
import SchemaBinder.Decimal.Shortest
/-!
# Writing JSON

Two forms of a value: `Json.render` without any blanks, and `Json.pretty` with one item or
field to a line, indented by two blanks.  An empty list or object is written without blanks in
both.
-/

namespace SchemaBinder.Json

/-- The text of a value that is neither a list nor an object. -/
def scalarText : Json → List Char
  | null => ['n', 'u', 'l', 'l']
  | bool true => ['t', 'r', 'u', 'e']
  | bool false => ['f', 'a', 'l', 's', 'e']
  | int n => Token.intText n
  | float x => x.render.toList
  | str s => Token.quoted s
  | arr _ => []
  | obj _ => []

/-! ## Without blanks -/

mutual

/-- The characters of a value. -/
def chars : Json → List Char
  | arr items => '[' :: charsItems items
  | obj fields => '{' :: charsFields fields
  | v => scalarText v

/-- The characters of the items of a list and its end. -/
def charsItems : List Json → List Char
  | [] => [']']
  | [v] => chars v ++ [']']
  | v :: rest => chars v ++ ',' :: charsItems rest

/-- The characters of the fields of an object and its end. -/
def charsFields : List (String × Json) → List Char
  | [] => ['}']
  | [(k, v)] => Token.quoted k ++ ':' :: chars v ++ ['}']
  | (k, v) :: rest => Token.quoted k ++ ':' :: chars v ++ ',' :: charsFields rest

end

/-- The text of a value without blanks. -/
def render (v : Json) : String := String.ofList v.chars

/-! ## With one item to a line -/

/-- A new line with two blanks for every level. -/
def newLine (level : Nat) : List Char := '\n' :: List.replicate (2 * level) ' '

mutual

/-- The characters of a value whose lines are at a level. -/
def prettyChars (level : Nat) : Json → List Char
  | arr [] => ['[', ']']
  | arr items => '[' :: prettyItems (level + 1) items ++ newLine level ++ [']']
  | obj [] => ['{', '}']
  | obj fields => '{' :: prettyFields (level + 1) fields ++ newLine level ++ ['}']
  | v => scalarText v

/-- The lines of the items of a list. -/
def prettyItems (level : Nat) : List Json → List Char
  | [] => []
  | [v] => newLine level ++ prettyChars level v
  | v :: rest => newLine level ++ prettyChars level v ++ ',' :: prettyItems level rest

/-- The lines of the fields of an object. -/
def prettyFields (level : Nat) : List (String × Json) → List Char
  | [] => []
  | [(k, v)] => newLine level ++ Token.quoted k ++ ':' :: ' ' :: prettyChars level v
  | (k, v) :: rest =>
    newLine level ++ Token.quoted k ++ ':' :: ' ' :: prettyChars level v ++
      ',' :: prettyFields level rest

end

/-- The text of a value with one item or field to a line. -/
def pretty (v : Json) : String := String.ofList (v.prettyChars 0)

end SchemaBinder.Json
