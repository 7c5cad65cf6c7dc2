import SchemaBinder.Text.Blank
import SchemaBinder.Text.Letter
/-!
# Names of generated types

A schema name or a path segment becomes the name of a type in three steps: every character that
no identifier can hold is replaced by an underscore, the text is cut into *words*, and the words
are joined with capitals.

A word ends where a small letter is followed by a capital one, and at every character that is
neither letter nor number.  Capital letters are made small inside a word, and the first letter
of a word is made capital only when the words are joined, so `FIND_PETS` becomes `FindPets`.

A `NamePolicy` holds the endings of interface and model names.  Interface names always go
through the three steps.  Model names do so only when there is an ending; otherwise the schema
name is kept as it is.
-/

namespace SchemaBinder

/-! ## Words -/

namespace Naming

/-- The words of a text.  `word` is the word being read, and `afterSmall` tells whether its last
character is a small letter. -/
def wordsFrom (word : List Char) (afterSmall : Bool) : List Char → List (List Char)
  | [] => if word.isEmpty then [] else [word]
  | c :: cs =>
    if Text.isUpper c then
      if afterSmall then word :: wordsFrom (Text.toLower c) false cs
      else wordsFrom (word ++ Text.toLower c) false cs
    else if Text.isWord c then wordsFrom (word ++ [c]) (Text.isLower c) cs
    else if word.isEmpty then wordsFrom [] false cs
    else word :: wordsFrom [] false cs

/-- The words of a text. -/
def words (s : String) : List (List Char) :=
  wordsFrom [] false s.toList

/-- The words of a text joined with underscores. -/
def snakeCase (s : String) : String :=
  String.ofList (['_'].intercalate (words s))

/-- A word with its first character made capital. -/
def capitalised : List Char → List Char
  | [] => []
  | c :: cs => Text.toUpper c ++ cs

/-- The words of a text joined, each with a capital first letter. -/
def camelCase (s : String) : String :=
  String.ofList ((words s).flatMap capitalised)

/-- Can an identifier hold a character? -/
def isIdentifierChar (c : Char) : Bool :=
  c.isAlphanum || c == '_'

/-- A text with every character that no identifier can hold replaced by an underscore. -/
def sanitize (s : String) : String :=
  String.ofList (s.toList.map fun c => if isIdentifierChar c then c else '_')

/-- The name of a type made from a text, `Default` if no letter or number is left. -/
def typeName (s : String) : String :=
  let name := camelCase (sanitize s)
  if name = "" then "Default" else name

/-! ## Qualified names and references -/

/-- What follows the last dot of a qualified name. -/
def simpleName (qualifiedName : String) : String :=
  match Text.splitLast '.' qualifiedName.toList with
  | some (_, name) => String.ofList name
  | none => qualifiedName

/-- What stands before the last dot of a qualified name, nothing if there is none. -/
def namespaceOf (qualifiedName : String) : String :=
  match Text.splitLast '.' qualifiedName.toList with
  | some (space, _) => String.ofList space
  | none => ""

/-- What follows the last slash of a reference. -/
def refName (reference : String) : String :=
  match Text.splitLast '/' reference.toList with
  | some (_, name) => String.ofList name
  | none => reference

/-! ## Groups of resources -/

/-- The first segment between slashes that is not empty. -/
def firstSegment (cs : List Char) : List Char :=
  ((Text.split '/' cs).find? (!·.isEmpty)).getD []

/-- The group of a resource: the first segment of its path, read below a base path if one is
given. -/
def resourceGroup (path : String) (basePath : Option String) : String :=
  let full := match basePath with
    | some base =>
      Text.dropEnd (· == '/') base.toList ++ '/' :: path.toList.dropWhile (· == '/')
    | none => path.toList
  String.ofList (firstSegment full)

end Naming

/-! ## Policies -/

/-- The endings of generated names. -/
structure NamePolicy where
  /-- The ending of every interface name. -/
  apiSuffix : Option String
  /-- The ending of every model name. -/
  modelSuffix : Option String
deriving DecidableEq, Repr

namespace NamePolicy

/-- The policy without endings. -/
def plain : NamePolicy := ⟨none, none⟩

/-- The policy with these endings.  An empty ending is none. -/
def ofSuffixes (api model : Option String) : NamePolicy :=
  ⟨api.filter (· ≠ ""), model.filter (· ≠ "")⟩

/-- The name of the interface of a group. -/
def interfaceName (policy : NamePolicy) (groupKey : String) : String :=
  Naming.typeName groupKey ++ policy.apiSuffix.getD ""

/-- The name of the class of a schema. -/
def modelName (policy : NamePolicy) (schemaName : String) : String :=
  match policy.modelSuffix with
  | some suffix => Naming.typeName schemaName ++ suffix
  | none => schemaName

end NamePolicy

end SchemaBinder
