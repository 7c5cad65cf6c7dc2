import SchemaBinder.Fault
import SchemaBinder.Json.Search
/-!
# Vendor extensions and their directives

The fields of a schema entity whose keys start with `x-` are its vendor extensions.  Five of
them are directives.

* `x-type` on a `string` field is the alias of the real type of the field.  A format `x-NAME` is
  a short form of it; the long form wins.
* `x-superClass` on a model is the alias of its parent, as a text or a list of one text.
* `x-superClassTemplateArgs` and `x-typeTemplateArgs` are the type arguments of the parent and
  of a field, as a list or as a text with commas.
* `x-interfaceName` on a path is the interface that all its operations belong to.
-/

namespace SchemaBinder

/-- The vendor extensions of an entity. -/
abbrev Extensions := SortedTable Json

namespace Extensions

/-- The vendor extensions among the fields of an object. -/
def ofFields (fields : List (String × Json)) : Extensions :=
  .ofList (fields.filter fun p => Text.hasStart "x-" p.1)

/-- The vendor extensions of a value.  Only an object has any. -/
def ofJson (v : Json) : Extensions :=
  match v.asObj? with
  | some fields => ofFields fields
  | none => .empty

/-- The table as an object. -/
def toJson (extensions : Extensions) : Json := .obj extensions.entries

/-! ## Directives -/

/-- The key of the alias of a field. -/
def typeKey : String := "x-type"

/-- The key of the alias of a parent. -/
def parentKey : String := "x-superClass"

/-- The key of the type arguments of a parent. -/
def parentArgumentsKey : String := "x-superClassTemplateArgs"

/-- The key of the type arguments of a field. -/
def argumentsKey : String := "x-typeTemplateArgs"

/-- The key of the interface of a path. -/
def interfaceKey : String := "x-interfaceName"

/-- The alias that a format names. -/
def formatAlias? (format : Option String) : Option String :=
  (format.bind (Text.dropStart? "x-")).bind Text.nonBlank?

/-- The alias of the type of a field.  Only a field declared as `string` can have one. -/
def symbolicType (declared : String) (format : Option String) (extensions : Extensions)
    (entity : String) : Except Fault (Option String) :=
  if Text.sameIgnoringCase declared "string" then
    match extensions.get? typeKey with
    | some (.str alias_) => .ok (Text.nonBlank? alias_)
    | some v => .error (.schema (.aliasNotText entity v))
    | none => .ok (formatAlias? format)
  else .ok none

/-- The texts of a list of values. -/
def texts (key entity : String) : List Json → Except Fault (List String)
  | [] => .ok []
  | .str s :: rest => (texts key entity rest).map (s :: ·)
  | v :: _ => .error (.schema (.itemNotText key entity v))

/-- The texts of a directive that is one text or a list of texts. -/
def textList (key entity : String) : Json → Except Fault (List String)
  | .str s => .ok [s]
  | .arr items => texts key entity items
  | v => .error (.schema (.notTexts key entity v))

/-- The alias of the parent of a model.  The directive must hold exactly one. -/
def parentAlias (extensions : Extensions) (entity : String) : Except Fault (Option String) :=
  match extensions.get? parentKey with
  | none => .ok none
  | some v =>
    match textList parentKey entity v with
    | .error e => .error e
    | .ok [single] => .ok (some single)
    | .ok several => .error (.schema (.parentCount entity several.length))

/-- The arguments in a text with commas: its non-blank segments, trimmed. -/
def commaArguments (s : String) : List String :=
  ((Text.split ',' s.toList).map Text.trimChars).filter (!·.isEmpty) |>.map String.ofList

/-- The type arguments under a key. -/
def typeArguments (extensions : Extensions) (key entity : String) :
    Except Fault (Option (List String)) :=
  match extensions.get? key with
  | none => .ok none
  | some (.str s) => .ok (some (commaArguments s))
  | some v => (textList key entity v).map some

/-! A well-formed directive says the same whichever entity it stands on. -/

theorem symbolicType_entity {declared : String} {format : Option String}
    {extensions : Extensions} {entity : String} {found : Option String} (other : String)
    (read : symbolicType declared format extensions entity = .ok found) :
    symbolicType declared format extensions other = .ok found := by
  unfold symbolicType at read ⊢
  by_cases text : Text.sameIgnoringCase declared "string"
  · rw [if_pos text] at read ⊢
    split at read
    · exact read
    · cases read
    · exact read
  · rw [if_neg text] at read ⊢
    exact read

theorem texts_entity {key entity : String} (other : String) :
    ∀ {items : List Json} {found : List String}, texts key entity items = .ok found →
      texts key other items = .ok found
  | [], _, read => read
  | .str s :: rest, _, read => by
    unfold texts at read ⊢
    cases later : texts key entity rest with
    | error e =>
      rw [later] at read
      cases read
    | ok more =>
      rw [later] at read
      rw [texts_entity other later]
      exact read

theorem typeArguments_entity {extensions : Extensions} {key entity : String}
    {found : Option (List String)} (other : String)
    (read : typeArguments extensions key entity = .ok found) :
    typeArguments extensions key other = .ok found := by
  unfold typeArguments at read ⊢
  split at read
  · exact read
  · exact read
  · rename_i v _ _
    cases v with
    | arr items =>
      cases listed : texts key entity items with
      | error e => simp [textList, listed, Except.map] at read
      | ok found =>
        simp only [textList, listed] at read
        simp only [textList, texts_entity other listed]
        exact read
    | str s => exact read
    | _ => cases read

/-- The interface that a path names. -/
def interfaceName? (extensions : Extensions) : Option String :=
  ((extensions.get? interfaceKey).bind Json.asStr?).bind Text.nonBlank?

end Extensions

end SchemaBinder
