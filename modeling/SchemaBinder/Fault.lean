import SchemaBinder.FileTree.Failure
import SchemaBinder.Json.Printer
import SchemaBinder.Network.Basic
import SchemaBinder.Url.Failure
/-!
# Faults

Everything that can stop a run.  A fault is its cause; the wording is in `Fault.message` alone.

A `SchemaFault` lies in the schema document or in the directives of its vendor extensions.  A
`SettingsFault` lies in the configuration, or in a file or mapping document that it names.  The
faults of the three notations carry no wording, since that is the matter of their readers.
-/

namespace SchemaBinder

/-- Why a text is no schema document. -/
inductive DocumentFailure where
  /-- It writes a value that is no object. -/
  | notObject
  /-- It is in neither of the two notations. -/
  | noNotation
deriving DecidableEq, Repr

/-- The wording of a failure. -/
def DocumentFailure.message : DocumentFailure → String
  | notObject => "document is not an object"
  | noNotation => "content is neither valid JSON nor YAML"

/-- What is wrong with a schema document. -/
inductive SchemaFault where
  /-- The alias of a field is not a text. -/
  | aliasNotText (entity : String) (found : Json)
  /-- A model has no or several parents. -/
  | parentCount (entity : String) (count : Nat)
  /-- A directive has an item that is not a text. -/
  | itemNotText (key entity : String) (found : Json)
  /-- A directive is neither a text nor a list. -/
  | notTexts (key entity : String) (found : Json)
  /-- A container carries type arguments. -/
  | containerArguments (entity : String)
  /-- The fragment of a body is not JSON. -/
  | malformedFragment (entity : String)
  /-- A reference leads out of the document. -/
  | externalReference (reference : String)
  /-- A reference leads nowhere. -/
  | danglingReference (reference : String)
  /-- A reference leads to a reference, too many times over. -/
  | deepReference (limit : Nat) (start : Json)
  /-- A parameter has no name. -/
  | unnamedParameter (operationId : String)
  /-- A parameter is at no known place. -/
  | unknownLocation (location operationId name : String)
  /-- The text of a file is no document. -/
  | unreadableDocument (path : String) (cause : DocumentFailure)
  /-- The text from a URL is no document. -/
  | unreadableResponse (url : String) (cause : DocumentFailure)

/-- The wording of a schema fault. -/
def SchemaFault.message : SchemaFault → String
  | aliasNotText entity found => s!"x-type of {entity} must be a string, found " ++ found.render
  | parentCount entity count =>
    s!"x-superClass extension of {entity} must have exactly one value, found {count}"
  | itemNotText key entity found =>
    s!"{key} extension of {entity} must contain only strings, found " ++ found.render
  | notTexts key entity found =>
    s!"{key} extension of {entity} must be a string or a list of strings, found " ++ found.render
  | containerArguments entity =>
    s!"x-typeTemplateArgs of {entity} cannot apply to a container; set it on the element"
  | malformedFragment entity => s!"Malformed schema fragment of {entity}"
  | externalReference reference => s!"Unsupported external reference '{reference}'"
  | danglingReference reference => s!"Reference '{reference}' not found"
  | deepReference limit start =>
    s!"Reference chain deeper than {limit} starting at " ++ start.render
  | unnamedParameter operationId => s!"Parameter without a name in {operationId}"
  | unknownLocation location operationId name =>
    s!"Unknown location '{location}' of parameter {operationId}.{name}"
  | unreadableDocument path cause => s!"Failed to parse schema at {path}: " ++ cause.message
  | unreadableResponse url cause => s!"Failed to parse schema from {url}: " ++ cause.message

/-- What is wrong with a configuration or with what it names. -/
inductive SettingsFault where
  /-- There is nothing to generate from. -/
  | noSources
  /-- A package specifier is no dotted name. -/
  | invalidSpecifier (specifier : String)
  /-- A type manifest cannot be read. -/
  | unreadableManifest (path : String) (cause : FileFailure)
  /-- A type manifest is malformed. -/
  | malformedManifest (path : String)
  /-- A schema document cannot be read. -/
  | unreadableSchema (path : String) (cause : FileFailure)
  /-- A schema document cannot be fetched. -/
  | unfetchableSchema (url : String) (cause : NetworkFailure)
  /-- A reference to a mapping document is no URL. -/
  | invalidReference (reference : String) (cause : UrlFailure)
  /-- Mapping documents refer to each other in a circle. -/
  | cyclicResources (urls : List String)
  /-- A mapping document cannot be read. -/
  | unreadableResource (path : String) (cause : FileFailure)
  /-- A mapping document cannot be fetched. -/
  | unfetchableResource (url : String) (cause : NetworkFailure)
  /-- A mapping document has not been fetched within a number of seconds. -/
  | slowResource (seconds : UInt64) (url : String)
  /-- A mapping document is malformed. -/
  | malformedResource (url : String)
  /-- A file URL names no file of this machine. -/
  | invalidFileUrl (url : String)
  /-- A mapping document is at a place of unknown kind. -/
  | unsupportedScheme (scheme url : String)
  /-- A number of the configuration does not fit the notation. -/
  | unwritableNumber

/-- The wording of a settings fault. -/
def SettingsFault.message : SettingsFault → String
  | noSources => "No source files configured"
  | invalidSpecifier specifier =>
    s!"Invalid namespace specifier '{specifier}': expected a dotted name optionally ending in '.**'"
  | unreadableManifest path cause => s!"Failed to read type manifest {path}: " ++ cause.message
  | malformedManifest path => s!"Invalid type manifest {path}"
  | unreadableSchema path cause => s!"Failed to read schema {path}: " ++ cause.message
  | unfetchableSchema url cause => cause.message s!"schema from {url}" s!"response from {url}"
  | invalidReference reference cause =>
    s!"Invalid external mapping resource '{reference}': " ++ cause.message
  | cyclicResources urls =>
    "Cyclic external mapping resources: " ++ " -> ".intercalate urls
  | unreadableResource path cause => s!"Failed to read mapping resource {path}: " ++ cause.message
  | unfetchableResource url cause =>
    cause.message s!"mapping resource {url}" s!"mapping resource {url}"
  | slowResource seconds url => s!"Timed out after {seconds}s fetching mapping resource {url}"
  | malformedResource url => s!"Malformed mapping resource {url}"
  | invalidFileUrl url => s!"Invalid file URL for mapping resource: {url}"
  | unsupportedScheme scheme url => s!"Unsupported scheme '{scheme}' for mapping resource {url}"
  | unwritableNumber => "Failed to serialize config: out-of-range value for u64 type"

/-- Why a run stopped. -/
inductive Fault where
  /-- A file could not be read or written. -/
  | io (cause : FileFailure)
  /-- A text is not YAML of the wanted shape. -/
  | yaml
  /-- A text is not JSON of the wanted shape. -/
  | json
  /-- A text is not TOML of the wanted shape. -/
  | toml
  /-- The configuration, or something that it names, is wrong. -/
  | settings (cause : SettingsFault)
  /-- An alias that must be registered is not. -/
  | unresolvedAlias (name entity : String)
  /-- The schema document is wrong. -/
  | schema (cause : SchemaFault)

/-- The wording of a fault. -/
def Fault.message : Fault → String
  | io cause => "I/O error: " ++ cause.message
  | yaml => "YAML parsing error"
  | json => "JSON parsing error"
  | toml => "TOML parsing error"
  | settings cause => "Configuration error: " ++ cause.message
  | unresolvedAlias name entity =>
    s!"Unresolved alias '{name}' referenced by {entity}: no type mapping registered"
  | schema cause => "Schema error: " ++ cause.message

/-! ## Results -/

variable {ε α β : Type}

theorem bind_eq_ok_iff {x : Except ε α} {f : α → Except ε β} {b : β} :
    x >>= f = .ok b ↔ ∃ a, x = .ok a ∧ f a = .ok b := by
  cases x with
  | error e => simp [bind, Except.bind]
  | ok a => simp [bind, Except.bind]

theorem bind_eq_error_iff {x : Except ε α} {f : α → Except ε β} {e : ε} :
    x >>= f = .error e ↔ x = .error e ∨ ∃ a, x = .ok a ∧ f a = .error e := by
  cases x with
  | error d => simp [bind, Except.bind]
  | ok a => simp [bind, Except.bind]

/-- When a list fails, then one of its elements does. -/
theorem mapM_eq_error {f : α → Except ε β} {l : List α} {e : ε} (failed : l.mapM f = .error e) :
    ∃ a ∈ l, f a = .error e := by
  induction l with
  | nil => cases failed
  | cons a rest ih =>
    rw [List.mapM_cons, bind_eq_error_iff] at failed
    rcases failed with here | ⟨b, _, later⟩
    · exact ⟨a, List.mem_cons_self, here⟩
    · rw [bind_eq_error_iff] at later
      rcases later with later | ⟨_, _, last⟩
      · obtain ⟨c, member, there⟩ := ih later
        exact ⟨c, List.mem_cons_of_mem _ member, there⟩
      · cases last

/-- When a list succeeds, then every result is the one of an element. -/
theorem exists_of_mem_mapM {f : α → Except ε β} {l : List α} {bs : List β}
    (done : l.mapM f = .ok bs) : ∀ b ∈ bs, ∃ a ∈ l, f a = .ok b := by
  induction l generalizing bs with
  | nil =>
    cases done
    exact fun b member => nomatch member
  | cons a rest ih =>
    rw [List.mapM_cons, bind_eq_ok_iff] at done
    obtain ⟨b, here, done⟩ := done
    rw [bind_eq_ok_iff] at done
    obtain ⟨bs, later, done⟩ := done
    cases done
    intro c member
    rcases List.mem_cons.1 member with rfl | member
    · exact ⟨a, List.mem_cons_self, here⟩
    · obtain ⟨a', there, made⟩ := ih later c member
      exact ⟨a', List.mem_cons_of_mem a there, made⟩

/-- When a list succeeds, then what is known of each result is known of all. -/
theorem map_eq_of_mapM {γ : Type} {f : α → Except ε β} {g : β → γ} {h : α → γ}
    (each : ∀ a b, f a = .ok b → g b = h a) {l : List α} {bs : List β}
    (done : l.mapM f = .ok bs) : bs.map g = l.map h := by
  induction l generalizing bs with
  | nil =>
    cases done
    rfl
  | cons a rest ih =>
    rw [List.mapM_cons, bind_eq_ok_iff] at done
    obtain ⟨b, here, done⟩ := done
    rw [bind_eq_ok_iff] at done
    obtain ⟨bs, later, done⟩ := done
    cases done
    rw [List.map_cons, List.map_cons, each a b here, ih later]

end SchemaBinder
