import SchemaBinder.DateLibrary
import SchemaBinder.Json.Record
import SchemaBinder.Mapping.Basic
import SchemaBinder.Naming
import SchemaBinder.Operation.Binding
import SchemaBinder.Property.Typing
/-!
# Configurations

A configuration names the schema documents to read, the directory to write to, the sources of
the registry of types, and the options of generation.

It is a table in which the options stand beside the other fields.  All fields have defaults;
fields of other names are allowed and ignored.  The options are read after all other fields, and
as settled values.
-/

namespace SchemaBinder

/-- The options of generation. -/
structure GenerationOptions where
  /-- Are generic types written? -/
  enableGenerics : Bool
  /-- Is validation code written? -/
  enableValidation : Bool
  /-- The library for dates. -/
  dateLibrary : DateLibrary
  /-- How operations are bound. -/
  operations : OperationOptions
  /-- The ending of interface names. -/
  apiSuffix : Option String
  /-- The ending of model names. -/
  modelSuffix : Option String
deriving DecidableEq

namespace GenerationOptions

/-- The options unless others are chosen. -/
def standard : GenerationOptions where
  enableGenerics := false
  enableValidation := true
  dateLibrary := .standard
  operations := ⟨true, true⟩
  apiSuffix := none
  modelSuffix := none

instance : Inhabited GenerationOptions := ⟨standard⟩

/-- The endings of generated names. -/
def names (o : GenerationOptions) : NamePolicy := .ofSuffixes o.apiSuffix o.modelSuffix

end GenerationOptions

/-- A configuration. -/
structure Config where
  /-- The schema documents. -/
  sources : List String
  /-- The directory to write to. -/
  outputDirectory : String
  /-- The package of models. -/
  modelPackage : Option String
  /-- The package of interfaces. -/
  apiPackage : Option String
  /-- Is the run to be reported at length? -/
  verbose : Bool
  /-- The sources of the registry of types. -/
  mapping : Mapping
  /-- The type manifests that package scans look at. -/
  manifests : List String
  /-- The number of seconds in which a mapping document must have been fetched. -/
  fetchSeconds : UInt64
  /-- The options of generation. -/
  options : GenerationOptions

namespace Config

/-- The number of seconds unless another is chosen. -/
def standardFetchSeconds : UInt64 := 30

/-- The configuration unless another is chosen. -/
def standard : Config where
  sources := []
  outputDirectory := "generated"
  modelPackage := none
  apiPackage := none
  verbose := false
  mapping := .empty
  manifests := []
  fetchSeconds := standardFetchSeconds
  options := .standard

instance : Inhabited Config := ⟨standard⟩

/-- The time limit that holds, in seconds.  Zero is no limit of its own. -/
def fetchTimeout (c : Config) : UInt64 :=
  if c.fetchSeconds = 0 then standardFetchSeconds else c.fetchSeconds

/-- What is handed on beside models and interfaces. -/
def additionalProperties (c : Config) : List (String × Json) :=
  [("dateLibrary", .str c.options.dateLibrary.name),
    ("useBeanValidation", .bool c.options.enableValidation),
    ("java8", .bool c.options.enableGenerics)]
  ++ (c.modelPackage.map fun p => ("modelPackage", Json.str p)).toList
  ++ (c.apiPackage.map fun p => ("apiPackage", Json.str p)).toList

/-- What the types of schemas depend on. -/
def types (c : Config) : TypeMap := ⟨c.options.dateLibrary, c.options.names⟩

end Config

end SchemaBinder
