import SchemaBinder.Config.Basic
/-!
# Configurations as settings

How a configuration is read from a table and written as one.  An optional field that is absent
is not written.
-/

namespace SchemaBinder

/-! ## Options -/

namespace GenerationOptions

/-- The fields of options in writing order. -/
def fieldNames : List String :=
  ["enableGenerics", "enableValidation", "dateLibrary", "securityHeadersAsArguments",
    "basePathAsRoot", "apiSuffix", "modelNameSuffix"]

/-- The libraries for dates by their names. -/
def dateLibraries : List (String × DateLibrary) := DateLibrary.all.map fun d => (d.name, d)

/-- The options with one field read. -/
def readField (o : GenerationOptions) (key : String) (v : Setting) :
    Setting.Reading GenerationOptions :=
  match key with
  | "enableGenerics" => do return { o with enableGenerics := ← v.readBoolSettled }
  | "enableValidation" => do return { o with enableValidation := ← v.readBoolSettled }
  | "dateLibrary" => do return { o with dateLibrary := ← v.readCase dateLibraries }
  | "securityHeadersAsArguments" => do
    return { o with operations.securityHeaders := ← v.readBoolSettled }
  | "basePathAsRoot" => do return { o with operations.basePathAsRoot := ← v.readBoolSettled }
  | "apiSuffix" => do return { o with apiSuffix := ← v.readTextSettled? }
  | "modelNameSuffix" => do return { o with modelSuffix := ← v.readTextSettled? }
  | _ => .ok o

/-- The fields of options. -/
def toFields (o : GenerationOptions) : List (String × Setting) :=
  [("enableGenerics", .bool o.enableGenerics), ("enableValidation", .bool o.enableValidation),
    ("dateLibrary", .text o.dateLibrary.name),
    ("securityHeadersAsArguments", .bool o.operations.securityHeaders),
    ("basePathAsRoot", .bool o.operations.basePathAsRoot)]
  ++ (o.apiSuffix.map fun s => ("apiSuffix", Setting.text s)).toList
  ++ (o.modelSuffix.map fun s => ("modelNameSuffix", Setting.text s)).toList

end GenerationOptions

/-! ## Configurations -/

namespace Config

/-- The fields of a configuration in writing order, its options apart. -/
def fieldNames : List String :=
  ["sourceFiles", "outputDir", "modelPackage", "apiPackage", "verbose", "dataTypeMapping",
    "typeManifests", "fetchTimeoutSecs"]

/-- Has a value a known type, to its depths? -/
def isKnown (v : Setting) : Bool := v.toJson?.isSome

/-- The configuration with one field read that is no option.  A field of another name must have
a known type. -/
def readField (asList : Bool) (c : Config) (key : String) (v : Setting) :
    Setting.Reading Config :=
  match key with
  | "sourceFiles" => do return { c with sources := ← v.readTexts }
  | "outputDir" => do return { c with outputDirectory := ← v.readText }
  | "modelPackage" => do return { c with modelPackage := ← v.readText? }
  | "apiPackage" => do return { c with apiPackage := ← v.readText? }
  | "verbose" => do return { c with verbose := ← v.readBool }
  | "dataTypeMapping" => do return { c with mapping := ← Mapping.ofSetting asList v }
  | "typeManifests" => do return { c with manifests := ← v.readTexts }
  | "fetchTimeoutSecs" => do return { c with fetchSeconds := ← v.readWord }
  | _ => if isKnown v then .ok c else .error .wrongShape

/-- The configuration of a setting.  `asList` tells whether the records inside it may be lists
of their fields. -/
def ofSetting (asList : Bool) (v : Setting) : Setting.Reading Config := do
  let fields ← v.readTable
  let c ← Setting.readInto fieldNames (readField asList) standard fields
  let options ← Setting.readInto GenerationOptions.fieldNames GenerationOptions.readField
    .standard fields
  return { c with options }

/-- A configuration as a setting. -/
def toSetting (c : Config) : Setting :=
  .table ([("sourceFiles", .list (c.sources.map .text)),
      ("outputDir", .text c.outputDirectory)]
    ++ (c.modelPackage.map fun s => ("modelPackage", Setting.text s)).toList
    ++ (c.apiPackage.map fun s => ("apiPackage", Setting.text s)).toList
    ++ [("verbose", .bool c.verbose), ("dataTypeMapping", c.mapping.toSetting),
      ("typeManifests", .list (c.manifests.map .text)),
      ("fetchTimeoutSecs", .int c.fetchSeconds.toNat)]
    ++ c.options.toFields)

end Config

end SchemaBinder
