import SchemaBinder.Setting.Reader
/-!
# Mappings

A mapping says where the types of a registry come from: pairs of an alias and a class, packages
to scan, and further mapping documents, which are named by URL references.
-/

namespace SchemaBinder

/-- Where the types of a registry come from. -/
structure Mapping where
  /-- Classes by their aliases. -/
  direct : SortedTable String
  /-- Specifiers of packages to scan. -/
  packages : List String
  /-- References to further mapping documents. -/
  resources : List String

namespace Mapping

/-- The mapping without sources. -/
def empty : Mapping := ⟨.empty, [], []⟩

instance : Inhabited Mapping := ⟨empty⟩

/-- Has the mapping no sources? -/
def isEmpty (m : Mapping) : Bool :=
  m.direct.isEmpty && m.packages.isEmpty && m.resources.isEmpty

/-! ## As a setting -/

/-- The fields of a mapping in writing order. -/
def fieldNames : List String := ["directMap", "packages", "externalResources"]

/-- The mapping with one field read. -/
def readField (m : Mapping) (key : String) (v : Setting) : Setting.Reading Mapping :=
  match key with
  | "directMap" => do return { m with direct := ← v.readTextTable }
  | "packages" => do return { m with packages := ← v.readTextOrTexts }
  | "externalResources" => do return { m with resources := ← v.readTextOrTexts }
  | _ => .ok m

/-- The mapping of a setting.  `asList` tells whether it may be a list of its fields. -/
def ofSetting (asList : Bool) (v : Setting) : Setting.Reading Mapping := do
  Setting.readInto fieldNames readField empty (← v.readFields asList fieldNames)

/-- A mapping as a setting. -/
def toSetting (m : Mapping) : Setting :=
  .table [("directMap", .table (m.direct.entries.map fun (k, v) => (k, .text v))),
    ("packages", .list (m.packages.map .text)),
    ("externalResources", .list (m.resources.map .text))]

end Mapping

end SchemaBinder
