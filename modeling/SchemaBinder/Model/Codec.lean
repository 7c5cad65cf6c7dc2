import SchemaBinder.Model.Basic
import SchemaBinder.Property.Codec
/-!
# Models in JSON
-/

namespace SchemaBinder

/-- An import list in JSON. -/
def ImportSet.toJson (s : ImportSet) : Json := .ofStrs s.names

/-- An import list from JSON, with the repetitions that it has there. -/
def ImportSet.ofJson? (v : Json) : Option ImportSet := v.strs?.map .mk

namespace Model

/-- The fields of a model in writing order. -/
def fieldNames : List String :=
  ["name", "className", "description", "properties", "parent", "vendorExtensions", "imports"]

/-- A model in JSON. -/
def toJson (m : Model) : Json :=
  .obj [("name", .str m.name), ("className", .str m.className),
    ("description", .ofStr? m.description), ("properties", .arr (m.properties.map (·.toJson))),
    ("parent", .ofStr? m.parent), ("vendorExtensions", m.extensions.toJson),
    ("imports", m.imports.toJson)]

/-- A model from JSON. -/
def ofJson? (v : Json) : Option Model := do
  let fields ← v.record? fieldNames
  return {
    name := ← Json.field? fields "name" Json.asStr?
    className := ← Json.field? fields "className" Json.asStr?
    description := ← Json.optional? fields "description" Json.asStr?
    properties := ← Json.field? fields "properties" (Json.list? Property.ofJson?)
    parent := ← Json.optional? fields "parent" Json.asStr?
    extensions := ← Json.field? fields "vendorExtensions" Property.extensions?
    imports := ← Json.field? fields "imports" ImportSet.ofJson? }

/-- The models of an object with a list of them. -/
def listOfJson? (v : Json) : Option (List Model) := do
  let fields ← v.record? ["models"]
  Json.field? fields "models" (Json.list? ofJson?)

end Model

end SchemaBinder
