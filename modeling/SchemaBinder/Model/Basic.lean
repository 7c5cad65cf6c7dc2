import SchemaBinder.ImportSet
import SchemaBinder.Property.Basic
/-!
# Models

A model is a named schema that becomes a class: its fields, its parent and what it imports.
-/

namespace SchemaBinder

/-- A schema that becomes a class. -/
structure Model where
  /-- The name of the schema. -/
  name : String
  /-- The name of the class. -/
  className : String
  /-- The description of the schema. -/
  description : Option String
  /-- The fields. -/
  properties : List Property
  /-- The parent class as generated code writes it. -/
  parent : Option String
  /-- The vendor extensions of the schema. -/
  extensions : Extensions
  /-- The names to import. -/
  imports : ImportSet

/-- The first model of a schema name. -/
def Model.find? (name : String) (models : List Model) : Option Model :=
  models.find? (·.name == name)

end SchemaBinder
