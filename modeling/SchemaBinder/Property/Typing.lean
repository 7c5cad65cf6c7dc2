import SchemaBinder.DateLibrary
import SchemaBinder.Json.Record
import SchemaBinder.Naming
import SchemaBinder.Property.Basic
/-!
# The types of schemas

How a schema becomes a property.  A reference becomes the class of the model it names.  An array
becomes a list, or a set if its items are unique; an object whose further fields have a schema
becomes a map; both have the property of their element below them.  Every other schema becomes
the class of its declared type and format.

The names that a property makes necessary to import are listed from its innermost element
outwards, with repetitions.
-/

namespace SchemaBinder

/-- What the types of schemas depend on. -/
structure TypeMap where
  /-- The library for dates. -/
  dates : DateLibrary
  /-- The endings of names. -/
  names : NamePolicy

namespace TypeMap

/-- A class of a library: its simple name, and the name to import. -/
def imported (qualifiedName : String) : String × List String :=
  (Naming.simpleName qualifiedName, [qualifiedName])

/-- The class of a declared type and format, and the names to import for it. -/
def primitive (types : TypeMap) (declared : String) (format : Option String) :
    String × List String :=
  match declared, format with
  | "string", some "date" => imported types.dates.dateType
  | "string", some "date-time" => imported types.dates.dateTimeType
  | "string", some "uuid" => imported "java.util.UUID"
  | "string", some "byte" => ("byte[]", [])
  | "string", some "binary" => ("byte[]", [])
  | "string", _ => ("String", [])
  | "integer", some "int64" => ("Long", [])
  | "integer", _ => ("Integer", [])
  | "number", some "float" => ("Float", [])
  | "number", some "double" => ("Double", [])
  | "number", _ => imported "java.math.BigDecimal"
  | "boolean", _ => ("Boolean", [])
  | "file", _ => imported "java.io.File"
  | _, _ => ("Object", [])

/-- The declared type of a schema. -/
def declaredType (schema : Json) : String := (schema.getStr? "type").getD "object"

/-- The schema of the fields of a map. -/
def mapElement? (schema : Json) : Option Json :=
  (schema.get? "additionalProperties").filter (·.isObj)

/-- The kind of the container that a schema stands for, and the schema of its elements. -/
def element? (schema : Json) : Option (ContainerKind × Json) :=
  if (schema.getStr? "$ref").isSome then none
  else if declaredType schema = "array" then
    some (if schema.getBool? "uniqueItems" = some true then .set else .list,
      (schema.get? "items").getD .null)
  else if declaredType schema = "object" then (mapElement? schema).map (.map, ·)
  else none

/-- The schema of the elements is smaller. -/
theorem sizeOf_element? {schema e : Json} {kind : ContainerKind}
    (h : element? schema = some (kind, e)) : sizeOf e < sizeOf schema := by
  unfold element? at h
  split at h
  · simp at h
  · split at h
    · rename_i _ ha
      obtain ⟨-, rfl⟩ := Prod.mk.inj (Option.some.inj h)
      cases hi : schema.get? "items" with
      | some w => exact Json.sizeOf_get? hi
      | none =>
        cases ht : schema.get? "type" with
        | some w => exact Json.sizeOf_null_lt ht
        | none => simp [declaredType, Json.getStr?, ht] at ha
    · split at h
      · obtain ⟨w, hw, hwe⟩ := Option.map_eq_some_iff.1 h
        obtain ⟨-, rfl⟩ := Prod.mk.inj hwe
        exact Json.sizeOf_get? (Option.filter_eq_some_iff.1 hw).1
      · simp at h

/-- The layer of a schema that is no container, and the names to import for it. -/
def leafLayer (types : TypeMap) (name : String) (schema : Json) : Layer × List String :=
  match schema.getStr? "$ref" with
  | some reference =>
    (.plain name "object" (types.names.modelName (Naming.refName reference)), [])
  | none =>
    let declared := declaredType schema
    let format := schema.getStr? "format"
    let (type, imports) := types.primitive declared format
    ({ Layer.plain name declared type with format }, imports)

/-- The layer of a container around an element. -/
def containerLayer (name : String) (schema : Json) (kind : ContainerKind) (element : Layer) :
    Layer :=
  { Layer.plain name (declaredType schema) (kind.wrap element.resolvedType) with
    format := schema.getStr? "format"
    baseType := element.baseType
    container := some kind }

/-- The property of a schema, and the names to import for it. -/
def property (types : TypeMap) (name : String) (schema : Json) : Property × List String :=
  let extensions := Extensions.ofJson schema
  match h : element? schema with
  | some (kind, e) =>
    have : sizeOf e < sizeOf schema := sizeOf_element? h
    let (element, imports) := property types name e
    (.nest { containerLayer name schema kind element.own with extensions } element,
      imports ++ [kind.className])
  | none =>
    let (own, imports) := types.leafLayer name schema
    (.leaf { own with extensions }, imports)
termination_by schema

end TypeMap

end SchemaBinder
