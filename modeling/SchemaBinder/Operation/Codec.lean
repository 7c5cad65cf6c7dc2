import SchemaBinder.Model.Codec
import SchemaBinder.Operation.Basic
/-!
# Operations in JSON

The JSON form of operations and of the interfaces they belong to.  The typed copies of return
types and response bodies are not part of it.
-/

namespace SchemaBinder

/-! ## Credentials -/

namespace AuthMethod

/-- The fields of a credential in writing order. -/
def fieldNames : List String := ["name", "kind", "keyParamName", "keyLocation", "description"]

/-- A credential in JSON. -/
def toJson (m : AuthMethod) : Json :=
  .obj [("name", .str m.name), ("kind", .str m.kind.name), ("keyParamName", .ofStr? m.keyName),
    ("keyLocation", .ofStr? (m.keyLocation.map (·.name))), ("description", .ofStr? m.description)]

/-- A credential from JSON. -/
def ofJson? (v : Json) : Option AuthMethod := do
  let fields ← v.record? fieldNames
  return {
    name := ← Json.field? fields "name" Json.asStr?
    kind := ← Json.field? fields "kind" (Json.case? AuthKind.cases)
    keyName := ← Json.optional? fields "keyParamName" Json.asStr?
    keyLocation := ← Json.optional? fields "keyLocation" (Json.case? KeyLocation.cases)
    description := ← Json.optional? fields "description" Json.asStr? }

end AuthMethod

/-! ## Responses -/

namespace Response

/-- The fields of a response in writing order. -/
def fieldNames : List String := ["code", "description", "baseType"]

/-- A response in JSON. -/
def toJson (r : Response) : Json :=
  .obj [("code", .str r.code), ("description", .ofStr? r.description),
    ("baseType", .ofStr? r.baseType)]

/-- A response from JSON, without the type of its body. -/
def ofJson? (v : Json) : Option Response := do
  let fields ← v.record? fieldNames
  return {
    code := ← Json.field? fields "code" Json.asStr?
    description := ← Json.optional? fields "description" Json.asStr?
    baseType := ← Json.optional? fields "baseType" Json.asStr?
    schema := none }

end Response

/-! ## Parameters -/

namespace Parameter

/-- The fields of a parameter in writing order. -/
def fieldNames : List String :=
  ["name", "location", "description", "declaredType", "format", "baseType", "resolvedType",
    "isBodyParam", "isContainer", "container", "items", "isPrimitiveType", "required", "hasMore",
    "rawSchemaFragment", "vendorExtensions"]

/-- A parameter in JSON.  The kind and the element of a container are left out if absent. -/
def toJson (p : Parameter) : Json :=
  .obj ([("name", .str p.name), ("location", .str p.location.name),
      ("description", .ofStr? p.description), ("declaredType", .str p.declaredType),
      ("format", .ofStr? p.format), ("baseType", .str p.baseType),
      ("resolvedType", .str p.resolvedType), ("isBodyParam", .bool p.isBody),
      ("isContainer", .bool p.isContainer)]
    ++ (p.container.map fun k => ("container", Json.str k.name)).toList
    ++ (p.items.map fun i => ("items", i.toJson)).toList
    ++ [("isPrimitiveType", .bool p.isPrimitive), ("required", .bool p.required),
      ("hasMore", .bool p.hasMore), ("rawSchemaFragment", .ofStr? p.rawSchema),
      ("vendorExtensions", p.extensions.toJson)])

/-- A parameter from JSON. -/
def ofJson? (v : Json) : Option Parameter := do
  let fields ← v.record? fieldNames
  return {
    name := ← Json.field? fields "name" Json.asStr?
    location := ← Json.field? fields "location" (Json.case? ParameterLocation.cases)
    description := ← Json.optional? fields "description" Json.asStr?
    declaredType := ← Json.field? fields "declaredType" Json.asStr?
    format := ← Json.optional? fields "format" Json.asStr?
    baseType := ← Json.field? fields "baseType" Json.asStr?
    resolvedType := ← Json.field? fields "resolvedType" Json.asStr?
    isBody := ← Json.field? fields "isBodyParam" Json.asBool?
    isContainer := ← Json.field? fields "isContainer" Json.asBool?
    container := ← Json.optional? fields "container" (Json.case? ContainerKind.cases)
    items := ← Json.optional? fields "items" Property.ofJson?
    isPrimitive := ← Json.field? fields "isPrimitiveType" Json.asBool?
    required := ← Json.field? fields "required" Json.asBool?
    hasMore := ← Json.field? fields "hasMore" Json.asBool?
    rawSchema := ← Json.optional? fields "rawSchemaFragment" Json.asStr?
    extensions := ← Json.field? fields "vendorExtensions" Property.extensions? }

end Parameter

/-! ## Operations -/

namespace Operation

/-- The fields of an operation in writing order. -/
def fieldNames : List String :=
  ["operationId", "method", "path", "summary", "returnType", "responses", "parameters",
    "authMethods", "groupKey", "pathExtensions", "vendorExtensions", "imports"]

/-- An operation in JSON. -/
def toJson (o : Operation) : Json :=
  .obj [("operationId", .str o.operationId), ("method", .str o.method), ("path", .str o.path),
    ("summary", .ofStr? o.summary), ("returnType", .ofStr? o.returnType),
    ("responses", .arr (o.responses.map (·.toJson))),
    ("parameters", .arr (o.parameters.map (·.toJson))),
    ("authMethods", .arr (o.authMethods.map (·.toJson))), ("groupKey", .str o.groupKey),
    ("pathExtensions", o.pathExtensions.toJson), ("vendorExtensions", o.extensions.toJson),
    ("imports", o.imports.toJson)]

/-- An operation from JSON, without the typed copies of its types. -/
def ofJson? (v : Json) : Option Operation := do
  let fields ← v.record? fieldNames
  return {
    operationId := ← Json.field? fields "operationId" Json.asStr?
    method := ← Json.field? fields "method" Json.asStr?
    path := ← Json.field? fields "path" Json.asStr?
    summary := ← Json.optional? fields "summary" Json.asStr?
    returnType := ← Json.optional? fields "returnType" Json.asStr?
    returnProperty := none
    responses := ← Json.field? fields "responses" (Json.list? Response.ofJson?)
    parameters := ← Json.field? fields "parameters" (Json.list? Parameter.ofJson?)
    authMethods := ← Json.field? fields "authMethods" (Json.list? AuthMethod.ofJson?)
    groupKey := ← Json.field? fields "groupKey" Json.asStr?
    pathExtensions := ← Json.field? fields "pathExtensions" Property.extensions?
    extensions := ← Json.field? fields "vendorExtensions" Property.extensions?
    imports := ← Json.field? fields "imports" ImportSet.ofJson? }

end Operation

/-! ## Interfaces -/

/-- An interface in JSON. -/
def Interface.toJson (i : Interface) : Json :=
  .obj [("name", .str i.name), ("groupKey", .str i.groupKey),
    ("operations", .arr (i.operations.map (·.toJson))), ("imports", i.imports.toJson)]

/-- The operations of a document from JSON. -/
def Api.ofJson? (v : Json) : Option Api := do
  let fields ← v.record? ["basePath", "operations"]
  return {
    basePath := ← Json.optional? fields "basePath" Json.asStr?
    operations := ← Json.field? fields "operations" (Json.list? Operation.ofJson?) }

end SchemaBinder
