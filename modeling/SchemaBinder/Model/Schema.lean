import SchemaBinder.Document
import SchemaBinder.Model.Basic
import SchemaBinder.Property.Typing
/-!
# The models of a document

Every named schema becomes a model.  The members of its `allOf` list belong to it: the first one
that is a reference names the parent, and all others add their fields after its own.  A field is
required if the member that declares it says so.
-/

namespace SchemaBinder

namespace Model

/-- The parent that the members of an `allOf` list name, and the schemas of the other members. -/
def members (doc : Document) (names : NamePolicy) (parent : Option String) :
    List Json → Except Fault (Option String × List Json)
  | [] => .ok (parent, [])
  | member :: rest =>
    match parent, member.getStr? "$ref" with
    | none, some reference =>
      members doc names (some (names.modelName (Naming.refName reference))) rest
    | _, _ => do
      let schema ← doc.resolve member
      let (parent, schemas) ← members doc names parent rest
      return (parent, schema :: schemas)

/-- The names of the fields that a schema requires. -/
def requiredNames (schema : Json) : List String :=
  ((schema.getArr? "required").getD []).filterMap Json.asStr?

/-- The fields that one member declares, and the names to import for each. -/
def memberFields (types : TypeMap) (schema : Json) : List (Property × List String) :=
  ((schema.getObj? "properties").getD []).map fun (name, fieldSchema) =>
    let (property, imports) := types.property name fieldSchema
    (property.mapOwn ({ · with required := (requiredNames schema).contains name }), imports)

/-- The model of a named schema whose references are followed. -/
def ofSchema (doc : Document) (types : TypeMap) (name : String) (schema : Json) :
    Except Fault Model := do
  let (parent, others) ← members doc types.names none ((schema.getArr? "allOf").getD [])
  let fields := (schema :: others).flatMap (memberFields types)
  return {
    name
    className := types.names.modelName name
    description := schema.getStr? "description"
    properties := fields.map (·.1)
    parent
    extensions := Extensions.ofJson schema
    imports := ImportSet.empty.extend (fields.flatMap (·.2)) }

/-- The models of the named schemas of a document. -/
def ofDocument (doc : Document) (types : TypeMap) : Except Fault (List Model) :=
  (doc.schemas.getD []).mapM fun (name, schema) => do
    ofSchema doc types name (← doc.resolve schema)

end Model

end SchemaBinder
