import SchemaBinder.Proofs.Schema
/-!
# The two declarations of a body

A body is declared by a parameter or by the body of a request.  From one schema both make parameters
of the same type (`Parameter.Alike`), with the same names to import.

The parameter of a request body lacks two marks that the other one has.  It never has the kind of
its container, and it is never marked as simple, so the two are equal in their marks only where a
schema needs neither (`Parameter.bodies_alike`).
-/

namespace SchemaBinder.Parameter

/-- The parameter that declares a body. -/
def declaring (name : String) (required : Bool) (schema : Json) : Json :=
  .obj [("name", .str name), ("in", .str "body"), ("required", .bool required),
    ("schema", schema)]

/-- The body of a request with a schema. -/
def requesting (name : String) (required : Bool) (schema : Json) : Json :=
  .obj [("x-codegen-request-body-name", .str name), ("required", .bool required),
    ("content", .obj [("application/json", .obj [("schema", schema)])])]

/-- Two parameters have the same name, place and type, their marks apart. -/
structure Alike (p q : Parameter) : Prop where
  name : p.name = q.name
  location : p.location = q.location
  declaredType : p.declaredType = q.declaredType
  format : p.format = q.format
  baseType : p.baseType = q.baseType
  resolvedType : p.resolvedType = q.resolvedType
  isBody : p.isBody = q.isBody
  isContainer : p.isContainer = q.isContainer
  items : p.items = q.items
  required : p.required = q.required

theorem alike_of_typed {param body : Json} (media : Json) (name : String) (typed : Property)
    (required : param.getBool? "required" = body.getBool? "required") :
    Alike (ofTyped param name .body typed) (bodyOfTyped body media name typed) where
  name := rfl
  location := rfl
  declaredType := rfl
  format := rfl
  baseType := rfl
  resolvedType := rfl
  isBody := rfl
  isContainer := rfl
  items := rfl
  required := by
    show (param.getBool? "required").getD false = (body.getBool? "required").getD false
    rw [required]

theorem ofSchema_declaring (types : TypeMap) (operationId name : String) (required : Bool)
    (schema : Json) : ofSchema types operationId (declaring name required schema) =
      .ok (ofTyped (declaring name required schema) name .body (types.property name schema).1,
        (types.property name schema).2) :=
  ofSchema_eq_ok_iff.2 ⟨name, .body, rfl, rfl, rfl, rfl⟩

theorem ofRequestBody_requesting (types : TypeMap) (name : String) (required : Bool)
    (schema : Json) : ofRequestBody types (requesting name required schema) =
      some (bodyOfTyped (requesting name required schema) (.obj [("schema", schema)]) name
        (types.property name schema).1, (types.property name schema).2) :=
  ofRequestBody_eq_some_iff.2 ⟨.obj [("schema", schema)], schema, rfl, rfl, rfl, rfl⟩

/-- Of one schema both declarations make parameters that are alike, with the same imports.  The
parameter of a request body has no kind of container and is not simple, so the marks are the same
exactly if the other one is no container, and if it is a container or of a type that is not
simple. -/
theorem bodies_alike (types : TypeMap) (operationId name : String) (required : Bool)
    (schema : Json) : ∃ p q imports,
      ofSchema types operationId (declaring name required schema) = .ok (p, imports) ∧
      ofRequestBody types (requesting name required schema) = some (q, imports) ∧
      Alike p q ∧ q.container = none ∧ q.isPrimitive = false ∧
      (p.container = q.container ↔ p.isContainer = false) ∧
      (p.isPrimitive = q.isPrimitive ↔
        p.isContainer = true ∨ isPrimitiveName p.declaredType = false) := by
  let typed := (types.property name schema).1
  refine ⟨_, _, _, ofSchema_declaring types operationId name required schema,
    ofRequestBody_requesting types name required schema, alike_of_typed _ name typed rfl, rfl, rfl,
    ?_, ?_⟩
  · show typed.own.container = none ↔ typed.own.container.isSome = false
    cases typed.own.container <;> simp
  · show (isPrimitiveName typed.own.declaredType && typed.own.container.isNone) = false ↔
      typed.own.container.isSome = true ∨ isPrimitiveName typed.own.declaredType = false
    cases typed.own.container <;> simp

/-- A text is marked as simple, and a list with its kind, only where a parameter declares it. -/
theorem bodies_differ :
    let types : TypeMap := ⟨.standard, .plain⟩
    let text : Json := .obj [("type", .str "string")]
    let list : Json := .obj [("type", .str "array"), ("items", text)]
    (∃ p q imports, ofSchema types "add" (declaring "n" true text) = .ok (p, imports) ∧
      ofRequestBody types (requesting "n" true text) = some (q, imports) ∧
      p.isPrimitive = true ∧ q.isPrimitive = false) ∧
    ∃ p q imports, ofSchema types "add" (declaring "n" true list) = .ok (p, imports) ∧
      ofRequestBody types (requesting "n" true list) = some (q, imports) ∧
      p.container = some .list ∧ q.container = none := by
  intro types text list
  have ofText := types.property_of_leaf "n" (show TypeMap.element? text = none from rfl)
  have ofList := types.property_of_element "n" (show TypeMap.element? list = some (.list, text) from rfl)
  refine ⟨⟨_, _, _, ofSchema_declaring types "add" "n" true text,
    ofRequestBody_requesting types "n" true text, ?_, rfl⟩, ⟨_, _, _,
    ofSchema_declaring types "add" "n" true list, ofRequestBody_requesting types "n" true list, ?_,
    rfl⟩⟩
  · rw [ofText]
    rfl
  · rw [ofList]
    rfl

end SchemaBinder.Parameter
