import SchemaBinder.Proofs.Binding.Containers
import SchemaBinder.Proofs.Binding.OperationImports
/-!
# A parameter and the elements of a list

One schema can be that of a parameter and that of the elements of a parameter that is a list.  A
parameter takes the class of its own alias and no other.  An element is a property: without an alias
it takes the class of its base type, and its type arguments are written behind its class.

A declared parameter `HasSchema` if its type is read from this schema.  `list_element_typed_alike`
says when a parameter has the type of the elements of the list, and the same names to import: without
type arguments, exactly if the schema names an alias or its base type has no class.
-/

namespace SchemaBinder

/-! ## What the type of a schema is read from -/

/-- Only the alias among the extensions decides which alias a type has. -/
theorem Extensions.symbolicType_congr {extensions others : Extensions}
    (same : extensions.get? typeKey = others.get? typeKey) (declared : String)
    (format : Option String) (entity : String) :
    extensions.symbolicType declared format entity =
      others.symbolicType declared format entity := by
  rw [symbolicType, symbolicType, same]

theorem Extensions.typeArguments_of_none {extensions : Extensions} {key : String}
    (missing : extensions.get? key = none) (entity : String) :
    extensions.typeArguments key entity = .ok none := by
  rw [typeArguments, missing]

namespace TypeMap

/-- The keys that the type of a schema is read from, unless it stands for a container. -/
def typingKeys : List String := ["$ref", "type", "format", "additionalProperties"]

variable {v w : Json}

theorem declaredType_congr (same : ∀ key ∈ typingKeys, v.get? key = w.get? key) :
    declaredType v = declaredType w := by
  rw [declaredType, declaredType, Json.getStr?, Json.getStr?, same "type" (by decide)]

theorem element?_congr (same : ∀ key ∈ typingKeys, v.get? key = w.get? key)
    (single : element? w = none) : element? v = none := by
  unfold element? at single ⊢
  rw [declaredType_congr same, Json.getStr?, same "$ref" (by decide)]
  rw [Json.getStr?] at single
  split
  · rfl
  · next notReference =>
    rw [if_neg notReference] at single
    split
    · next array =>
      rw [if_pos array] at single
      cases single
    · next notArray =>
      rw [if_neg notArray] at single
      rwa [mapElement?, same "additionalProperties" (by decide)]

theorem leafLayer_congr (types : TypeMap) (name : String)
    (same : ∀ key ∈ typingKeys, v.get? key = w.get? key) :
    types.leafLayer name v = types.leafLayer name w := by
  rw [leafLayer, leafLayer, declaredType_congr same, Json.getStr?, Json.getStr?, Json.getStr?,
    Json.getStr?, same "$ref" (by decide), same "format" (by decide)]

theorem extensions_property (types : TypeMap) (name : String) (schema : Json) :
    (types.property name schema).1.own.extensions = Extensions.ofJson schema := by
  cases found : element? schema with
  | none => rw [property_of_leaf types name found]; rfl
  | some container => rw [property_of_element types name found]; rfl

/-- Without a container, what a schema becomes depends on these keys and on its extensions. -/
theorem property_congr (types : TypeMap) (name : String)
    (same : ∀ key ∈ typingKeys, v.get? key = w.get? key) (single : element? w = none) :
    (types.property name v).1 =
      .leaf { (types.property name w).1.own with extensions := Extensions.ofJson v } := by
  rw [property_of_leaf types name (element?_congr same single), property_of_leaf types name single,
    leafLayer_congr types name same]
  rfl

/-- Without a container, the name of a field stands in its name only. -/
theorem own_property_eq (types : TypeMap) (name other : String) {schema : Json}
    (single : element? schema = none) :
    (types.property name schema).1.own = { (types.property other schema).1.own with name } := by
  rw [property_of_leaf types name single, property_of_leaf types other single]
  simp only [Property.own, leafLayer]
  split <;> rfl

theorem property_eq_leaf (types : TypeMap) (name : String) {schema : Json}
    (single : element? schema = none) :
    (types.property name schema).1 = .leaf (types.property name schema).1.own := by
  rw [property_of_leaf types name single]
  rfl

end TypeMap

theorem Property.bindAliases_leaf_eq_ok_iff {registry : TypeRegistry} {entity : String}
    {own : Layer} {b : Property} {imports : List String} :
    (leaf own).bindAliases registry entity = .ok (b, imports) ↔
      ∃ bound, own.bindAliases registry entity = .ok (bound, imports) ∧ b = .leaf bound := by
  rw [bindAliases, bind_eq_ok_iff]
  constructor
  · rintro ⟨⟨bound, names⟩, bindLayer, done⟩
    cases done
    exact ⟨bound, bindLayer, rfl⟩
  · rintro ⟨bound, bindLayer, rfl⟩
    exact ⟨(bound, imports), bindLayer, rfl⟩

/-- The elements of a container can be read off its type. -/
theorem ContainerKind.wrap_injective (kind : ContainerKind) : Function.Injective kind.wrap := by
  intro a b same
  cases kind <;> exact (String.append_right_inj _).1 ((String.append_left_inj _).1 same)

/-! ## Declared parameters -/

namespace Parameter

variable {types : TypeMap} {registry : TypeRegistry} {operationId : String}
  {schema param one many : Json} {type : String} {imports : List String}

/-- The schema of a declared parameter: the one under `schema`, or the parameter itself. -/
def declaredSchema (param : Json) : Json := (param.get? "schema").getD param

/-- The type of a declared parameter is read from a schema.  A parameter that holds its schema under
`schema` has no alias beside it. -/
structure HasSchema (param schema : Json) : Prop where
  typing : ∀ key ∈ TypeMap.typingKeys, (declaredSchema param).get? key = schema.get? key
  alias_ : (Extensions.ofJson (declaredSchema param)).get? Extensions.typeKey =
    (Extensions.ofJson schema).get? Extensions.typeKey
  beside : (Extensions.ofJson param).get? Extensions.typeKey = none ∨
    (Extensions.ofJson param).get? Extensions.typeKey =
      (Extensions.ofJson schema).get? Extensions.typeKey

/-- Two declared parameters of one name and place: one has a schema, and the other a list of values
of this schema. -/
structure ListOf (schema one many : Json) : Prop where
  name : many.getStr? "name" = one.getStr? "name"
  location : many.getStr? "in" = one.getStr? "in"
  one : HasSchema one schema
  many : TypeMap.element? (declaredSchema many) = some (.list, schema)

/-- The type of a declared parameter whose aliases are bound, and the names to import for its
classes. -/
def boundType (types : TypeMap) (registry : TypeRegistry) (operationId : String) (param : Json) :
    Except Fault (String × List String) := do
  let (p, _) ← ofSchema types operationId param
  let (b, imports) ← p.bindAliases registry (operationId ++ "." ++ p.name)
  return (b.resolvedType, imports)

/-- A declared parameter has a name and a place, and is no body. -/
structure FieldOf (param : Json) (name : String) (location : ParameterLocation) : Prop where
  named : param.getStr? "name" = some name
  located : ParameterLocation.parse? ((param.getStr? "in").getD "") = some location
  notBody : location ≠ .body

theorem boundType_eq_ok_iff : boundType types registry operationId param = .ok (type, imports) ↔
    ∃ p names b, ofSchema types operationId param = .ok (p, names) ∧
      Bound registry (operationId ++ "." ++ p.name) p b imports ∧ type = b.resolvedType := by
  rw [boundType, bind_eq_ok_iff]
  constructor
  · rintro ⟨⟨p, names⟩, made, done⟩
    obtain ⟨⟨b, imports⟩, bindParameter, done⟩ := bind_eq_ok_iff.1 done
    cases done
    exact ⟨p, names, b, made, bindAliases_eq_ok_iff.1 bindParameter, rfl⟩
  · rintro ⟨p, names, b, made, bound, rfl⟩
    exact ⟨(p, names), made,
      bind_eq_ok_iff.2 ⟨(b, imports), bindAliases_eq_ok_iff.2 bound, rfl⟩⟩

/-- With its name and place, a declared parameter is the one of its schema. -/
theorem boundType_eq {name : String} {location : ParameterLocation}
    (named : param.getStr? "name" = some name)
    (located : ParameterLocation.parse? ((param.getStr? "in").getD "") = some location) :
    boundType types registry operationId param = do
      let p := ofTyped param name location (types.property name (declaredSchema param)).1
      let (b, imports) ← p.bindAliases registry (operationId ++ "." ++ name)
      return (b.resolvedType, imports) := by
  rw [boundType, ofSchema_eq_ok_iff.2 ⟨name, location, named, located, rfl, rfl⟩]
  rfl

theorem ne_body_of_parse? {location : ParameterLocation} (field : param.getStr? "in" ≠ some "body")
    (located : ParameterLocation.parse? ((param.getStr? "in").getD "") = some location) :
    location ≠ .body := by
  rintro rfl
  cases place : param.getStr? "in" with
  | none =>
    rw [place] at located
    cases located
  | some place' =>
    rw [place, Option.getD_some] at located
    unfold ParameterLocation.parse? at located
    split at located <;> simp_all

/-- A parameter that is a container has the type that follows from its bound element. -/
theorem Bound.exists_element {name entity : String} {location : ParameterLocation} {own : Layer}
    {element : Property} {kind : ContainerKind} {b : Parameter}
    (done : Bound registry entity (ofTyped param name location (.nest own element)) b imports)
    (notBody : location ≠ .body) (container : own.container = some kind)
    (notText : ¬Text.sameIgnoringCase own.declaredType "string") :
    ∃ bound, element.bindAliases registry (entity ++ "[]") = .ok (bound, imports) ∧
      b.resolvedType = kind.wrap bound.resolvedType := by
  have elsewhere : (location == .body) = false := by simpa using notBody
  have items : (ofTyped param name location (.nest own element)).items = some element := by
    show (if location == .body then none else some element) = _
    rw [elsewhere]
    rfl
  cases done with
  | body isBody => cases elsewhere.symm.trans isBody
  | field _ bindElement read bindName =>
    cases bindElement with
    | plain missing =>
      rcases missing with missing | missing
      · cases container.symm.trans missing
      · cases items.symm.trans missing
    | @element kind' items' bound imports container' items' bindItems =>
      cases container.symm.trans container'
      cases items.symm.trans items'
      cases read.symm.trans (Extensions.symbolicType_of_notText notText)
      cases bindName
      exact ⟨bound, by rwa [List.append_nil], rfl⟩

/-- A parameter that is a list has the type of a list of its bound element. -/
theorem exists_element_of_list (field : many.getStr? "in" ≠ some "body")
    (element : TypeMap.element? (declaredSchema many) = some (.list, schema))
    (done : boundType types registry operationId many = .ok (type, imports)) :
    ∃ name location entity bound, FieldOf many name location ∧
      (types.property name schema).1.bindAliases registry entity = .ok (bound, imports) ∧
      type = ContainerKind.list.wrap bound.resolvedType := by
  obtain ⟨p, names, b, made, bound, rfl⟩ := boundType_eq_ok_iff.1 done
  obtain ⟨name, location, named, located, rfl, -⟩ := ofSchema_eq_ok_iff.1 made
  have notBody := ne_body_of_parse? field located
  change Bound registry _ (ofTyped many name location (types.property name (declaredSchema many)).1)
    b imports at bound
  rw [types.property_of_element name element] at bound
  have notText := TypeMap.notText_of_element element
  obtain ⟨items, bindItems, same⟩ := bound.exists_element notBody rfl notText
  exact ⟨name, location, _, items, ⟨named, located, notBody⟩, bindItems, same⟩

theorem ListOf.fieldOf {name : String} {location : ParameterLocation}
    (listed : ListOf schema one many) (field : FieldOf many name location) :
    FieldOf one name location where
  named := listed.name ▸ field.named
  located := listed.location ▸ field.located
  notBody := field.notBody

/-- The alias of a parameter is the one that its schema names. -/
theorem HasSchema.get?_typeKey (has : HasSchema param schema) :
    ((Extensions.ofJson (declaredSchema param)).union (Extensions.ofJson param)).get?
      Extensions.typeKey = (Extensions.ofJson schema).get? Extensions.typeKey := by
  rw [SortedTable.get?_union, has.alias_]
  rcases has.beside with beside | beside
  · rw [beside, Option.none_or]
  · rw [beside, Option.or_self]

/-- A parameter with a schema that is no container has the type of its schema, or the class of the
alias that the schema names. -/
theorem HasSchema.exists_parameter (has : HasSchema param schema)
    (single : TypeMap.element? schema = none) {name : String} {location : ParameterLocation}
    (field : FieldOf param name location) (types : TypeMap) (registry : TypeRegistry)
    (operationId : String) :
    let own := (types.property name schema).1.own
    ∃ p : Parameter, p.resolvedType = own.resolvedType ∧ ∀ {entity symbol b imports},
      own.extensions.symbolicType own.declaredType own.format entity = .ok symbol →
      NameBound registry p symbol b imports →
      boundType types registry operationId param = .ok (b.resolvedType, imports) := by
  intro own
  have typed := types.property_congr name has.typing single
  have made : ofSchema types operationId param =
      .ok (ofTyped param name location (types.property name (declaredSchema param)).1, _) :=
    ofSchema_eq_ok_iff.2 ⟨name, location, field.named, field.located, rfl, rfl⟩
  rw [typed] at made
  let p := ofTyped param name location
    (.leaf { own with extensions := Extensions.ofJson (declaredSchema param) })
  refine ⟨p, rfl, fun {entity symbol b imports} read bindName =>
    boundType_eq_ok_iff.2 ⟨p, _, b, made, ?_, rfl⟩⟩
  have elsewhere : p.isBody = false := by
    show (location == .body) = false
    simpa using field.notBody
  have noContainer : p.container = none := by
    show (types.property name schema).1.own.container = none
    rw [types.property_of_leaf name single]
    exact types.container_leafLayer name schema
  have readAlias : p.extensions.symbolicType p.declaredType p.format
      (operationId ++ "." ++ p.name) = .ok symbol := by
    refine (Extensions.symbolicType_congr ?_ _ _ _).trans (Extensions.symbolicType_entity _ read)
    rw [types.extensions_property name schema]
    exact has.get?_typeKey
  have bound := Bound.field elsewhere (.plain (.inl noContainer)) readAlias bindName
  rwa [List.nil_append] at bound

/-- What a parameter takes from its schema is what an element takes first, except for the class of a
base type, which only an element takes. -/
theorem HasSchema.exists_boundType (has : HasSchema param schema)
    (single : TypeMap.element? schema = none) {name entity : String}
    {location : ParameterLocation} (field : FieldOf param name location)
    {symbol : Option String} {bound : Layer}
    (read : (types.property name schema).1.own.extensions.symbolicType
      (types.property name schema).1.own.declaredType (types.property name schema).1.own.format
      entity = .ok symbol)
    (bindName : Layer.Named registry (types.property name schema).1.own symbol bound imports) :
    ∃ scalarType scalarImports,
      boundType types registry operationId param = .ok (scalarType, scalarImports) ∧
      (scalarType = bound.resolvedType ∧ scalarImports = imports ↔
        symbol.isSome ∨ registry.get? (types.property name schema).1.own.baseType = none) := by
  obtain ⟨p, same, reaches⟩ := has.exists_parameter single field types registry operationId
  cases bindName with
  | symbol found => exact ⟨_, _, reaches read (.symbol found), by simp [withAlias, Layer.withAlias]⟩
  | container container =>
    rw [types.property_of_leaf name single] at container
    cases (types.container_leafLayer name schema).symm.trans container
  | known _ found => exact ⟨_, _, reaches read .plain, by simp [found]⟩
  | unknown _ missing => exact ⟨_, _, reaches read .plain, by simp [same, missing]⟩

/-- If a parameter that is a list of values of a schema can be bound, then so can the parameter that
has this schema itself.  Without type arguments the parameter has the type of the elements, and the
same names to import, exactly if the schema names an alias or its base type has no class. -/
theorem list_element_typed_alike (types : TypeMap) (registry : TypeRegistry) (operationId : String)
    (listed : ListOf schema one many) (single : TypeMap.element? schema = none)
    (field : many.getStr? "in" ≠ some "body")
    (done : boundType types registry operationId many =
      .ok (ContainerKind.list.wrap type, imports)) :
    ∃ scalarType scalarImports,
      boundType types registry operationId one = .ok (scalarType, scalarImports) ∧
      ((Extensions.ofJson schema).get? Extensions.argumentsKey = none →
        (scalarType = type ∧ scalarImports = imports ↔
          (types.property "" schema).1.own.symbol?.isSome ∨
            registry.get? (types.property "" schema).1.own.baseType = none)) := by
  obtain ⟨name, location, entity, element, fieldOf, bindElement, wrapped⟩ :=
    exists_element_of_list field listed.many done
  rw [types.property_eq_leaf name single] at bindElement
  obtain ⟨bound, bindLayer, rfl⟩ := Property.bindAliases_leaf_eq_ok_iff.1 bindElement
  obtain ⟨symbol, found, reads, @⟨named', _, first, more, bindName, bindArguments⟩⟩ :=
    Layer.bindAliases_eq_ok_iff.1 bindLayer
  obtain ⟨scalarType, scalarImports, reached, alike⟩ :=
    listed.one.exists_boundType single (listed.fieldOf fieldOf) reads.symbol bindName
  refine ⟨scalarType, scalarImports, reached, fun noArguments => ?_⟩
  -- the type does not depend on the name of the parameter, which the statement leaves blank
  have own := types.own_property_eq name "" single
  have nothing : found = none := by
    have read := reads.arguments
    rw [types.extensions_property, Extensions.typeArguments_of_none noArguments] at read
    cases read
    rfl
  rw [nothing] at bindArguments
  cases bindArguments
  rw [ContainerKind.wrap_injective _ wrapped, List.append_nil]
  have alias_ : (types.property "" schema).1.own.symbol? = symbol := by
    rw [← Layer.symbol?_eq reads.symbol, own]
    rfl
  have base : (types.property "" schema).1.own.baseType =
      (types.property name schema).1.own.baseType := by rw [own]
  rw [alias_, base]
  exact alike

/-! ## Parameters of a query -/

/-- The schema of lists. -/
def listSchema (schema : Json) : Json := .obj [("type", .str "array"), ("items", schema)]

/-- A parameter of a query with a schema under `schema`, and other fields. -/
def queried (others : List (String × Json)) (schema : Json) : Json :=
  .obj ([("name", .str "amount"), ("in", .str "query")] ++ others ++ [("schema", schema)])

theorem listOf_queried (schema : Json) :
    ListOf schema (queried [] schema) (queried [] (listSchema schema)) where
  name := rfl
  location := rfl
  one := by
    have noneOf : ∀ key ∈ ["name", "in", "schema"], Text.hasStart "x-" key = false := by decide
    have extensions : Extensions.ofJson (queried [] schema) = .empty := by
      simp [Extensions.ofJson, queried, Json.asObj?, Extensions.ofFields, noneOf, SortedTable.ofList]
    exact ⟨fun _ _ => rfl, rfl, .inl (by rw [extensions]; rfl)⟩
  many := rfl

/-- The schema of an alias. -/
def aliasSchema : Json := .obj [("type", .str "string"), ("x-type", .str "Money")]

/-- A parameter of a query with the fields of this schema among its own. -/
def aliasQuery : Json :=
  .obj [("name", .str "amount"), ("in", .str "query"), ("type", .str "string"),
    ("x-type", .str "Money")]

/-- The list of such parameters. -/
def aliasListQuery : Json :=
  .obj [("name", .str "amount"), ("in", .str "query"), ("type", .str "array"),
    ("items", aliasSchema)]

theorem list_element_typed_alike_money :
    ListOf aliasSchema aliasQuery aliasListQuery ∧ TypeMap.element? aliasSchema = none ∧
      boundType ⟨.standard, .plain⟩ Model.pagedTypes "pay" aliasListQuery =
        .ok (ContainerKind.list.wrap "Money", ["acme.Money"]) ∧
      boundType ⟨.standard, .plain⟩ Model.pagedTypes "pay" aliasQuery =
        .ok ("Money", ["acme.Money"]) := by
  have typing : ∀ key ∈ TypeMap.typingKeys,
      (declaredSchema aliasQuery).get? key = aliasSchema.get? key := by
    simp [TypeMap.typingKeys, declaredSchema, aliasQuery, aliasSchema, Json.get?, Assoc.get?]
  have listed : ListOf aliasSchema aliasQuery aliasListQuery :=
    ⟨rfl, rfl, ⟨typing, rfl, .inr rfl⟩, rfl⟩
  have bound : boundType ⟨.standard, .plain⟩ Model.pagedTypes "pay" aliasListQuery =
      .ok (ContainerKind.list.wrap "Money", ["acme.Money"]) := by
    rw [boundType_eq rfl rfl, TypeMap.property_of_element _ _ listed.many,
      TypeMap.property_of_leaf _ _ rfl]
    rfl
  obtain ⟨scalarType, scalarImports, reached, alike⟩ :=
    list_element_typed_alike ⟨.standard, .plain⟩ Model.pagedTypes "pay" listed rfl (by decide) bound
  have named : (TypeMap.property ⟨.standard, .plain⟩ "" aliasSchema).1.own.symbol?.isSome := by
    rw [TypeMap.property_of_leaf _ _ rfl]
    rfl
  obtain ⟨rfl, rfl⟩ := (alike rfl).2 (.inl named)
  exact ⟨listed, rfl, bound, reached⟩

/-- The schema of a model whose name is an alias. -/
def namedSchema : Json := .obj [("$ref", .str "#/definitions/Amount")]

/-- The schema of an alias with a type argument. -/
def genericSchema : Json :=
  .obj [("type", .str "string"), ("x-type", .str "Page"), ("x-typeTemplateArgs", .str "Amount")]

/-- An element takes the class of its base type and has type arguments, and a parameter does not; and
an alias beside the schema is that of the parameter only. -/
theorem list_element_typed_otherwise :
    (ListOf namedSchema (queried [] namedSchema) (queried [] (listSchema namedSchema)) ∧
      TypeMap.element? namedSchema = none ∧
      boundType ⟨.standard, .plain⟩ Model.pagedTypes "pay" (queried [] (listSchema namedSchema)) =
        .ok (ContainerKind.list.wrap "Money", ["acme.Money"]) ∧
      boundType ⟨.standard, .plain⟩ Model.pagedTypes "pay" (queried [] namedSchema) =
        .ok ("Amount", [])) ∧
    (ListOf genericSchema (queried [] genericSchema) (queried [] (listSchema genericSchema)) ∧
      TypeMap.element? genericSchema = none ∧
      boundType ⟨.standard, .plain⟩ Model.pagedTypes "pay" (queried [] (listSchema genericSchema)) =
        .ok (ContainerKind.list.wrap "Page<Money>", ["acme.Page", "acme.Page", "acme.Money"]) ∧
      boundType ⟨.standard, .plain⟩ Model.pagedTypes "pay" (queried [] genericSchema) =
        .ok ("Page", ["acme.Page"])) ∧
    boundType ⟨.standard, .plain⟩ Model.pagedTypes "pay"
        (queried [("x-type", .str "Money")] (listSchema (.obj [("type", .str "string")]))) =
      .ok (ContainerKind.list.wrap "String", []) ∧
    boundType ⟨.standard, .plain⟩ Model.pagedTypes "pay"
        (queried [("x-type", .str "Money")] (.obj [("type", .str "string")])) =
      .ok ("Money", ["acme.Money"]) := by
  refine ⟨⟨listOf_queried _, rfl, ?_, ?_⟩, ⟨listOf_queried _, rfl, ?_, ?_⟩, ?_, ?_⟩
  · rw [boundType_eq rfl rfl, TypeMap.property_of_element _ _ rfl, TypeMap.property_of_leaf _ _ rfl]
    rfl
  · rw [boundType_eq rfl rfl, TypeMap.property_of_leaf _ _ rfl]
    rfl
  · rw [boundType_eq rfl rfl, TypeMap.property_of_element _ _ rfl, TypeMap.property_of_leaf _ _ rfl]
    rfl
  · rw [boundType_eq rfl rfl, TypeMap.property_of_leaf _ _ rfl]
    rfl
  · rw [boundType_eq rfl rfl, TypeMap.property_of_element _ _ rfl, TypeMap.property_of_leaf _ _ rfl]
    rfl
  · rw [boundType_eq rfl rfl, TypeMap.property_of_leaf _ _ rfl]
    rfl

end Parameter

end SchemaBinder
