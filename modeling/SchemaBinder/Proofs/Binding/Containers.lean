import SchemaBinder.Proofs.Binding.Imports
import SchemaBinder.Proofs.Binding.Operations
import SchemaBinder.Url.PlainNames
/-!
# The types of containers

The type of an element is written down again and again: in every container around it, in the
parameter that it belongs to, as the type of a response and as the type that an operation returns.
`Tied` says that a container and its element agree.

Where a document has a container, its declared type is never text, so the container has no alias
of its own and can only take its types from its element.  A property all of whose containers are so
is `Regular`.  The schemas of a document become regular properties, binding keeps them regular, and
in a regular property everything is tied.
-/

namespace SchemaBinder

variable {registry : TypeRegistry} {entity : String} {imports : List String}

/-- The kind, the element, the base type and the type of a container, or of what is none. -/
inductive Tied : Option ContainerKind → Option Property → String → String → Prop where
  | plain {base resolved : String} : Tied none none base resolved
  | container (kind : ContainerKind) (element : Property) :
      Tied (some kind) (some element) element.baseType (kind.wrap element.resolvedType)

theorem Tied.exists_kind {container : Option ContainerKind} {element : Property}
    {base resolved : String} (tied : Tied container (some element) base resolved) :
    ∃ kind, container = some kind := by
  cases tied with
  | container kind => exact ⟨kind, rfl⟩

/-- Only texts have aliases. -/
theorem Extensions.symbolicType_of_notText {declared : String} {format : Option String}
    {extensions : Extensions} (notText : ¬Text.sameIgnoringCase declared "string") :
    symbolicType declared format extensions entity = .ok none := by
  rw [symbolicType, if_neg notText]

/-! ## Properties -/

namespace Layer

variable {own bound : Layer} {kind : ContainerKind}

theorem around_of_container (container : own.container = some kind) (element : Layer) :
    own.around element = { own with
      baseType := element.baseType
      resolvedType := kind.wrap element.resolvedType } := by
  rw [around, container]

/-- A container whose declared type is no text stays as it is. -/
theorem eq_of_container (container : own.container = some kind)
    (notText : ¬Text.sameIgnoringCase own.declaredType "string")
    (done : own.bindAliases registry entity = .ok (bound, imports)) : bound = own := by
  obtain ⟨symbol, found, reads, @⟨named, _, _, _, name, arguments⟩⟩ := bindAliases_eq_ok_iff.1 done
  cases reads.symbol.symm.trans (Extensions.symbolicType_of_notText notText)
  have same : named = own := by
    cases name with
    | container => rfl
    | known plain => cases container.symm.trans plain
    | unknown plain => rfl
  cases arguments with
  | plain => exact same
  | generic plain => cases container.symm.trans (same ▸ plain)

end Layer

namespace Property

/-- The property and its elements. -/
def nodes : Property → List Property
  | leaf own => [leaf own]
  | nest own element => nest own element :: element.nodes

theorem self_mem_nodes (p : Property) : p ∈ p.nodes := by
  cases p <;> exact List.mem_cons_self

/-- The property and all its elements are tied. -/
def Consistent (p : Property) : Prop :=
  ∀ node ∈ p.nodes, Tied node.own.container node.element? node.baseType node.resolvedType

/-- Every container is tied and has a declared type that is no text. -/
inductive Regular : Property → Prop where
  | leaf {own : Layer} : own.container = none → Regular (.leaf own)
  | nest {own : Layer} {element : Property} :
      Tied own.container (some element) own.baseType own.resolvedType →
      ¬Text.sameIgnoringCase own.declaredType "string" → Regular element →
      Regular (.nest own element)

variable {p b : Property}

theorem Regular.consistent (regular : p.Regular) : p.Consistent := by
  induction regular with
  | @leaf own plain =>
    intro node member
    rw [List.mem_singleton.1 member]
    show Tied own.container none _ _
    rw [plain]
    exact .plain
  | nest tied _ _ ih =>
    intro node member
    rcases List.mem_cons.1 member with rfl | member
    · exact tied
    · exact ih node member

theorem Regular.mapRequired (regular : p.Regular) (required : Bool) :
    (p.mapOwn ({ · with required })).Regular := by
  cases regular with
  | leaf plain => exact .leaf plain
  | nest tied notText element => exact .nest tied notText element

theorem Regular.bindAliases (regular : p.Regular)
    (done : p.bindAliases registry entity = .ok (b, imports)) : b.Regular := by
  induction regular generalizing b entity imports with
  | leaf plain =>
    obtain ⟨⟨bound, names⟩, bindOwn, done⟩ := bind_eq_ok_iff.1 done
    cases done
    obtain ⟨_, _, _, bindOwn⟩ := Layer.bindAliases_eq_ok_iff.1 bindOwn
    exact .leaf (bindOwn.kept.container.trans plain)
  | @nest own element tied notText _ ih =>
    obtain ⟨⟨element', names⟩, bindElement, done⟩ := bind_eq_ok_iff.1 done
    obtain ⟨⟨bound, more⟩, bindOwn, done⟩ := bind_eq_ok_iff.1 done
    cases done
    obtain ⟨kind, container⟩ := tied.exists_kind
    -- no alias takes the place of what the container takes from its bound element
    have around := Layer.kept_around own element'.own
    rw [Layer.eq_of_container (around.container.trans container) (around.declaredType ▸ notText)
      bindOwn, Layer.around_of_container container]
    refine .nest ?_ notText (ih bindElement)
    show Tied own.container _ _ _
    rw [container]
    exact .container kind element'

end Property

/-- Arrays and objects are no texts. -/
theorem TypeMap.notText_of_element {schema e : Json} {kind : ContainerKind}
    (container : element? schema = some (kind, e)) :
    ¬Text.sameIgnoringCase (declaredType schema) "string" := by
  rcases declaredType_of_element container with array | object
  · rw [array]
    decide
  · rw [object]
    decide

theorem TypeMap.container_leafLayer (types : TypeMap) (name : String) (schema : Json) :
    (types.leafLayer name schema).1.container = none := by
  unfold leafLayer
  split <;> rfl

/-- What a schema becomes is regular. -/
theorem TypeMap.regular_property (types : TypeMap) (name : String) (schema : Json) :
    (types.property name schema).1.Regular := by
  induction schema using property_induct with
  | element schema kind e container ih =>
    rw [property_of_element types name container]
    exact .nest (.container kind _) (notText_of_element container) ih
  | leaf schema leaf =>
    rw [property_of_leaf types name leaf]
    exact .leaf (types.container_leafLayer name schema)

/-! ## Parameters -/

namespace Parameter

variable {p b typed : Parameter} {symbol : Option String}

/-- A body without an element, a parameter that is no container, or one that is tied to a regular
element and has a declared type that is no text. -/
inductive Regular (p : Parameter) : Prop where
  | body : p.isBody = true → p.items = none → Regular p
  | plain : p.isBody = false → p.isContainer = p.container.isSome → p.container = none →
      p.items = none → Regular p
  | container {element : Property} : p.isBody = false → p.isContainer = p.container.isSome →
      Tied p.container (some element) p.baseType p.resolvedType → p.items = some element →
      ¬Text.sameIgnoringCase p.declaredType "string" → element.Regular → Regular p

theorem Regular.hasMore (regular : p.Regular) (hasMore : Bool) :
    ({ p with hasMore } : Parameter).Regular := by
  cases regular with
  | body isBody items => exact .body isBody items
  | plain notBody isContainer container items => exact .plain notBody isContainer container items
  | container notBody isContainer tied items notText element =>
    exact .container notBody isContainer tied items notText element

theorem Regular.link {ps : List Parameter} (regular : ∀ p ∈ ps, p.Regular) :
    ∀ q ∈ Parameter.link ps, q.Regular := by
  intro q member
  obtain ⟨p, there, hasMore, rfl⟩ := exists_of_mem_link q member
  exact (regular p there).hasMore hasMore

theorem Regular.tied (regular : p.Regular) (notBody : p.isBody = false) :
    p.isContainer = p.container.isSome ∧ Tied p.container p.items p.baseType p.resolvedType := by
  cases regular with
  | body isBody => cases notBody.symm.trans isBody
  | plain _ isContainer container items =>
    rw [container, items]
    exact ⟨container ▸ isContainer, .plain⟩
  | container _ isContainer tied items =>
    rw [items]
    exact ⟨isContainer, tied⟩

theorem Regular.element (regular : p.Regular) {items : Property}
    (named : p.items = some items) : items.Regular := by
  cases regular with
  | body _ missing => cases named.symm.trans missing
  | plain _ _ _ missing => cases named.symm.trans missing
  | container _ _ _ there _ element =>
    cases named.symm.trans there
    exact element

theorem regular_securityHeader (name : String) (description : Option String) :
    (securityHeader name description).Regular :=
  .plain rfl rfl rfl rfl

/-- A parameter without a container stays without one, whatever its alias. -/
theorem NameBound.regular_of_plain (notBody : p.isBody = false)
    (isContainer : p.isContainer = p.container.isSome) (container : p.container = none)
    (items : p.items = none) (done : NameBound registry p symbol b imports) : b.Regular := by
  cases done with
  | plain => exact .plain notBody isContainer container items
  | symbol => exact .plain notBody isContainer container items

/-- A container takes its types from its bound element, and no alias can change them. -/
theorem Regular.bindAliases (regular : p.Regular)
    (done : p.bindAliases registry entity = .ok (b, imports)) : b.Regular := by
  have done := bindAliases_eq_ok_iff.1 done
  cases regular with
  | body isBody items =>
    cases done with
    | body _ _ done => exact .body ((done.kept isBody).isBody.trans isBody) (done.items.trans items)
    | field notBody => cases notBody.symm.trans isBody
  | plain notBody isContainer container items =>
    cases done with
    | body isBody => cases notBody.symm.trans isBody
    | field _ element _ name =>
      cases element with
      | plain => exact name.regular_of_plain notBody isContainer container items
      | element some => cases container.symm.trans some
  | container notBody isContainer tied items notText regular =>
    cases done with
    | body isBody => cases notBody.symm.trans isBody
    | field _ element read name =>
      cases element with
      | plain missing =>
        obtain ⟨kind, container⟩ := tied.exists_kind
        rcases missing with missing | missing
        · cases container.symm.trans missing
        · cases items.symm.trans missing
      | @element kind _ bound _ container there bindItems =>
        cases items.symm.trans there
        cases read.symm.trans (Extensions.symbolicType_of_notText notText)
        cases name with
        | plain =>
          refine .container notBody isContainer ?_ rfl notText (regular.bindAliases bindItems)
          show Tied p.container _ _ _
          rw [container]
          exact .container kind bound

theorem Built.regular {types : TypeMap} (built : Built types p) : p.Regular := by
  cases built with
  | @declared operationId param imports made =>
    obtain ⟨name, location, _, _, rfl, _⟩ := ofSchema_eq_ok_iff.1 made
    have regular := types.regular_property name ((param.get? "schema").getD param)
    generalize (types.property name ((param.get? "schema").getD param)).1 = typed at regular
    cases isBody : location == .body with
    | true => exact .body isBody (if_pos isBody)
    | false =>
      have element : (ofTyped param name location typed).items = typed.element? :=
        if_neg (by simp [isBody])
      cases regular with
      | leaf plain => exact .plain isBody rfl plain element
      | nest tied notText inner => exact .container isBody rfl tied element notText inner
  | @requestBody body imports made =>
    obtain ⟨media, schema, _, _, rfl, _⟩ := ofRequestBody_eq_some_iff.1 made
    exact .body rfl rfl

end Parameter

/-! ## Responses -/

namespace Response

variable {r b : Response}

/-- The type of the body, if there is one, is regular. -/
def Regular (r : Response) : Prop :=
  ∀ schema, r.schema = some schema → schema.Regular

theorem regular_ofSchema (types : TypeMap) (olderLayout : Bool) (code : String) (response : Json) :
    (ofSchema types olderLayout code response).1.Regular := by
  intro schema body
  obtain ⟨_, typed, rfl⟩ := Option.map_eq_some_iff.1 body
  obtain ⟨declared, _, rfl⟩ := Option.map_eq_some_iff.1 typed
  exact types.regular_property code declared

theorem exists_of_returned {rs : List Response} {p : Property} (found : returned rs = some p) :
    ∃ r ∈ rs, r.schema = some p := by
  unfold returned at found
  split at found
  · next r first => exact ⟨r, List.mem_of_find?_eq_some first, found⟩
  · obtain ⟨r, first, found⟩ := Option.bind_eq_some_iff.1 found
    exact ⟨r, List.mem_of_find?_eq_some first, found⟩

/-- A bound response is regular and has the type of its innermost element. -/
theorem Bound.regular (done : Bound registry entity r b imports) (typed : r.Typed)
    (regular : r.Regular) : b.Regular ∧ b.baseType = b.schema.map (·.elementType) := by
  cases done with
  | plain missing =>
    rw [missing, typed missing]
    exact ⟨regular, rfl⟩
  | body there bindSchema =>
    refine ⟨fun schema same => ?_, rfl⟩
    cases same
    exact (regular _ there).bindAliases bindSchema

end Response

/-! ## Operations -/

namespace Operation

variable {o o' : Operation}

/-- All typed parts are regular. -/
structure Regular (o : Operation) : Prop where
  returned : ∀ p, o.returnProperty = some p → p.Regular
  responses : ∀ r ∈ o.responses, r.Regular
  parameters : ∀ p ∈ o.parameters, p.Regular

/-- In all typed parts of the operation, and in its parameters, the types of containers are tied to
those of their elements.  The schema of a body stands apart. -/
structure Consistent (o : Operation) : Prop where
  properties : ∀ p ∈ o.properties, p.Consistent
  parameters : ∀ p ∈ o.parameters, p.isBody = false →
    p.isContainer = p.container.isSome ∧ Tied p.container p.items p.baseType p.resolvedType

/-- The types of the responses and of the operation are those of their properties. -/
structure Rendered (o : Operation) : Prop where
  returnType : o.returnType = o.returnProperty.map (·.resolvedType)
  responses : ∀ r ∈ o.responses, r.baseType = r.schema.map (·.elementType)

theorem Regular.consistent (regular : o.Regular) : o.Consistent where
  properties p part := by
    rcases mem_properties.1 part with returned | ⟨r, member, schema⟩ | ⟨q, member, items⟩
    · exact (regular.returned p returned).consistent
    · exact (regular.responses r member p schema).consistent
    · exact ((regular.parameters q member).element items).consistent
  parameters p member notBody := (regular.parameters p member).tied notBody

theorem Built.regular {doc : Document} {types : TypeMap} (built : o.Built doc types) :
    o.Regular := by
  have responses : ∀ r ∈ o.responses, r.Regular := by
    intro r member
    obtain ⟨response, made⟩ := built.responses r member
    rw [made]
    exact Response.regular_ofSchema types doc.isOlderLayout r.code response
  refine ⟨fun p returned => ?_, responses, ?_⟩
  · rw [built.returned] at returned
    obtain ⟨r, member, schema⟩ := Response.exists_of_returned returned
    exact responses r member p schema
  · obtain ⟨ps, linked, made⟩ := built.parameters
    rw [linked]
    exact Parameter.Regular.link fun p member => (made p member).regular

/-- What a bound operation returns is regular, and its type is written beside it. -/
theorem ReturnBound.regular {returnProperty : Option Property} {returnType : Option String}
    (done : ReturnBound registry o returnProperty returnType imports)
    (regular : ∀ p, o.returnProperty = some p → p.Regular) :
    (∀ p, returnProperty = some p → p.Regular) ∧
      returnType = returnProperty.map (·.resolvedType) := by
  cases done with
  | plain => exact ⟨fun p none => (nomatch none), rfl⟩
  | value there bindReturn =>
    refine ⟨fun p same => ?_, rfl⟩
    cases same
    exact (regular _ there).bindAliases bindReturn

theorem Regular.bound (regular : o.Regular) (typed : o.Typed) {options : OperationOptions}
    {basePath : Option String} (done : o.bound registry options basePath = .ok o') :
    o'.Regular ∧ o'.Rendered := by
  obtain ⟨returnProperty, returnType, _, responses, _, parameters, _, bindReturn, bindResponses,
    bindParameters, rfl⟩ := bound_eq_ok_iff.1 done
  have ofReturn :=
    ((boundReturn_eq_ok_iff typed.returned).1 bindReturn).regular regular.returned
  have ofResponses : ∀ r ∈ responses, r.Regular ∧ r.baseType = r.schema.map (·.elementType) := by
    rw [Response.bindEach_eq] at bindResponses
    intro r member
    obtain ⟨r', declared, names, bindOne, _⟩ := mem_of_bindParts bindResponses r member
    have typed := typed.responses r' declared
    exact ((Response.bindAliases_eq_ok_iff typed).1 bindOne).regular typed
      (regular.responses r' declared)
  have ofParameters : ∀ p ∈ withHeaders options o.authMethods parameters, p.Regular := by
    rw [Parameter.bindEach_eq] at bindParameters
    intro p member
    rcases mem_withHeaders p member with there | ⟨name, description, rfl⟩
    · obtain ⟨p', declared, names, bindOne, _⟩ := mem_of_bindParts bindParameters p there
      exact (regular.parameters p' declared).bindAliases bindOne
    · exact Parameter.regular_securityHeader name description
  exact ⟨
    ⟨ofReturn.1, fun r member => (ofResponses r member).1, Parameter.Regular.link ofParameters⟩,
    ⟨ofReturn.2, fun r member => (ofResponses r member).2⟩⟩

end Operation

/-! ## Models -/

namespace Model

variable {m m' : Model}

/-- In all fields of the model the types of containers are tied to those of their elements. -/
def Consistent (m : Model) : Prop :=
  ∀ p ∈ m.properties, p.Consistent

/-- All fields are regular. -/
def Regular (m : Model) : Prop :=
  ∀ p ∈ m.properties, p.Regular

theorem Regular.consistent (regular : m.Regular) : m.Consistent :=
  fun p member => (regular p member).consistent

theorem regular_of_ofSchema {doc : Document} {types : TypeMap} {name : String} {schema : Json}
    (made : ofSchema doc types name schema = .ok m) : m.Regular := by
  intro p member
  obtain ⟨fieldName, fieldSchema, required, rfl⟩ := exists_property_of_mem made p member
  exact (types.regular_property fieldName fieldSchema).mapRequired required

theorem Regular.bound (regular : m.Regular) (done : m.bound registry = .ok m') : m'.Regular := by
  obtain ⟨⟨parent, parentImports⟩, _, done⟩ := bind_eq_ok_iff.1 done
  obtain ⟨⟨properties, imports⟩, bindFields, done⟩ := bind_eq_ok_iff.1 done
  cases done
  rw [boundFields_eq] at bindFields
  intro p member
  obtain ⟨p', declared, names, bindOne, _⟩ := mem_of_bindParts bindFields p member
  exact (regular p' declared).bindAliases bindOne

end Model

/-! ## Documents -/

/-- In what a document becomes, and in what binding makes of it, the types of every container are
tied to those of its element, in models and operations and at every depth.  The types of bound
responses and operations are those of their properties. -/
theorem container_types_tied [DomainNames] (doc : Document) (types : TypeMap)
    (registry : TypeRegistry) :
    (∀ models, Model.ofDocument doc types = .ok models →
      (∀ m ∈ models, m.Consistent) ∧ ((Model.bindAll registry models).fault = none →
        ∀ m ∈ (Model.bindAll registry models).elements, m.Consistent)) ∧
    (∀ api, Api.ofDocument doc types = .ok api →
      (∀ o ∈ api.operations, o.Consistent) ∧
        ∀ options, (Api.bindAll registry options api).fault = none →
          ∀ o ∈ (Api.bindAll registry options api).elements, o.Consistent ∧ o.Rendered) := by
  constructor
  · intro models produced
    have regular : ∀ m ∈ models, m.Regular := by
      intro m member
      obtain ⟨name, schema, made⟩ := Model.exists_ofSchema_of_mem produced m member
      exact Model.regular_of_ofSchema made
    refine ⟨fun m member => (regular m member).consistent, fun allBound m' member => ?_⟩
    obtain ⟨m, declared, bound⟩ :=
      Progress.exists_bound_of_mem (Model.commits_bindAliases registry) allBound m' member
    exact ((regular m declared).bound bound).consistent
  · intro api produced
    have built : ∀ o ∈ api.operations, o.Built doc types := by
      intro o member
      obtain ⟨path, method, item, shared, pathExtensions, made⟩ :=
        Api.exists_ofSchema_of_mem produced o member
      exact Operation.built_of_ofSchema made
    refine ⟨fun o member => (built o member).regular.consistent,
      fun options allBound o' member => ?_⟩
    obtain ⟨o, declared, bound⟩ := Progress.exists_bound_of_mem
      (Operation.commits_bindAndGroup registry options (options.rootPath api.basePath)) allBound
      o' member
    obtain ⟨regular, rendered⟩ := (built o declared).regular.bound (built o declared).typed bound
    exact ⟨regular.consistent, rendered⟩

/-- The schema of an alias. -/
def amountSchema : Json := .obj [("type", .str "string"), ("x-type", .str "Money")]

/-- The schema of sets of it. -/
def amountSetSchema : Json :=
  .obj [("type", .str "array"), ("uniqueItems", .bool true), ("items", amountSchema)]

/-- The schema of lists of these sets. -/
def amountsSchema : Json := .obj [("type", .str "array"), ("items", amountSetSchema)]

/-- A parameter of that schema. -/
def amountsParameter : Json :=
  .obj [("name", .str "amounts"), ("in", .str "query"), ("schema", amountsSchema)]

/-- An operation with this parameter, and with the schema in a response. -/
def amountsMethod : Json :=
  .obj [("operationId", .str "list"), ("parameters", .arr [amountsParameter]),
    ("responses", .obj [("200", .obj [("schema", amountsSchema)])])]

/-- A document with this operation, and with the schema in a model. -/
def amountsDocument : Document :=
  ⟨.obj [("swagger", .str "2.0"),
    ("definitions", .obj [("Ledger", .obj [("properties", .obj [("amounts", amountsSchema)])])]),
    ("paths", .obj [("/ledger", .obj [("get", amountsMethod)])])]⟩

/-- The elements of the lists. -/
def amountSet (name : String) : Property :=
  .nest { Layer.plain name "array" "Set<String>" with
      baseType := "String"
      container := some .set }
    (.leaf { Layer.plain name "string" "String" with
      extensions := .ofList [(Extensions.typeKey, .str "Money")] })

/-- The lists. -/
def amountSets (name : String) : Property :=
  .nest { Layer.plain name "array" "List<Set<String>>" with
      baseType := "String"
      container := some .list }
    (amountSet name)

/-- The model of the document. -/
def ledger : Model where
  name := "Ledger"
  className := "Ledger"
  description := none
  properties := [amountSets "amounts"]
  parent := none
  extensions := .empty
  imports := ⟨["java.util.Set", "java.util.List"]⟩

/-- The operation of the document. -/
def listing : Operation where
  operationId := "list"
  method := "get"
  path := "/ledger"
  summary := none
  returnType := some "List<Set<String>>"
  returnProperty := some (amountSets "200")
  responses := [⟨"200", none, some "String", some (amountSets "200")⟩]
  parameters := [{ Parameter.plain "amounts" .query "array" "List<Set<String>>" with
    baseType := "String"
    isContainer := true
    container := some .list
    items := some (amountSet "amounts") }]
  authMethods := []
  groupKey := "/ledger"
  pathExtensions := .empty
  extensions := .empty
  imports := ⟨["java.util.Set", "java.util.List"]⟩

theorem property_amountsSchema (name : String) :
    (⟨.standard, .plain⟩ : TypeMap).property name amountsSchema =
      (amountSets name, ["java.util.Set", "java.util.List"]) := by
  let types : TypeMap := ⟨.standard, .plain⟩
  have amount : types.property name amountSchema =
      (.leaf { Layer.plain name "string" "String" with
        extensions := .ofList [(Extensions.typeKey, .str "Money")] }, []) :=
    types.property_of_leaf name rfl
  have set : types.property name amountSetSchema = (amountSet name, ["java.util.Set"]) := by
    have container : TypeMap.element? amountSetSchema = some (.set, amountSchema) := rfl
    rw [types.property_of_element name container, amount]
    rfl
  have container : TypeMap.element? amountsSchema = some (.list, amountSetSchema) := rfl
  rw [types.property_of_element name container, set]
  rfl

theorem amountsDocument_models :
    Model.ofDocument amountsDocument ⟨.standard, .plain⟩ = .ok [ledger] := by
  let types : TypeMap := ⟨.standard, .plain⟩
  have made : Model.ofDocument amountsDocument types =
      .ok [⟨"Ledger", "Ledger", none,
        [(types.property "amounts" amountsSchema).1.mapOwn ({ · with required := false })], none,
        .empty, ImportSet.empty.extend ((types.property "amounts" amountsSchema).2 ++ [])⟩] := rfl
  rw [made, property_amountsSchema]
  rfl

theorem amountsDocument_operations [DomainNames] :
    Api.ofDocument amountsDocument ⟨.standard, .plain⟩ = .ok ⟨none, [listing]⟩ := by
  let types : TypeMap := ⟨.standard, .plain⟩
  have declared : Parameter.ofSchemas types "list" [amountsParameter] =
      .ok (listing.parameters, ["java.util.Set", "java.util.List"]) :=
    Parameter.ofSchemas_singleton rfl rfl (property_amountsSchema "amounts") rfl
  have responses : Response.ofSchemas amountsDocument types
      [("200", .obj [("schema", amountsSchema)])] =
      .ok (listing.responses, ["java.util.Set", "java.util.List"]) :=
    Response.ofSchemas_singleton rfl rfl (property_amountsSchema "200") rfl
  have method : Operation.ofSchema amountsDocument types "/ledger" "get" amountsMethod [] .empty =
      .ok listing :=
    bind_eq_ok_iff.2 ⟨[amountsParameter], rfl, bind_eq_ok_iff.2 ⟨_, declared,
      bind_eq_ok_iff.2 ⟨([], []), rfl, bind_eq_ok_iff.2 ⟨_, responses, rfl⟩⟩⟩⟩
  exact Api.ofDocument_of_method rfl rfl (by decide) method

/-- The alias in the sets reaches the lists around them. -/
theorem container_types_tied_amounts :
    Model.ofDocument amountsDocument ⟨.standard, .plain⟩ = .ok [ledger] ∧
      Api.ofDocument amountsDocument ⟨.standard, .plain⟩ = .ok ⟨none, [listing]⟩ ∧
      (Model.bindAll Model.pagedTypes [ledger]).fault = none ∧
      (Api.bindAll Model.pagedTypes ⟨false, false⟩ ⟨none, [listing]⟩).fault = none ∧
      (Model.bindAll Model.pagedTypes [ledger]).elements.map
        (fun m => m.properties.map (·.resolvedType)) = [["List<Set<Money>>"]] ∧
      (Api.bindAll Model.pagedTypes ⟨false, false⟩ ⟨none, [listing]⟩).elements.map
        (fun o => (o.returnType, o.parameters.map (·.resolvedType))) =
          [(some "List<Set<Money>>", ["List<Set<Money>>"])] ∧
      (∀ m ∈ (Model.bindAll Model.pagedTypes [ledger]).elements, m.Consistent) ∧
      ∀ o ∈ (Api.bindAll Model.pagedTypes ⟨false, false⟩ ⟨none, [listing]⟩).elements,
        o.Consistent ∧ o.Rendered := by
  have models := amountsDocument_models
  have api := amountsDocument_operations
  have ofModels : (Model.bindAll Model.pagedTypes [ledger]).fault = none := rfl
  have ofApi : (Api.bindAll Model.pagedTypes ⟨false, false⟩ ⟨none, [listing]⟩).fault = none := rfl
  have tied := container_types_tied amountsDocument ⟨.standard, .plain⟩ Model.pagedTypes
  exact ⟨models, api, ofModels, ofApi, by decide, by decide, (tied.1 _ models).2 ofModels,
    (tied.2 _ api).2 _ ofApi⟩

end SchemaBinder
