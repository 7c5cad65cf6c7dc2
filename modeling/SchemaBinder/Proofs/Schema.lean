import SchemaBinder.Model.Schema
import SchemaBinder.Proofs.Endpoints
import SchemaBinder.Proofs.Lists
/-!
# What a document becomes

The properties, models and operations that a document becomes, each opened once.

A schema that stands for a container becomes a nested property, and every other schema a leaf
(`TypeMap.property_of_element`, `TypeMap.property_of_leaf`).  Every model and every operation of a
document comes from one schema (`Model.exists_ofSchema_of_mem`, `Api.exists_ofSchema_of_mem`), and
`Operation.Built` lists what is known of such an operation: its typed parts come from schemas, and
wherever it has the name of a type it has the type itself.
-/

namespace SchemaBinder

/-! ## Properties -/

namespace TypeMap

theorem property_of_element (types : TypeMap) (name : String) {schema e : Json}
    {kind : ContainerKind} (container : element? schema = some (kind, e)) :
    types.property name schema =
      (.nest { containerLayer name schema kind (types.property name e).1.own with
          extensions := Extensions.ofJson schema } (types.property name e).1,
        (types.property name e).2 ++ [kind.className]) := by
  rw [property]
  split
  · next kind' e' found =>
    cases container.symm.trans found
    rfl
  · next none =>
    cases container.symm.trans none

theorem property_of_leaf (types : TypeMap) (name : String) {schema : Json}
    (leaf : element? schema = none) :
    types.property name schema =
      (.leaf { (types.leafLayer name schema).1 with extensions := Extensions.ofJson schema },
        (types.leafLayer name schema).2) := by
  rw [property]
  split
  · next kind e found =>
    cases leaf.symm.trans found
  · rfl

/-- Only arrays and objects stand for containers. -/
theorem declaredType_of_element {schema e : Json} {kind : ContainerKind}
    (container : element? schema = some (kind, e)) :
    declaredType schema = "array" ∨ declaredType schema = "object" := by
  unfold element? at container
  split at container
  · cases container
  · split at container
    · next array => exact .inl array
    · split at container
      · next object => exact .inr object
      · cases container

/-- Properties are made by one rule for containers and one for leaves. -/
theorem property_induct {motive : Json → Prop}
    (element : ∀ schema kind e, element? schema = some (kind, e) → motive e → motive schema)
    (leaf : ∀ schema, element? schema = none → motive schema) (schema : Json) : motive schema :=
  match found : element? schema with
  | none => leaf schema found
  | some (kind, e) =>
    have : sizeOf e < sizeOf schema := sizeOf_element? found
    element schema kind e found (property_induct element leaf e)
termination_by schema

end TypeMap

/-! ## Models -/

namespace Model

variable {doc : Document} {types : TypeMap} {name : String} {schema : Json} {m : Model}

theorem mem_parts_of_schemas {entry : String × Json} (member : entry ∈ doc.schemas.getD []) :
    entry.2 ∈ doc.root.parts := by
  unfold Document.schemas at member
  split at member
  · exact Json.mem_parts_of_getObj?_getD member
  · cases found : doc.root.get? "components" with
    | none => simp [found] at member
    | some components =>
      rw [found, Option.bind_some] at member
      exact Json.mem_parts_trans (Json.mem_parts_of_getObj?_getD member)
        (Json.mem_parts_of_get? found)

/-- Every model of a document comes from a named schema, with its references followed. -/
theorem exists_schema_of_mem {models : List Model} (produced : ofDocument doc types = .ok models) :
    ∀ m ∈ models, ∃ entry ∈ doc.schemas.getD [], ∃ schema, doc.resolve entry.2 = .ok schema ∧
      ofSchema doc types entry.1 schema = .ok m := by
  intro m member
  obtain ⟨entry, there, made⟩ := exists_of_mem_mapM produced m member
  obtain ⟨schema, resolved, made⟩ := bind_eq_ok_iff.1 made
  exact ⟨entry, there, schema, resolved, made⟩

/-- Every model of a document comes from a schema. -/
theorem exists_ofSchema_of_mem {models : List Model} (produced : ofDocument doc types = .ok models) :
    ∀ m ∈ models, ∃ name schema, ofSchema doc types name schema = .ok m := by
  intro m member
  obtain ⟨entry, _, schema, _, made⟩ := exists_schema_of_mem produced m member
  exact ⟨entry.1, schema, made⟩

/-- The other members of a list are followed to schemas. -/
theorem exists_of_mem_members {names : NamePolicy} {list : List Json} {parent parent' : Option String}
    {schemas : List Json} (read : members doc names parent list = .ok (parent', schemas)) :
    ∀ schema ∈ schemas, ∃ member ∈ list, doc.resolve member = .ok schema := by
  induction list generalizing parent schemas with
  | nil =>
    cases read
    exact fun schema there => nomatch there
  | cons member rest ih =>
    unfold members at read
    split at read
    · intro schema there
      obtain ⟨member', listed, resolved⟩ := ih read schema there
      exact ⟨member', List.mem_cons_of_mem member listed, resolved⟩
    · obtain ⟨resolved, here, read⟩ := bind_eq_ok_iff.1 read
      obtain ⟨⟨parent, later⟩, next, read⟩ := bind_eq_ok_iff.1 read
      cases read
      intro schema there
      rcases List.mem_cons.1 there with rfl | there
      · exact ⟨member, List.mem_cons_self, here⟩
      · obtain ⟨member', listed, resolved⟩ := ih next schema there
        exact ⟨member', List.mem_cons_of_mem member listed, resolved⟩

/-- Every field of a model is declared by its schema or by one that a member of its `allOf` list
leads to.  Only then it is known whether it is required. -/
theorem exists_field_of_mem (made : ofSchema doc types name schema = .ok m) :
    ∀ p ∈ m.properties, ∃ declaring, (declaring = schema ∨
      ∃ member ∈ (schema.getArr? "allOf").getD [], doc.resolve member = .ok declaring) ∧
      ∃ field ∈ (declaring.getObj? "properties").getD [], ∃ required,
        p = (types.property field.1 field.2).1.mapOwn ({ · with required }) := by
  obtain ⟨⟨parent, others⟩, read, made⟩ := bind_eq_ok_iff.1 made
  cases made
  intro p member
  obtain ⟨⟨p', imports⟩, field, rfl⟩ := List.mem_map.1 member
  obtain ⟨declaring, there, field⟩ := List.mem_flatMap.1 field
  obtain ⟨declared, listed, same⟩ := List.mem_map.1 field
  cases same
  refine ⟨declaring, ?_, declared, listed, _, rfl⟩
  exact (List.mem_cons.1 there).imp_right (exists_of_mem_members read declaring)

/-- Every field of a model comes from a schema. -/
theorem exists_property_of_mem (made : ofSchema doc types name schema = .ok m) :
    ∀ p ∈ m.properties, ∃ fieldName fieldSchema required,
      p = (types.property fieldName fieldSchema).1.mapOwn ({ · with required }) := by
  intro p member
  obtain ⟨_, _, field, _, required, same⟩ := exists_field_of_mem made p member
  exact ⟨field.1, field.2, required, same⟩

end Model

/-! ## Operations -/

namespace Parameter

/-- A parameter that a document declares, or the body of a request. -/
inductive Built (types : TypeMap) : Parameter → Prop where
  | declared {p : Parameter} {operationId : String} {param : Json} {imports : List String} :
      ofSchema types operationId param = .ok (p, imports) → Built types p
  | requestBody {p : Parameter} {body : Json} {imports : List String} :
      ofRequestBody types body = some (p, imports) → Built types p

/-- The parameter of a name and place whose type is known. -/
def ofTyped (param : Json) (name : String) (location : ParameterLocation) (typed : Property) :
    Parameter :=
  { plain name location typed.own.declaredType typed.own.resolvedType with
    description := param.getStr? "description"
    format := typed.own.format
    baseType := typed.own.baseType
    isContainer := typed.own.container.isSome
    container := typed.own.container
    items := if location == .body then none else typed.element?
    isPrimitive := isPrimitiveName typed.own.declaredType && typed.own.container.isNone
    required := location == .path || (param.getBool? "required").getD false
    rawSchema := if location == .body then some param.render else none
    extensions := typed.own.extensions.union (Extensions.ofJson param) }

theorem ofSchema_eq_ok_iff {types : TypeMap} {operationId : String} {param : Json} {p : Parameter}
    {imports : List String} : ofSchema types operationId param = .ok (p, imports) ↔
      ∃ name location, param.getStr? "name" = some name ∧
        ParameterLocation.parse? ((param.getStr? "in").getD "") = some location ∧
        p = ofTyped param name location
          (types.property name ((param.get? "schema").getD param)).1 ∧
        imports = (types.property name ((param.get? "schema").getD param)).2 := by
  rw [ofSchema]
  cases param.getStr? "name" with
  | none => simp
  | some name =>
    dsimp only
    cases ParameterLocation.parse? ((param.getStr? "in").getD "") with
    | none => simp
    | some location =>
      constructor
      · intro made
        cases made
        exact ⟨name, location, rfl, rfl, rfl, rfl⟩
      · rintro ⟨_, _, ⟨⟩, ⟨⟩, rfl, rfl⟩
        rfl

theorem ofSchemas_singleton {types : TypeMap} {operationId name : String} {param : Json}
    {location : ParameterLocation} {typed : Property} {p : Parameter} {imports : List String}
    (named : param.getStr? "name" = some name)
    (placed : ParameterLocation.parse? ((param.getStr? "in").getD "") = some location)
    (ofType : types.property name ((param.get? "schema").getD param) = (typed, imports))
    (same : ofTyped param name location typed = p) :
    ofSchemas types operationId [param] = .ok ([p], imports) := by
  subst same
  refine bind_eq_ok_iff.2 ⟨(ofTyped param name location typed, imports), ?_, ?_⟩
  · exact ofSchema_eq_ok_iff.2 ⟨name, location, named, placed, by rw [ofType], by rw [ofType]⟩
  · show Except.ok (_, imports ++ []) = _
    rw [List.append_nil]

/-- The parameter of a body whose type is known. -/
def bodyOfTyped (body media : Json) (name : String) (typed : Property) : Parameter :=
  { plain name .body typed.own.declaredType typed.own.resolvedType with
    description := body.getStr? "description"
    format := typed.own.format
    baseType := typed.own.baseType
    isContainer := typed.own.container.isSome
    required := (body.getBool? "required").getD false
    rawSchema := some media.render
    extensions := Extensions.ofJson body }

/-- The name of the parameter of a body. -/
def bodyName (body : Json) : String := (body.getStr? "x-codegen-request-body-name").getD "body"

theorem ofRequestBody_eq_some_iff {types : TypeMap} {body : Json} {p : Parameter}
    {imports : List String} : ofRequestBody types body = some (p, imports) ↔
      ∃ media schema, firstMedia? body = some media ∧ media.get? "schema" = some schema ∧
        p = bodyOfTyped body media (bodyName body) (types.property (bodyName body) schema).1 ∧
        imports = (types.property (bodyName body) schema).2 := by
  constructor
  · intro made
    obtain ⟨media, first, made⟩ := Option.bind_eq_some_iff.1 made
    obtain ⟨schema, found, made⟩ := Option.bind_eq_some_iff.1 made
    cases made
    exact ⟨media, schema, first, found, rfl, rfl⟩
  · rintro ⟨media, schema, first, found, rfl, rfl⟩
    exact Option.bind_eq_some_iff.2 ⟨media, first, Option.bind_eq_some_iff.2 ⟨schema, found, rfl⟩⟩

/-- The parameter is what a declaration becomes. -/
def MadeFrom (types : TypeMap) (operationId : String) (d : Json) (p : Parameter) : Prop :=
  ∃ names, ofSchema types operationId d = .ok (p, names)

/-- The declared parameters are made one by one. -/
theorem forall₂_madeFrom {types : TypeMap} {operationId : String} {params : List Json}
    {ps : List Parameter} {imports : List String}
    (made : ofSchemas types operationId params = .ok (ps, imports)) :
    List.Forall₂ (MadeFrom types operationId) params ps := by
  induction params generalizing ps imports with
  | nil =>
    cases made
    exact .nil
  | cons param rest ih =>
    obtain ⟨⟨p, names⟩, here, made⟩ := bind_eq_ok_iff.1 made
    obtain ⟨⟨ps, more⟩, later, made⟩ := bind_eq_ok_iff.1 made
    cases made
    exact .cons ⟨names, here⟩ (ih later)

/-- Every declared parameter comes from the schema that declares it. -/
theorem exists_ofSchema_of_mem {types : TypeMap} {operationId : String} {params : List Json}
    {ps : List Parameter} {imports : List String}
    (made : ofSchemas types operationId params = .ok (ps, imports)) :
    ∀ p ∈ ps, ∃ param ∈ params, ∃ names, ofSchema types operationId param = .ok (p, names) :=
  exists_of_mem_right (forall₂_madeFrom made)

/-- Linking parameters changes the mark that another one follows, and nothing else. -/
theorem exists_of_mem_link {ps : List Parameter} :
    ∀ q ∈ link ps, ∃ p ∈ ps, ∃ hasMore, q = { p with hasMore } := by
  induction ps using link.induct with
  | case1 => exact fun q member => nomatch member
  | case2 p =>
    intro q member
    rw [List.mem_singleton.1 member]
    exact ⟨p, List.mem_cons_self, false, rfl⟩
  | case3 p rest _ ih =>
    intro q member
    rw [link] at member
    · rcases List.mem_cons.1 member with rfl | member
      · exact ⟨p, List.mem_cons_self, true, rfl⟩
      · obtain ⟨p', there, hasMore, same⟩ := ih q member
        exact ⟨p', List.mem_cons_of_mem p there, hasMore, same⟩
    · assumption

end Parameter

theorem Response.ofSchemas_singleton {doc : Document} {types : TypeMap} {code : String}
    {response schema : Json} {typed : Property} {r : Response} {imports : List String}
    (plain : doc.resolve response = .ok response)
    (body : schema? doc.isOlderLayout response = some schema)
    (ofType : types.property code schema = (typed, imports))
    (same : ⟨code, response.getStr? "description", some typed.baseType, some typed⟩ = r) :
    ofSchemas doc types [(code, response)] = .ok ([r], imports) := by
  subst same
  have made : ofSchema types doc.isOlderLayout code response =
      (⟨code, response.getStr? "description", some typed.baseType, some typed⟩, imports) := by
    rw [ofSchema, body]
    dsimp only [Option.map_some, Option.getD_some]
    rw [ofType]
  refine bind_eq_ok_iff.2 ⟨response, plain, ?_⟩
  rw [made]
  show Except.ok (_, imports ++ []) = _
  rw [List.append_nil]

/-- The responses of an operation are those that are declared, with their references followed. -/
theorem Response.forall₂_declared {doc : Document} {types : TypeMap}
    {declared : List (String × Json)} {rs : List Response} {imports : List String}
    (made : ofSchemas doc types declared = .ok (rs, imports)) :
    List.Forall₂ (fun entry r => ∃ response, doc.resolve entry.2 = .ok response ∧
      r = (ofSchema types doc.isOlderLayout entry.1 response).1) declared rs := by
  induction declared generalizing rs imports with
  | nil =>
    cases made
    exact .nil
  | cons entry rest ih =>
    obtain ⟨response, resolved, made⟩ := bind_eq_ok_iff.1 made
    obtain ⟨⟨later, more⟩, following, made⟩ := bind_eq_ok_iff.1 made
    cases made
    exact .cons ⟨response, resolved, rfl⟩ (ih following)

/-- Every response comes from a declared one, with its references followed. -/
theorem Response.exists_declared_of_mem {doc : Document} {types : TypeMap}
    {declared : List (String × Json)} {rs : List Response} {imports : List String}
    (made : ofSchemas doc types declared = .ok (rs, imports)) :
    ∀ r ∈ rs, ∃ entry ∈ declared, ∃ response, doc.resolve entry.2 = .ok response ∧
      r = (ofSchema types doc.isOlderLayout r.code response).1 := by
  intro r member
  obtain ⟨entry, there, response, resolved, rfl⟩ :=
    exists_of_mem_right (forall₂_declared made) r member
  exact ⟨entry, there, response, resolved, rfl⟩

/-- Every response comes from a schema. -/
theorem Response.exists_ofSchema_of_mem {doc : Document} {types : TypeMap}
    {declared : List (String × Json)} {rs : List Response} {imports : List String}
    (made : ofSchemas doc types declared = .ok (rs, imports)) :
    ∀ r ∈ rs, ∃ response, r = (ofSchema types doc.isOlderLayout r.code response).1 := by
  intro r member
  obtain ⟨_, _, response, _, same⟩ := exists_declared_of_mem made r member
  exact ⟨response, same⟩

/-- What is known of an operation of a document. -/
structure Operation.Built (doc : Document) (types : TypeMap) (o : Operation) : Prop where
  returned : o.returnProperty = Response.returned o.responses
  returnType : o.returnType = o.returnProperty.map (·.resolvedType)
  responses : ∀ r ∈ o.responses,
    ∃ response, r = (Response.ofSchema types doc.isOlderLayout r.code response).1
  parameters : ∃ ps, o.parameters = Parameter.link ps ∧ ∀ p ∈ ps, Parameter.Built types p

/-- The parameter of a body comes from the body that the reference leads to. -/
theorem Operation.exists_ofRequestBody_of_mem {doc : Document} {types : TypeMap} {item : Json}
    {ps : List Parameter} {imports : List String}
    (made : bodyParameter doc types item = .ok (ps, imports)) :
    ∀ p ∈ ps, ∃ declared body names, item.get? "requestBody" = some declared ∧
      doc.resolve declared = .ok body ∧ Parameter.ofRequestBody types body = some (p, names) := by
  unfold bodyParameter at made
  split at made
  · cases made
    exact fun p member => nomatch member
  · next declared found =>
    obtain ⟨body, resolved, made⟩ := bind_eq_ok_iff.1 made
    split at made
    · next built =>
      cases made
      intro p member
      rw [List.mem_singleton.1 member]
      exact ⟨declared, body, _, found, resolved, built⟩
    · cases made
      exact fun p member => nomatch member

/-- The parameters of an operation are the declared ones and the one of its body. -/
theorem Operation.parameters_of_ofSchema {doc : Document} {types : TypeMap} {path method : String}
    {item : Json} {shared : List Json} {pathExtensions : Extensions} {o : Operation}
    (made : ofSchema doc types path method item shared pathExtensions = .ok o) :
    ∃ declared parameters imports body bodyImports,
      declaredParameters doc shared ((item.getArr? "parameters").getD []) = .ok declared ∧
      Parameter.ofSchemas types o.operationId declared = .ok (parameters, imports) ∧
      bodyParameter doc types item = .ok (body, bodyImports) ∧
      o.parameters = Parameter.link (parameters ++ body) := by
  obtain ⟨declared, ofOwn, made⟩ := bind_eq_ok_iff.1 made
  obtain ⟨⟨parameters, imports⟩, ofDeclared, made⟩ := bind_eq_ok_iff.1 made
  obtain ⟨⟨body, bodyImports⟩, ofBody, made⟩ := bind_eq_ok_iff.1 made
  obtain ⟨⟨responses, responseImports⟩, _, made⟩ := bind_eq_ok_iff.1 made
  cases made
  exact ⟨declared, parameters, imports, body, bodyImports, ofOwn, ofDeclared, ofBody, rfl⟩

/-- The responses of an operation are the declared ones. -/
theorem Operation.responses_of_ofSchema {doc : Document} {types : TypeMap} {path method : String}
    {item : Json} {shared : List Json} {pathExtensions : Extensions} {o : Operation}
    (made : ofSchema doc types path method item shared pathExtensions = .ok o) :
    ∃ imports, Response.ofSchemas doc types ((item.getObj? "responses").getD []) =
      .ok (o.responses, imports) := by
  obtain ⟨_, _, made⟩ := bind_eq_ok_iff.1 made
  obtain ⟨_, _, made⟩ := bind_eq_ok_iff.1 made
  obtain ⟨_, _, made⟩ := bind_eq_ok_iff.1 made
  obtain ⟨⟨responses, imports⟩, ofResponses, made⟩ := bind_eq_ok_iff.1 made
  cases made
  exact ⟨imports, ofResponses⟩

theorem Operation.built_of_ofSchema {doc : Document} {types : TypeMap} {path method : String}
    {item : Json} {shared : List Json} {pathExtensions : Extensions} {o : Operation}
    (made : ofSchema doc types path method item shared pathExtensions = .ok o) :
    Built doc types o := by
  obtain ⟨declared, parameters, imports, body, bodyImports, _, ofDeclared, ofBody, listed⟩ :=
    parameters_of_ofSchema made
  have each : ∀ p ∈ parameters ++ body, Parameter.Built types p := by
    refine List.forall_mem_append.2 ⟨fun p member => ?_, fun p member => ?_⟩
    · obtain ⟨param, _, names, here⟩ := Parameter.exists_ofSchema_of_mem ofDeclared p member
      exact .declared here
    · obtain ⟨_, resolved, names, _, _, here⟩ := exists_ofRequestBody_of_mem ofBody p member
      exact .requestBody here
  obtain ⟨_, ofResponses⟩ := responses_of_ofSchema made
  have responses := Response.exists_ofSchema_of_mem ofResponses
  obtain ⟨_, _, made⟩ := bind_eq_ok_iff.1 made
  obtain ⟨_, _, made⟩ := bind_eq_ok_iff.1 made
  obtain ⟨_, _, made⟩ := bind_eq_ok_iff.1 made
  obtain ⟨_, _, made⟩ := bind_eq_ok_iff.1 made
  cases made
  exact ⟨rfl, rfl, responses, _, listed, each⟩

/-- Every operation of a document comes from the method of a path. -/
theorem Api.exists_ofSchema_of_mem [DomainNames] {doc : Document} {types : TypeMap} {api : Api}
    (produced : ofDocument doc types = .ok api) :
    ∀ o ∈ api.operations, ∃ path method item shared pathExtensions,
      Operation.ofSchema doc types path method item shared pathExtensions = .ok o := by
  intro o member
  obtain ⟨item, methodItem, declared⟩ := declaredBy_of_ofDocument produced o member
  exact ⟨o.path, o.method, methodItem, _, _, declared.made⟩

/-- A path with nothing but one method has its operation. -/
theorem Operation.ofPath_of_method (doc : Document) (types : TypeMap) (path : String)
    {method : String} (known : method ∈ methods) (fields : List (String × Json)) :
    ofPath doc types path (.obj [(method, .obj fields)]) =
      [(method, Json.obj fields)].mapM fun (name, item) =>
        ofSchema doc types path name item [] .empty := by
  have plain : Text.hasStart "x-" method = false :=
    (show ∀ name ∈ methods, Text.hasStart "x-" name = false by decide) method known
  have extensions : Extensions.ofJson (.obj [(method, .obj fields)]) = .empty := by
    show SortedTable.ofList (List.filter _ [(method, Json.obj fields)]) = _
    rw [List.filter_cons_of_neg (by simp [plain])]
    rfl
  rw [← extensions]
  simp only [methods, List.mem_cons, List.not_mem_nil, or_false] at known
  rcases known with rfl | rfl | rfl | rfl | rfl | rfl | rfl | rfl <;> rfl

/-- A document with nothing but one method of one path has one operation. -/
theorem Api.ofDocument_of_method [DomainNames] {doc : Document} {types : TypeMap}
    {path method : String} {item : Json} {o : Operation}
    (paths : doc.paths = some [(path, .obj [(method, item)])]) (object : item.isObj)
    (known : method ∈ Operation.methods)
    (made : Operation.ofSchema doc types path method item [] .empty = .ok o) :
    ofDocument doc types = .ok ⟨doc.basePath, [o]⟩ := by
  obtain ⟨fields, isObject⟩ := Option.isSome_iff_exists.1 object
  obtain rfl := Json.eq_obj_of_asObj? isObject
  have ofPath : Operation.ofPath doc types path (.obj [(method, .obj fields)]) = .ok [o] := by
    rw [Operation.ofPath_of_method doc types path known, List.mapM_cons]
    exact bind_eq_ok_iff.2 ⟨o, made, rfl⟩
  refine bind_eq_ok_iff.2 ⟨[[o]], ?_, rfl⟩
  rw [paths, Option.getD_some, List.mapM_cons]
  exact bind_eq_ok_iff.2 ⟨_, ofPath, rfl⟩

end SchemaBinder
