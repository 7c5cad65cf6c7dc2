import SchemaBinder.Proofs.Binding.Fragments
import SchemaBinder.Proofs.Binding.Operations
import SchemaBinder.Proofs.Binding.Rebinding
import SchemaBinder.Url.PlainNames
/-!
# Binding operations again

Binding an operation again finds its types as they are, by `Property.bindAliases_again`, and the
headers of its credentials among its parameters.  The aliases of its bodies are read from their
JSON text, which stays, and their classes are written again.
-/

namespace SchemaBinder

variable {registry : TypeRegistry}

/-! ## Parameters -/

namespace Parameter

variable {p b typed : Parameter} {entity : String} {imports first more : List String}
  {symbol : Option String}

theorem bodyAlias_entity {text : String} (other : String)
    (read : bodyAlias entity text = .ok symbol) : bodyAlias other text = .ok symbol := by
  unfold bodyAlias at read ⊢
  split at read
  · cases read
  · split at read
    · exact read
    · exact read
    · cases read

theorem withBodyType_withBodyType (p : Parameter) (d : TypeDescriptor) (name : String) :
    (p.withBodyType d name).withBodyType d name = p.withBodyType d name := by
  rw [withBodyType]
  cases container : p.isContainer <;> simp [withBodyType, container, SortedTable.insert_insert]

theorem BodyBound.again (done : BodyBound registry p symbol b imports) :
    BodyBound registry b symbol b imports := by
  cases done with
  | plain => exact .plain
  | @symbol name d found =>
    have again : BodyBound registry (p.withBodyType d name) (some name)
        ((p.withBodyType d name).withBodyType d name) [d.qualifiedName] := .symbol found
    rwa [withBodyType_withBodyType] at again

/-- The element of a parameter is bound to itself, and its types stay under an alias. -/
theorem ElementBound.again (plain : registry.Plain)
    (filled : ∀ items, p.items = some items → ∀ own ∈ items.layers, own.Filled)
    (element : ElementBound registry entity p typed first)
    (name : NameBound registry typed symbol b more) (other : String) :
    ∃ typed' first', ElementBound registry other b typed' first' ∧
      NameBound registry typed' symbol b more ∧ first' ⊆ first := by
  cases element with
  | plain missing =>
    cases name with
    | plain => exact ⟨_, [], .plain missing, .plain, List.Subset.refl _⟩
    | symbol found => exact ⟨_, [], .plain missing, .symbol found, List.Subset.refl _⟩
  | element container items bindItems =>
    obtain ⟨again, rebound, known⟩ :=
      Property.bindAliases_again plain (filled _ items) bindItems (other ++ "[]")
    cases name with
    | plain => exact ⟨_, again, .element container rfl rebound, .plain, known⟩
    | symbol found => exact ⟨_, again, .element container rfl rebound, .symbol found, known⟩

/-- A bound parameter is bound to itself, whether or not another one follows it. -/
theorem bindAliases_again (plain : registry.Plain)
    (filled : ∀ items, p.items = some items → ∀ own ∈ items.layers, own.Filled)
    (done : p.bindAliases registry entity = .ok (b, imports)) (other : String) (hasMore : Bool) :
    ∃ again, ({ b with hasMore } : Parameter).bindAliases registry other =
      .ok ({ b with hasMore }, again) ∧ again ⊆ imports := by
  suffices rebound : ∃ again, Bound registry other b b again ∧ again ⊆ imports by
    obtain ⟨again, rebound, known⟩ := rebound
    exact ⟨again, bindAliases_eq_ok_iff.2 (rebound.hasMore hasMore), known⟩
  cases bindAliases_eq_ok_iff.1 done with
  | @body symbol _ _ isBody read done =>
    have kept := done.kept isBody
    have readAgain : b.bodySymbol other = .ok symbol := by
      rw [bodySymbol, kept.rawSchema]
      unfold bodySymbol at read
      split at read
      · exact read
      · exact bodyAlias_entity other read
    exact ⟨imports, .body (kept.isBody.trans isBody) readAgain done.again, List.Subset.refl _⟩
  | @field symbol typed _ first more notBody element read name =>
    obtain ⟨typed', first', element', name', known⟩ := element.again plain filled name other
    have typedField : typed.isBody = false := element.kept.isBody.trans notBody
    have boundField : b.isBody = false := name.kept.isBody.trans typedField
    have readAgain : typed'.extensions.symbolicType typed'.declaredType typed'.format other =
        .ok symbol := by
      rw [element'.kept.extensions boundField, element'.kept.declaredType, element'.kept.format,
        name.kept.extensions typedField, name.kept.declaredType, name.kept.format]
      exact Extensions.symbolicType_entity other read
    refine ⟨first' ++ more, .field boundField element' readAgain name', ?_⟩
    exact List.append_subset.2
      ⟨List.subset_append_of_subset_left more known, List.subset_append_right first more⟩

end Parameter

/-! ## Responses and return types -/

namespace Response

theorem Bound.again (plain : registry.Plain) {r b : Response}
    (filled : ∀ schema, r.schema = some schema → ∀ own ∈ schema.layers, own.Filled)
    {entity : String} {imports : List String} (done : Bound registry entity r b imports)
    (other : String) : ∃ again, Bound registry other b b again ∧ again ⊆ imports := by
  cases done with
  | plain missing => exact ⟨[], .plain missing, List.Subset.refl _⟩
  | body there bindSchema =>
    obtain ⟨again, rebound, known⟩ :=
      Property.bindAliases_again plain (filled _ there) bindSchema other
    exact ⟨again, .body rfl rebound, known⟩

end Response

namespace Operation

/-- The layers of the typed parts of an operation. -/
def layers (o : Operation) : List Layer :=
  o.properties.flatMap (·.layers)

variable {o o' : Operation} {imports : List String}

theorem ReturnBound.again (plain : registry.Plain)
    (filled : ∀ p, o.returnProperty = some p → ∀ own ∈ p.layers, own.Filled)
    {returnProperty : Option Property} {returnType : Option String}
    (done : ReturnBound registry o returnProperty returnType imports)
    (same : o'.returnProperty = returnProperty) :
    ∃ again, ReturnBound registry o' returnProperty returnType again ∧ again ⊆ imports := by
  cases done with
  | plain => exact ⟨[], .plain same, List.Subset.refl _⟩
  | value there bindReturn =>
    obtain ⟨again, rebound, known⟩ := Property.bindAliases_again plain (filled _ there) bindReturn
      (o'.operationId ++ ".return")
    exact ⟨again, .value same rebound, known⟩

/-- Linked parameters are bound to themselves if each comes from a bound one or is the header of a
credential. -/
theorem bindEach_link_again (plain : registry.Plain)
    (filled : ∀ p ∈ o.parameters, ∀ items, p.items = some items →
      ∀ own ∈ items.layers, own.Filled)
    {bs ps : List Parameter}
    (done : Parameter.bindEach registry o.operationId o.parameters = .ok (bs, imports))
    (origin : ∀ p ∈ ps, p ∈ bs ∨ ∃ name description, p = .securityHeader name description) :
    ∃ again, Parameter.bindEach registry o.operationId (Parameter.link ps) =
      .ok (Parameter.link ps, again) ∧ again ⊆ imports := by
  rw [Parameter.bindEach_eq] at done
  rw [Parameter.bindEach_eq]
  refine bindParts_of_fixed fun q member => ?_
  -- no step reads the mark, so it does not matter that linking has set it
  obtain ⟨p, there, hasMore, rfl⟩ := Parameter.exists_of_mem_link q member
  rcases origin p there with bound | ⟨name, description, rfl⟩
  · obtain ⟨p', declared, names, bindOne, known⟩ := mem_of_bindParts done p bound
    obtain ⟨again, rebound, knownAgain⟩ := Parameter.bindAliases_again plain
      (filled p' declared) bindOne (o.operationId ++ "." ++ p.name) hasMore
    exact ⟨again, rebound, List.Subset.trans knownAgain known⟩
  · have header := Parameter.bound_securityHeader registry (o.operationId ++ "." ++ name) name
      description
    exact ⟨[], Parameter.bindAliases_eq_ok_iff.2 (header.hasMore hasMore), List.nil_subset imports⟩

theorem bindEach_responses_again (plain : registry.Plain) (typed : o.Typed)
    (filled : ∀ r ∈ o.responses, ∀ schema, r.schema = some schema →
      ∀ own ∈ schema.layers, own.Filled)
    {rs : List Response}
    (done : Response.bindEach registry o.operationId o.responses = .ok (rs, imports)) :
    ∃ again, Response.bindEach registry o.operationId rs = .ok (rs, again) ∧ again ⊆ imports := by
  rw [Response.bindEach_eq] at done
  rw [Response.bindEach_eq]
  refine bindParts_of_fixed fun r member => ?_
  obtain ⟨r', declared, names, bindOne, known⟩ := mem_of_bindParts done r member
  have typed := typed.responses r' declared
  have bound := (Response.bindAliases_eq_ok_iff typed).1 bindOne
  obtain ⟨again, rebound, knownAgain⟩ :=
    bound.again plain (filled r' declared) (o.operationId ++ "." ++ r.code)
  exact ⟨again, (Response.bindAliases_eq_ok_iff (bound.typed typed)).2 rebound,
    List.Subset.trans knownAgain known⟩

/-- No header is added twice, and the marks are as they should be. -/
theorem withHeaders_link (options : OperationOptions) (methods : List AuthMethod)
    (ps : List Parameter) :
    withHeaders options methods (Parameter.link (withHeaders options methods ps)) =
      Parameter.link (withHeaders options methods ps) := by
  unfold withHeaders
  split
  · refine Parameter.addHeaders_of_carried fun m member name named => ?_
    rw [Parameter.any_isHeader_link]
    exact (Parameter.carried_addHeaders ps methods).2 m member name named
  · rfl

theorem bound_again (plain : registry.Plain) (typed : o.Typed)
    (filled : ∀ own ∈ o.layers, own.Filled) {options : OperationOptions}
    {basePath : Option String} (done : o.bound registry options basePath = .ok o') :
    o'.bound registry options basePath = .ok o' := by
  have filledPart : ∀ p ∈ o.properties, ∀ own ∈ p.layers, own.Filled :=
    fun p part own layer => filled own (List.mem_flatMap.2 ⟨p, part, layer⟩)
  obtain ⟨returnProperty, returnType, imports, responses, responseImports, parameters,
    parameterImports, bindReturn, bindResponses, bindParameters, same⟩ := bound_eq_ok_iff.1 done
  have returns := (boundReturn_eq_ok_iff typed.returned).1 bindReturn
  obtain ⟨againReturn, reboundReturn, knownReturn⟩ := returns.again plain
    (fun p returned => filledPart p (mem_properties.2 (.inl returned)))
    (congrArg Operation.returnProperty same)
  obtain ⟨againResponses, reboundResponses, knownResponses⟩ := bindEach_responses_again plain typed
    (fun r member schema named =>
      filledPart schema (mem_properties.2 (.inr (.inl ⟨r, member, named⟩)))) bindResponses
  obtain ⟨againParameters, reboundParameters, knownParameters⟩ := bindEach_link_again plain
    (fun p member items named =>
      filledPart items (mem_properties.2 (.inr (.inr ⟨p, member, named⟩)))) bindParameters
    (@mem_withHeaders options o.authMethods _)
  subst same
  refine bound_eq_ok_iff.2 ⟨returnProperty, returnType, againReturn, responses, againResponses, _,
    againParameters, (boundReturn_eq_ok_iff returns.typed).2 reboundReturn, reboundResponses,
    reboundParameters, ?_⟩
  have noImport : (o.imports.extend (imports ++ responseImports ++ parameterImports)).extend
      (againReturn ++ againResponses ++ againParameters) =
      o.imports.extend (imports ++ responseImports ++ parameterImports) := by
    refine ImportSet.extend_of_subset fun name member => ImportSet.mem_extend.2 (.inr ?_)
    simp only [List.mem_append] at member ⊢
    exact member.imp (Or.imp (@knownReturn name) (@knownResponses name)) (@knownParameters name)
  have sameParameters : Parameter.link (withHeaders options o.authMethods
      (Parameter.link (withHeaders options o.authMethods parameters))) =
      Parameter.link (withHeaders options o.authMethods parameters) := by
    rw [withHeaders_link, Parameter.link_link]
  exact (congrArg₂ (fun parameters imports => { o with
    returnType, returnProperty, responses, parameters, groupKey := o.group basePath, imports })
    sameParameters noImport).symm

end Operation

/-- When the operations of a document have been bound, binding them again with the same registry and
options succeeds and leaves all of them exactly as they are: types, parameters with their headers
and marks, groups and imports.  No alias may have a bracket, every class must be raw, and type
arguments that are given must not be none. -/
theorem Api.rebinding_operations_changes_nothing [DomainNames] (doc : Document) (types : TypeMap)
    (api : Api)
    (produced : ofDocument doc types = .ok api) (registry : TypeRegistry) (plain : registry.Plain)
    (filled : ∀ o ∈ api.operations, ∀ own ∈ o.layers, own.Filled) (options : OperationOptions)
    (allBound : (bindAll registry options api).fault = none) :
    bindAll registry options { api with operations := (bindAll registry options api).elements } =
      ⟨(bindAll registry options api).elements, none⟩ := by
  have commits := Operation.commits_bindAndGroup registry options (options.rootPath api.basePath)
  refine Progress.ofEach_of_fixed commits fun o' member => ?_
  obtain ⟨o, declared, bound⟩ := Progress.exists_bound_of_mem commits allBound o' member
  obtain ⟨path, method, item, shared, pathExtensions, made⟩ :=
    exists_ofSchema_of_mem produced o declared
  exact Operation.bound_again plain (Operation.built_of_ofSchema made).typed (filled o declared)
    bound

/-- The schema of an alias. -/
def priceSchema : Json := .obj [("type", .str "string"), ("x-type", .str "Money")]

/-- A body with that alias. -/
def priceObject : Json :=
  .obj [("name", .str "price"), ("in", .str "body"), ("schema", priceSchema)]

/-- A schema with type arguments. -/
def pageSchema : Json :=
  .obj [("$ref", .str "#/definitions/Page"), ("x-typeTemplateArgs", .str "Amount")]

/-- An operation with the body, with this schema in a response, and with a key. -/
def pagedMethod : Json :=
  .obj [("operationId", .str "add"), ("security", .arr [.obj [("key", .arr [])]]),
    ("parameters", .arr [priceObject]),
    ("responses", .obj [("200", .obj [("schema", pageSchema)])])]

/-- A document with this operation, whose key is in a header. -/
def pagedDocument : Document :=
  ⟨.obj [("swagger", .str "2.0"),
    ("securityDefinitions", .obj [("key", .obj [("type", .str "apiKey"), ("in", .str "header"),
      ("name", .str "X-Key")])]),
    ("paths", .obj [("/pages", .obj [("post", pagedMethod)])])]⟩

/-- The body as a parameter of a type. -/
def price (type : String) : Parameter :=
  { Parameter.plain "price" .body type type with
    declaredType := "string"
    isPrimitive := true
    rawSchema := some priceObject.render
    extensions := .ofList [(Extensions.typeKey, .str "Money")] }

/-- The type of the response. -/
def page : Property :=
  .leaf { Layer.plain "200" "object" "Page" with
    extensions := .ofList [(Extensions.argumentsKey, .str "Amount")] }

/-- The operation of the document. -/
def pagedOperation : Operation where
  operationId := "add"
  method := "post"
  path := "/pages"
  summary := none
  returnType := some "Page"
  returnProperty := some page
  responses := [⟨"200", none, some "Page", some page⟩]
  parameters := [price "String"]
  authMethods := [⟨"key", .apiKey, some "X-Key", some .header, none⟩]
  groupKey := "/pages"
  pathExtensions := .empty
  extensions := .empty
  imports := .empty

theorem pagedDocument_operations [DomainNames] :
    Api.ofDocument pagedDocument ⟨.standard, .plain⟩ = .ok ⟨none, [pagedOperation]⟩ := by
  let types : TypeMap := ⟨.standard, .plain⟩
  have ofPrice : types.property "price" priceSchema =
      (.leaf { Layer.plain "price" "string" "String" with
        extensions := .ofList [(Extensions.typeKey, .str "Money")] }, []) :=
    types.property_of_leaf "price" rfl
  have ofPage : types.property "200" pageSchema = (page, []) := types.property_of_leaf "200" rfl
  have declared : Parameter.ofSchemas types "add" [priceObject] = .ok ([price "String"], []) :=
    Parameter.ofSchemas_singleton rfl rfl ofPrice rfl
  have responses : Response.ofSchemas pagedDocument types
      [("200", .obj [("schema", pageSchema)])] = .ok (pagedOperation.responses, []) :=
    Response.ofSchemas_singleton rfl rfl ofPage rfl
  have method : Operation.ofSchema pagedDocument types "/pages" "post" pagedMethod [] .empty =
      .ok pagedOperation :=
    bind_eq_ok_iff.2 ⟨[priceObject], rfl, bind_eq_ok_iff.2 ⟨_, declared,
      bind_eq_ok_iff.2 ⟨([], []), rfl, bind_eq_ok_iff.2 ⟨_, responses, rfl⟩⟩⟩⟩
  exact Api.ofDocument_of_method rfl rfl (by decide) method

theorem bindAliases_price :
    (price "String").bindAliases Model.pagedTypes "add.price" =
      .ok (price "Money", ["acme.Money"]) := by
  have read : Json.read? priceObject.render = some priceObject :=
    Json.read?_render (by decide) (by decide) (by decide)
  rw [Parameter.bindAliases_of_rawSchema rfl rfl read]
  rfl

/-- The body gets the class of its alias, and the header of the key follows it once. -/
theorem Api.rebinding_operations_changes_nothing_paged :
    ofDocument pagedDocument ⟨.standard, .plain⟩ = .ok ⟨none, [pagedOperation]⟩ ∧
      (bindAll Model.pagedTypes ⟨true, false⟩ ⟨none, [pagedOperation]⟩).fault = none ∧
      (bindAll Model.pagedTypes ⟨true, false⟩ ⟨none, [pagedOperation]⟩).elements.map
        (fun o => (o.returnType, o.parameters.map fun p => (p.name, p.resolvedType, p.hasMore))) =
          [(some "Page<Money>", [("price", "Money", true), ("X-Key", "String", false)])] ∧
      bindAll Model.pagedTypes ⟨true, false⟩
          ⟨none, (bindAll Model.pagedTypes ⟨true, false⟩ ⟨none, [pagedOperation]⟩).elements⟩ =
        ⟨(bindAll Model.pagedTypes ⟨true, false⟩ ⟨none, [pagedOperation]⟩).elements, none⟩ := by
  have produced := pagedDocument_operations
  have parameters : Parameter.bindEach Model.pagedTypes "add" pagedOperation.parameters =
      .ok ([price "Money"], ["acme.Money"]) :=
    bind_eq_ok_iff.2 ⟨_, bindAliases_price, rfl⟩
  have bound : ∃ o, pagedOperation.bound Model.pagedTypes ⟨true, false⟩ none = .ok o ∧
      (o.returnType, o.parameters.map fun p => (p.name, p.resolvedType, p.hasMore)) =
        (some "Page<Money>", [("price", "Money", true), ("X-Key", "String", false)]) :=
    ⟨_, Operation.bound_eq_ok_iff.2 ⟨_, _, _, _, _, _, _, rfl, rfl, parameters, rfl⟩, by decide⟩
  obtain ⟨o, bound, typed⟩ := bound
  have all : bindAll Model.pagedTypes ⟨true, false⟩ ⟨none, [pagedOperation]⟩ = ⟨[o], none⟩ :=
    Progress.ofEach_cons_of_ok (Operation.commits_bindAndGroup _ _ _) [] bound
  have plain : Model.pagedTypes.Plain := TypeRegistry.plain_of_entries (by decide)
  have filled : ∀ o ∈ [pagedOperation], ∀ own ∈ o.layers, own.Filled := by
    unfold Layer.Filled
    decide
  have allBound : (bindAll Model.pagedTypes ⟨true, false⟩ ⟨none, [pagedOperation]⟩).fault = none :=
    congrArg (·.fault) all
  refine ⟨produced, allBound, ?_, rebinding_operations_changes_nothing _ _ _ produced _ plain
    filled _ allBound⟩
  rw [all, List.map_singleton, typed]

end SchemaBinder
