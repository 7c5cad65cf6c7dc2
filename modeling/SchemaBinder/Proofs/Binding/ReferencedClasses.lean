import SchemaBinder.Proofs.Binding.Elements
import SchemaBinder.Proofs.Fields
import SchemaBinder.Proofs.References
import SchemaBinder.Url.PlainNames
/-!
# The classes of references

A schema that is a reference and nothing else has the class that the reference names, whether it
stands alone or for the elements of a container.  This class is what is looked up when aliases are
bound (`Property.OfClass.bound`), so `references_take_class_alias` says, for all fields and responses
of a document, that what is a reference takes the class registered under its own class.

Without an ending of models that is the name of the schema.  With an ending it is not, and an alias
with the name of the schema is not found (`alias_missed_with_ending`).
-/

namespace SchemaBinder

/-! ## Schemas that hold a reference -/

namespace TypeMap

/-- The schema, or what it contains in any number of containers, is a reference and nothing else. -/
inductive Holds (reference : String) : Json → Prop where
  | plain : Holds reference (.obj [("$ref", .str reference)])
  | element {schema e : Json} {kind : ContainerKind} : element? schema = some (kind, e) →
      Holds reference e → Holds reference schema

/-- The class that a reference names. -/
def referredClass (types : TypeMap) (reference : String) : String :=
  types.names.modelName (Naming.refName reference)

end TypeMap

namespace Property

/-- The innermost layer has nothing but a class. -/
inductive OfClass (type : String) : Property → Prop where
  | leaf (name : String) (required : Bool) :
      OfClass type (.leaf { Layer.plain name "object" type with required })
  | nest (own : Layer) {element : Property} : OfClass type element →
      OfClass type (.nest own element)

variable {types : TypeMap} {registry : TypeRegistry} {p b : Property} {type entity : String}
  {imports : List String}

theorem ofClass_of_holds {reference : String} {schema : Json} (types : TypeMap) (name : String)
    (holds : TypeMap.Holds reference schema) :
    (types.property name schema).1.OfClass (types.referredClass reference) := by
  induction holds with
  | plain =>
    have noExtension : Extensions.ofJson (.obj [("$ref", .str reference)]) = .empty := by
      show SortedTable.ofList (List.filter _ [("$ref", Json.str reference)]) = _
      rw [List.filter_cons_of_neg (by simp [show Text.hasStart "x-" "$ref" = false by decide])]
      rfl
    rw [types.property_of_leaf name rfl, noExtension]
    exact .leaf name false
  | element container _ ih =>
    rw [types.property_of_element name container]
    exact .nest _ ih

theorem OfClass.mapOwn (ofClass : p.OfClass type) (required : Bool) :
    (p.mapOwn ({ · with required })).OfClass type := by
  cases ofClass with
  | leaf name => exact .leaf name required
  | nest _ element => exact .nest _ element

/-- The innermost layer takes the class that is registered under its class. -/
theorem OfClass.bound (ofClass : p.OfClass type)
    (done : p.bindAliases registry entity = .ok (b, imports)) :
    b.elementType = (registry.substitute type).1 ∧ (registry.substitute type).2 ⊆ imports := by
  induction ofClass generalizing b entity imports with
  | leaf name required =>
    obtain ⟨bound, bindLayer, rfl⟩ := bindAliases_leaf_eq_ok_iff.1 done
    obtain ⟨symbol, found, ⟨readSymbol, readArguments⟩, ⟨bindName, bindArguments⟩⟩ :=
      Layer.bindAliases_eq_ok_iff.1 bindLayer
    have noAlias : Extensions.symbolicType "object" none .empty entity = .ok none :=
      if_neg (by decide)
    cases noAlias.symm.trans readSymbol
    cases readArguments
    cases bindArguments
    rw [List.append_nil, elementType, TypeRegistry.substitute]
    cases bindName with
    | container container => cases container
    | known _ found => rw [show registry.get? type = _ from found]; simp
    | unknown _ missing => rw [show registry.get? type = _ from missing]; simp [Layer.plain]
  | nest own _ ih =>
    obtain ⟨⟨element, names⟩, bindElement, done⟩ := bind_eq_ok_iff.1 done
    obtain ⟨⟨bound, more⟩, _, done⟩ := bind_eq_ok_iff.1 done
    cases done
    obtain ⟨elementType, known⟩ := ih bindElement
    exact ⟨elementType, List.subset_append_of_subset_left more known⟩

end Property

/-! ## Fields and responses -/

/-- A bound property of a schema.  If the schema holds a reference, then the innermost element has
the class that is registered under the class of the reference, which is imported; if there is none, it
has the class of the reference. -/
def Property.TakesClass (types : TypeMap) (registry : TypeRegistry) (imports : List String)
    (schema : Json) (b : Property) : Prop :=
  ∀ reference, TypeMap.Holds reference schema →
    b.elementType = (registry.substitute (types.referredClass reference)).1 ∧
      (registry.substitute (types.referredClass reference)).2 ⊆ imports

namespace Model

variable {doc : Document} {types : TypeMap} {registry : TypeRegistry} {m b : Model}

/-- The fields that a schema declares. -/
def declaredFields (schema : Json) : List (String × Json) := (schema.getObj? "properties").getD []

/-- The fields of a model are those that its schema and the other members declare. -/
theorem forall₂_declaredFields {name : String} {schema : Json}
    (made : ofSchema doc types name schema = .ok m) :
    ∃ others, (addingMembers schema).mapM doc.resolve = .ok others ∧
      List.Forall₂ (fun field p => ∃ required,
          p = (types.property field.1 field.2).1.mapOwn ({ · with required }))
        ((schema :: others).flatMap declaredFields) m.properties := by
  obtain ⟨⟨parent, others⟩, parted, made⟩ := bind_eq_ok_iff.1 made
  cases made
  refine ⟨others, mapM_of_members parted, ?_⟩
  show List.Forall₂ _ _ (((schema :: others).flatMap (memberFields types)).map (·.1))
  rw [List.map_flatMap]
  induction schema :: others with
  | nil => exact .nil
  | cons declaring rest ih =>
    rw [List.flatMap_cons, List.flatMap_cons]
    refine List.rel_append ?_ ih
    rw [memberFields, List.map_map, List.forall₂_map_right_iff]
    exact List.forall₂_same.2 fun field _ => ⟨_, rfl⟩

/-- What binding makes of a model of the document: each field that its schema and the other members
declare becomes a bound property. -/
def FieldsTakeClass (doc : Document) (types : TypeMap) (registry : TypeRegistry) (m b : Model) :
    Prop :=
  ∃ schema others, m.DeclaredBy doc schema others ∧
    List.Forall₂ (fun field p => p.TakesClass types registry b.imports.names field.2)
      ((schema :: others).flatMap declaredFields) b.properties

theorem forall₂_takesClass {name : String} {schema : Json}
    (made : ofSchema doc types name schema = .ok m) (done : m.bound registry = .ok b) :
    ∃ others, (addingMembers schema).mapM doc.resolve = .ok others ∧
      List.Forall₂ (fun field p => p.TakesClass types registry b.imports.names field.2)
        ((schema :: others).flatMap declaredFields) b.properties := by
  obtain ⟨others, members, fields⟩ := forall₂_declaredFields made
  obtain ⟨⟨parent, parentImports⟩, _, done⟩ := bind_eq_ok_iff.1 done
  obtain ⟨⟨properties, imports⟩, bindFields, done⟩ := bind_eq_ok_iff.1 done
  cases done
  rw [boundFields_eq] at bindFields
  refine ⟨others, members, ?_⟩
  refine (forall₂_comp fields (forall₂_of_bindParts bindFields)).imp ?_
  rintro field b ⟨_, ⟨required, rfl⟩, names, bindOne, known⟩ reference holds
  obtain ⟨type, imported⟩ :=
    ((Property.ofClass_of_holds types field.1 holds).mapOwn required).bound bindOne
  refine ⟨type, fun name member => ImportSet.mem_extend.2 (.inr ?_)⟩
  exact List.mem_append_right parentImports (known (imported member))

end Model

namespace Response

variable {doc : Document} {types : TypeMap} {registry : TypeRegistry}

/-- The declared response whose body an operation returns. -/
def returnedEntry? (declared : List (String × Json)) : Option (String × Json) :=
  (declared.find? fun entry => Text.hasStart "2" entry.1).or
    (declared.find? (·.1 == "default"))

/-- The first element whose code starts with `2`, or else the first with the code `default`. -/
def first? {α : Type} (code : α → String) (l : List α) : Option α :=
  (l.find? fun a => Text.hasStart "2" (code a)).or (l.find? fun a => code a == "default")

theorem returned_eq_first? (rs : List Response) :
    returned rs = (first? (·.code) rs).bind (·.schema) := by
  rw [returned, first?]
  cases rs.find? fun r => Text.hasStart "2" r.code <;> rfl

theorem rel_first? {α β : Type} {R : α → β → Prop} {code : α → String} {code' : β → String}
    {as : List α} {bs : List β} (each : List.Forall₂ R as bs)
    (coded : ∀ a b, R a b → code' b = code a) :
    Option.Rel R (first? code as) (first? code' bs) :=
  rel_or (rel_find? each coded (Text.hasStart "2")) (rel_find? each coded (· == "default"))

theorem returned_of_forall₂ {R : String × Json → Response → Prop}
    {declared : List (String × Json)} {rs : List Response} (each : List.Forall₂ R declared rs)
    (coded : ∀ entry r, R entry r → r.code = entry.1) :
    ∀ entry, returnedEntry? declared = some entry → ∃ r, R entry r ∧ returned rs = r.schema := by
  intro entry found
  have answers : Option.Rel R (some entry) (first? (·.code) rs) := found ▸ rel_first? each coded
  rw [returned_eq_first?]
  cases answer : first? (·.code) rs with
  | none =>
    rw [answer] at answers
    cases answers
  | some r =>
    rw [answer] at answers
    cases answers with
    | some here => exact ⟨r, here, rfl⟩

/-- The bound property of the body of a declared response, if it has one. -/
def BodyTakesClass (doc : Document) (types : TypeMap) (registry : TypeRegistry)
    (imports : List String) (entry : String × Json) (body : Option Property) : Prop :=
  ∃ response, doc.resolve entry.2 = .ok response ∧
    Option.Rel (fun schema b => b.TakesClass types registry imports schema)
      (schema? doc.isOlderLayout response) body

theorem bodyTakesClass_of_bound {entry : String × Json} {response : Json} {entity : String}
    {names imports : List String} {body : Option Property}
    (resolved : doc.resolve entry.2 = .ok response)
    (done : Option.Rel (fun p b => p.bindAliases registry entity = .ok (b, names))
      (ofSchema types doc.isOlderLayout entry.1 response).1.schema body)
    (known : names ⊆ imports) : BodyTakesClass doc types registry imports entry body := by
  refine ⟨response, resolved, ?_⟩
  replace done : Option.Rel _ (((schema? doc.isOlderLayout response).map
    (types.property entry.1)).map (·.1)) _ := done
  cases found : schema? doc.isOlderLayout response with
  | none =>
    rw [found] at done
    cases done
    exact .none
  | some schema =>
    rw [found] at done
    cases done with
    | some bindBody =>
      refine .some fun reference holds => ?_
      obtain ⟨type, imported⟩ := (Property.ofClass_of_holds types entry.1 holds).bound bindBody
      exact ⟨type, List.Subset.trans imported known⟩

theorem Outcome.rel_schema {r b : Response} {entity : String} {imports : List String}
    (done : Outcome registry entity r b imports) :
    Option.Rel (fun p b => p.bindAliases registry entity = .ok (b, imports)) r.schema b.schema := by
  cases done with
  | body there bindSchema =>
    rw [there]
    exact .some bindSchema
  | name missing =>
    show Option.Rel _ r.schema r.schema
    rw [missing]
    exact .none

end Response

namespace Operation

variable {doc : Document} {types : TypeMap} {registry : TypeRegistry} {o b : Operation}

theorem ReturnOutcome.rel_returnProperty {returnProperty : Option Property}
    {returnType : Option String} {imports : List String}
    (done : ReturnOutcome registry o returnProperty returnType imports) :
    Option.Rel (fun p b => p.bindAliases registry (o.operationId ++ ".return") = .ok (b, imports))
      o.returnProperty returnProperty := by
  cases done with
  | value there bindReturn =>
    rw [there]
    exact .some bindReturn
  | name missing =>
    rw [missing]
    exact .none

/-- What binding makes of the operation of a method: each body of a response that the method declares
becomes a bound property, and so does the one that the operation returns. -/
structure BodiesTakeClass (doc : Document) (types : TypeMap) (registry : TypeRegistry)
    (methodItem : Json) (b : Operation) : Prop where
  responses : List.Forall₂ (fun entry (r : Response) =>
      Response.BodyTakesClass doc types registry b.imports.names entry r.schema)
    ((methodItem.getObj? "responses").getD []) b.responses
  returned : ∀ entry,
    Response.returnedEntry? ((methodItem.getObj? "responses").getD []) = some entry →
      Response.BodyTakesClass doc types registry b.imports.names entry b.returnProperty

theorem DeclaredBy.bodiesTakeClass_of_bound {item methodItem : Json} {options : OperationOptions}
    {basePath : Option String} (declared : o.DeclaredBy doc types item methodItem)
    (done : o.bound registry options basePath = .ok b) :
    BodiesTakeClass doc types registry methodItem b := by
  obtain ⟨_, made⟩ := responses_of_ofSchema declared.made
  have ofEntries := Response.forall₂_declared made
  have returned := (built_of_ofSchema declared.made).returned
  obtain ⟨returnProperty, returnType, imports, responses, responseImports, parameters,
    parameterImports, bindReturn, bindResponses, _, rfl⟩ := bound_eq_ok_iff.1 done
  rw [Response.bindEach_eq] at bindResponses
  have known {name : String} (there : name ∈ imports ++ responseImports ++ parameterImports) :
      name ∈ (o.imports.extend (imports ++ responseImports ++ parameterImports)).names :=
    ImportSet.mem_extend.2 (.inr there)
  constructor
  · refine (forall₂_comp ofEntries (forall₂_of_bindParts bindResponses)).imp ?_
    rintro entry b ⟨r, ⟨response, resolved, rfl⟩, names, bindOne, among⟩
    have outcome := (Response.bindAliases_eq_ok_iff_outcome.1 bindOne).rel_schema
    refine Response.bodyTakesClass_of_bound resolved outcome fun name member => known ?_
    exact List.mem_append_left _ (List.mem_append_right _ (among member))
  · intro entry found
    have coded : ∀ (entry : String × Json) (r : Response),
        (∃ response, doc.resolve entry.2 = .ok response ∧
          r = (Response.ofSchema types doc.isOlderLayout entry.1 response).1) →
        r.code = entry.1 := by
      rintro entry _ ⟨response, _, rfl⟩
      rfl
    obtain ⟨r, ⟨response, resolved, rfl⟩, same⟩ :=
      Response.returned_of_forall₂ ofEntries coded entry found
    have outcome := (boundReturn_eq_ok_iff_outcome.1 bindReturn).rel_returnProperty
    rw [returned, same] at outcome
    refine Response.bodyTakesClass_of_bound resolved outcome fun name member => known ?_
    exact List.mem_append_left _ (List.mem_append_left _ member)

end Operation

/-! ## Documents -/

/-- When the models of a document have been bound, then every field whose schema holds a reference has
the class that is registered under the class of the reference, and imports it; and so has every
response, and what an operation returns, when the operations have been bound.  Under an ending of
models this class is made from the name of the schema, and without one it is the name. -/
theorem references_take_class_alias [DomainNames] (doc : Document) (types : TypeMap)
    (registry : TypeRegistry) :
    (∀ models, Model.ofDocument doc types = .ok models → (Model.bindAll registry models).fault = none →
      List.Forall₂ (Model.FieldsTakeClass doc types registry) models
        (Model.bindAll registry models).elements) ∧
    (∀ options api, Api.ofDocument doc types = .ok api →
      (Api.bindAll registry options api).fault = none →
      List.Forall₂ (fun o b => ∃ item methodItem, o.DeclaredBy doc types item methodItem ∧
          b.BodiesTakeClass doc types registry methodItem)
        api.operations (Api.bindAll registry options api).elements) ∧
    ∀ reference name, doc.Addresses reference name →
      ¬ Json.HasEscape (Naming.refName reference).toList →
      (types.names.modelSuffix = none → types.referredClass reference = name) ∧
        ∀ suffix, types.names.modelSuffix = some suffix →
          types.referredClass reference = Naming.typeName name ++ suffix := by
  refine ⟨fun models made allBound => ?_, fun options api made allBound => ?_,
    fun reference name addresses plain => ⟨fun noEnding => ?_, fun suffix ending => ?_⟩⟩
  · have bound := Progress.bound_of_no_fault (Model.commits_bindAliases registry) allBound
    refine ((List.forall₂_and_left _ _).2 ⟨Model.exists_schema_of_mem made, bound⟩).imp ?_
    rintro m b ⟨⟨entry, listed, schema, resolved, ofSchema⟩, done⟩
    obtain ⟨others, members, fields⟩ := Model.forall₂_takesClass ofSchema done
    obtain ⟨named, _⟩ := Model.namesOfFields_of_ofSchema ofSchema
    refine ⟨schema, others, ⟨⟨entry.2, ?_, resolved⟩, members⟩, fields⟩
    rwa [named]
  · have commits :=
      Operation.commits_bindAndGroup registry options (options.rootPath api.basePath)
    have bound := Progress.bound_of_no_fault commits allBound
    refine ((List.forall₂_and_left _ _).2 ⟨Api.declaredBy_of_ofDocument made, bound⟩).imp ?_
    rintro o b ⟨⟨item, methodItem, declared⟩, done⟩
    exact ⟨item, methodItem, declared, declared.bodiesTakeClass_of_bound done⟩
  · rw [TypeMap.referredClass, (Document.refName_eq_iff addresses).2 plain, NamePolicy.modelName,
      noEnding]
  · rw [TypeMap.referredClass, (Document.refName_eq_iff addresses).2 plain, NamePolicy.modelName,
      ending]

/-! ## An alias with the name of a schema -/

/-- The schema of receipts. -/
def receiptSchema : Json := .obj [("$ref", .str "#/definitions/Receipt")]

/-- A method with a receipt as its response. -/
def receiptMethod : Json :=
  .obj [("operationId", .str "order"),
    ("responses", .obj [("201", .obj [("schema", receiptSchema)])])]

/-- The schema of orders, which have a list of receipts. -/
def orderSchema : Json := .obj [("properties", .obj [("receipts", Parameter.listSchema receiptSchema)])]

/-- A document with these schemas. -/
def receiptDocument : Document :=
  ⟨.obj [("swagger", .str "2.0"),
    ("definitions", .obj [("Receipt", .obj []), ("Order", orderSchema)]),
    ("paths", .obj [("/orders", .obj [("post", receiptMethod)])])]⟩

/-- The registry in which receipts are vouchers. -/
def voucherTypes : TypeRegistry := .ofList [⟨"Receipt", "acme.Voucher"⟩]

/-- The models of the document, where its schemas have these classes. -/
def receiptModels (receipt order : String) : List Model :=
  [⟨"Receipt", receipt, none, [], none, .empty, .empty⟩,
    ⟨"Order", order, none, [.nest { Layer.plain "receipts" "array" ("List<" ++ receipt ++ ">") with
        baseType := receipt
        container := some .list } (.leaf (Layer.plain "receipts" "object" receipt))],
      none, .empty, ⟨["java.util.List"]⟩⟩]

/-- The operation of the document. -/
def receiptOperation (receipt : String) : Operation where
  operationId := "order"
  method := "post"
  path := "/orders"
  summary := none
  returnType := some receipt
  returnProperty := some (.leaf (Layer.plain "201" "object" receipt))
  responses := [⟨"201", none, some receipt, some (.leaf (Layer.plain "201" "object" receipt))⟩]
  parameters := []
  authMethods := []
  groupKey := "/orders"
  pathExtensions := .empty
  extensions := .empty
  imports := .empty

theorem property_receiptSchema (types : TypeMap) (name : String) :
    types.property name receiptSchema =
      (.leaf (Layer.plain name "object" (types.names.modelName "Receipt")), []) := by
  rw [types.property_of_leaf name rfl]
  rfl

theorem receiptDocument_models (types : TypeMap) : Model.ofDocument receiptDocument types =
    .ok (receiptModels (types.names.modelName "Receipt") (types.names.modelName "Order")) := by
  let receiptList := Parameter.listSchema receiptSchema
  have receipts : types.property "receipts" receiptList =
      (.nest { Layer.plain "receipts" "array"
            (ContainerKind.list.wrap (types.names.modelName "Receipt")) with
          baseType := types.names.modelName "Receipt"
          container := some .list }
        (.leaf (Layer.plain "receipts" "object" (types.names.modelName "Receipt"))),
        ["java.util.List"]) := by
    have container : TypeMap.element? receiptList = some (.list, receiptSchema) := rfl
    rw [types.property_of_element "receipts" container, property_receiptSchema]
    rfl
  have made : Model.ofDocument receiptDocument types =
      .ok [⟨"Receipt", types.names.modelName "Receipt", none, [], none, .empty, .empty⟩,
        ⟨"Order", types.names.modelName "Order", none,
          [(types.property "receipts" receiptList).1.mapOwn ({ · with required := false })], none,
          .empty, ImportSet.empty.extend ((types.property "receipts" receiptList).2 ++ [])⟩] := rfl
  rw [made, receipts]
  rfl

theorem receiptDocument_operations [DomainNames] (types : TypeMap) :
    Api.ofDocument receiptDocument types =
      .ok ⟨none, [receiptOperation (types.names.modelName "Receipt")]⟩ := by
  have responses : Response.ofSchemas receiptDocument types
      [("201", .obj [("schema", receiptSchema)])] =
      .ok ((receiptOperation (types.names.modelName "Receipt")).responses, []) :=
    Response.ofSchemas_singleton rfl rfl (property_receiptSchema types "201") rfl
  have returned (p : Property) :
      Response.returned [⟨"201", none, some p.baseType, some p⟩] = some p := by
    have successful : Text.hasStart "2" "201" = true := rfl
    simp [Response.returned, successful]
  have method : Operation.ofSchema receiptDocument types "/orders" "post" receiptMethod [] .empty =
      .ok (receiptOperation (types.names.modelName "Receipt")) := by
    refine bind_eq_ok_iff.2 ⟨[], rfl, bind_eq_ok_iff.2 ⟨([], []), rfl,
      bind_eq_ok_iff.2 ⟨([], []), rfl, bind_eq_ok_iff.2 ⟨_, responses, ?_⟩⟩⟩⟩
    have same := returned (.leaf (Layer.plain "201" "object" (types.names.modelName "Receipt")))
    exact congrArg (fun p : Option Property => Except.ok
      { receiptOperation (types.names.modelName "Receipt") with
        returnType := p.map Property.resolvedType
        returnProperty := p }) same
  exact Api.ofDocument_of_method rfl rfl (by decide) method

theorem receiptDocument_addresses :
    receiptDocument.Addresses "#/definitions/Receipt" "Receipt" ∧
      ¬ Json.HasEscape (Naming.refName "#/definitions/Receipt").toList := by
  refine ⟨⟨"/definitions/Receipt", rfl, by decide⟩, ?_⟩
  rw [← Json.unescapeSegment_eq_self_iff]
  decide

/-- The classes of the fields of models, and what the models import. -/
def Model.classesOf (models : List Model) : List (List String × List String) :=
  models.map fun m => (m.properties.map (·.elementType), m.imports.names)

/-- What operations return, and what they import. -/
def Operation.classesOf (operations : List Operation) : List (Option String × List String) :=
  operations.map fun o => (o.returnType, o.imports.names)

/-- Without an ending the elements of a list and the body of a response are vouchers. -/
theorem references_take_class_alias_voucher :
    let types : TypeMap := ⟨.standard, .plain⟩
    let models := receiptModels "Receipt" "Order"
    let api : Api := ⟨none, [receiptOperation "Receipt"]⟩
    let boundModels := Model.bindAll voucherTypes models
    let boundOperations := Api.bindAll voucherTypes ⟨false, false⟩ api
    Model.ofDocument receiptDocument types = .ok models ∧ boundModels.fault = none ∧
      Api.ofDocument receiptDocument types = .ok api ∧ boundOperations.fault = none ∧
      List.Forall₂ (Model.FieldsTakeClass receiptDocument types voucherTypes) models
        boundModels.elements ∧
      List.Forall₂ (fun o b => ∃ item methodItem, o.DeclaredBy receiptDocument types item methodItem ∧
          b.BodiesTakeClass receiptDocument types voucherTypes methodItem)
        api.operations boundOperations.elements ∧
      types.referredClass "#/definitions/Receipt" = "Receipt" ∧
      Model.classesOf boundModels.elements =
        [([], []), (["Voucher"], ["java.util.List", "acme.Voucher"])] ∧
      Operation.classesOf boundOperations.elements = [(some "Voucher", ["acme.Voucher"])] := by
  intro types models api boundModels boundOperations
  obtain ⟨ofModels, ofApi, ofClass⟩ :=
    references_take_class_alias receiptDocument types voucherTypes
  have madeModels : Model.ofDocument receiptDocument types = .ok models :=
    receiptDocument_models types
  have madeApi : Api.ofDocument receiptDocument types = .ok api := receiptDocument_operations types
  have class_ := (ofClass _ _ receiptDocument_addresses.1 receiptDocument_addresses.2).1 rfl
  exact ⟨madeModels, rfl, madeApi, rfl, ofModels _ madeModels rfl, ofApi _ _ madeApi rfl, class_, rfl,
    rfl⟩

/-- With an ending the alias is not found: the elements and the body keep the class of the schema, and
nothing is imported for it. -/
theorem alias_missed_with_ending :
    let types : TypeMap := ⟨.standard, .ofSuffixes none (some "Dto")⟩
    let models := receiptModels "ReceiptDto" "OrderDto"
    let api : Api := ⟨none, [receiptOperation "ReceiptDto"]⟩
    let boundModels := Model.bindAll voucherTypes models
    let boundOperations := Api.bindAll voucherTypes ⟨false, false⟩ api
    receiptDocument.Addresses "#/definitions/Receipt" "Receipt" ∧
      ¬ Json.HasEscape (Naming.refName "#/definitions/Receipt").toList ∧
      voucherTypes.get? "Receipt" = some ⟨"Receipt", "acme.Voucher"⟩ ∧
      Model.ofDocument receiptDocument types = .ok models ∧ boundModels.fault = none ∧
      Api.ofDocument receiptDocument types = .ok api ∧ boundOperations.fault = none ∧
      Model.classesOf boundModels.elements = [([], []), (["ReceiptDto"], ["java.util.List"])] ∧
      Operation.classesOf boundOperations.elements = [(some "ReceiptDto", [])] := by
  intro types models api boundModels boundOperations
  exact ⟨receiptDocument_addresses.1, receiptDocument_addresses.2, rfl, receiptDocument_models types,
    rfl, receiptDocument_operations types, rfl, rfl, rfl⟩

end SchemaBinder
