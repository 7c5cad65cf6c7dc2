import SchemaBinder.Proofs.Binding.Atomic
import SchemaBinder.Proofs.Binding.Steps
import SchemaBinder.Proofs.Json.Reading
import SchemaBinder.Proofs.Schema
import SchemaBinder.Url.PlainNames
/-!
# The fragments of bodies

The body of a request carries the JSON text of the value that it was declared by, and its alias is
looked for in that text.  Since what is written is read back, the text stands for the value itself:
a body is bound as its value says (`Parameter.bindAliases_of_rawSchema`), and no fragment of an
operation of a document is malformed.

An outcome is `Legible` if it is not the fault of a malformed fragment.  Only the text of a body can
give that fault, so each other step of binding is legible whatever it is applied to.
-/

namespace SchemaBinder

/-! ## Where a parameter comes from -/

namespace Parameter

variable {doc : Document} {types : TypeMap} {p : Parameter} {item methodItem source : Json}

/-- The value that a parameter of an operation is made of: the object that declares it, or the media
type of the body of the request. -/
inductive MadeOf (doc : Document) (types : TypeMap) (operationId : String) (item methodItem : Json)
    (p : Parameter) : Json → Prop where
  | parameter {declared : List Json} {param : Json} {imports : List String} :
      Operation.declaredParameters doc ((item.getArr? "parameters").getD [])
        ((methodItem.getArr? "parameters").getD []) = .ok declared →
      param ∈ declared → ofSchema types operationId param = .ok (p, imports) →
      MadeOf doc types operationId item methodItem p param
  | media {declared body media : Json} {imports : List String} :
      methodItem.get? "requestBody" = some declared → doc.resolve declared = .ok body →
      firstMedia? body = some media → ofRequestBody types body = some (p, imports) →
      MadeOf doc types operationId item methodItem p media

/-- A body carries the text of the value that it is made of. -/
theorem MadeOf.rawSchema {operationId : String}
    (made : MadeOf doc types operationId item methodItem p source) (body : p.isBody = true) :
    p.rawSchema = some source.render := by
  cases made with
  | parameter _ _ made =>
    obtain ⟨name, location, _, _, rfl, _⟩ := ofSchema_eq_ok_iff.1 made
    exact if_pos body
  | media _ _ first made =>
    obtain ⟨media, schema, first', _, rfl, _⟩ := ofRequestBody_eq_some_iff.1 made
    cases first.symm.trans first'
    rfl

theorem mem_parts_of_firstMedia? {body media : Json} (first : firstMedia? body = some media) :
    media ∈ body.parts := by
  obtain ⟨content, found, first⟩ := Option.bind_eq_some_iff.1 first
  rw [Option.orElse_eq_orElse, Option.orElse_eq_or, Option.or_eq_some_iff] at first
  rcases first with json | ⟨_, other⟩
  · exact Json.mem_parts_of_getObj? found (Assoc.mem_of_get? json)
  · obtain ⟨⟨key, v⟩, head, rfl⟩ := Option.map_eq_some_iff.1 other
    exact Json.mem_parts_of_getObj? found (List.mem_of_mem_head? head)

/-- Parameters that are overridden are left out, and none is added. -/
theorem foldl_override_subset {params more : List Json} :
    more.foldl override params ⊆ params ++ more := by
  induction more generalizing params with
  | nil => simp
  | cons param rest ih =>
    intro p member
    have there := ih member
    simp only [override, List.mem_append, List.mem_filter, List.mem_cons, List.not_mem_nil] at there ⊢
    tauto

/-- The declared parameters are parts of the document. -/
theorem mem_parts_of_declaredParameters {shared own declared : List Json}
    (sharedParts : ∀ v ∈ shared, v ∈ doc.root.parts) (ownParts : ∀ v ∈ own, v ∈ doc.root.parts)
    (done : Operation.declaredParameters doc shared own = .ok declared) :
    ∀ v ∈ declared, v ∈ doc.root.parts := by
  obtain ⟨resolved, each, done⟩ := bind_eq_ok_iff.1 done
  cases done
  intro v member
  obtain ⟨param, there, resolvedTo⟩ :=
    exists_of_mem_mapM each v (by simpa using foldl_override_subset member)
  refine Document.mem_parts_of_resolve resolvedTo ?_
  rcases List.mem_append.1 there with there | there
  · exact sharedParts param there
  · exact ownParts param there

/-- A parameter is made of a part of the document. -/
theorem MadeOf.mem_parts {operationId : String}
    (made : MadeOf doc types operationId item methodItem p source)
    (itemPart : item ∈ doc.root.parts) (methodPart : methodItem ∈ doc.root.parts) :
    source ∈ doc.root.parts := by
  have listed : ∀ {v : Json}, v ∈ doc.root.parts → ∀ u ∈ (v.getArr? "parameters").getD [],
      u ∈ doc.root.parts := fun part _ member =>
    Json.mem_parts_trans (Json.mem_parts_of_getArr?_getD member) part
  cases made with
  | parameter done member =>
    exact mem_parts_of_declaredParameters (listed itemPart) (listed methodPart) done source member
  | media found resolved first =>
    have declaredPart := Json.mem_parts_trans (Json.mem_parts_of_get? found) methodPart
    exact Json.mem_parts_trans (mem_parts_of_firstMedia? first)
      (Document.mem_parts_of_resolve resolved declaredPart)

end Parameter

namespace Operation

variable {doc : Document} {types : TypeMap} {o : Operation} {item methodItem : Json}

/-- Every parameter of an operation is made of some value, its mark apart. -/
theorem DeclaredBy.exists_madeOf (declared : o.DeclaredBy doc types item methodItem) :
    ∀ p ∈ o.parameters, ∃ (q : Parameter) (source : Json), p = { q with hasMore := p.hasMore } ∧
      q.MadeOf doc types o.operationId item methodItem source := by
  obtain ⟨params, parameters, imports, body, bodyImports, ofOwn, ofDeclared, ofBody, listed⟩ :=
    parameters_of_ofSchema declared.made
  intro p member
  rw [listed] at member
  obtain ⟨q, member, hasMore, same⟩ := Parameter.exists_of_mem_link p member
  rw [same]
  rcases List.mem_append.1 member with member | member
  · obtain ⟨param, there, names, made⟩ := Parameter.exists_ofSchema_of_mem ofDeclared q member
    exact ⟨q, param, rfl, .parameter ofOwn there made⟩
  · obtain ⟨declared, resolved, names, found, there, made⟩ :=
      exists_ofRequestBody_of_mem ofBody q member
    obtain ⟨media, _, first, _⟩ := Parameter.ofRequestBody_eq_some_iff.1 made
    exact ⟨q, media, rfl, .media found there first made⟩

/-- What an operation is made of is part of the document. -/
theorem DeclaredBy.mem_parts (declared : o.DeclaredBy doc types item methodItem) :
    item ∈ doc.root.parts ∧ methodItem ∈ doc.root.parts := by
  obtain ⟨declaredItem, there, resolved⟩ := declared.declares.path
  have itemPart : item ∈ doc.root.parts :=
    Document.mem_parts_of_resolve resolved (Json.mem_parts_of_getObj?_getD there)
  exact ⟨itemPart,
    Json.mem_parts_trans (Json.mem_parts_of_get? declared.declares.holds) itemPart⟩

end Operation

/-! ## The alias of a body -/

namespace Parameter

variable {registry : TypeRegistry} {p : Parameter} {entity : String} {source : Json}

/-- The body with the class of the alias that a directive names, and the names to import. -/
def bindDirective (p : Parameter) (registry : TypeRegistry) (entity : String) :
    Option Json → Except Fault (Parameter × List String)
  | none => .ok (p, [])
  | some (.str s) =>
    match Text.nonBlank? s with
    | none => .ok (p, [])
    | some name => do
      let d ← registry.require name entity
      return (p.withBodyType d name, [d.qualifiedName])
  | some v => .error (.schema (.aliasNotText entity v))

/-- A body whose text is read back is bound as the value says. -/
theorem bindAliases_of_rawSchema {text : String} (isBody : p.isBody = true)
    (raw : p.rawSchema = some text) (read : Json.read? text = some source) :
    p.bindAliases registry entity = p.bindDirective registry entity (bodyDirective? source) := by
  rw [bindAliases, if_pos isBody, bindBody, raw]
  dsimp only
  rw [bodyAlias, read]
  dsimp only
  cases bodyDirective? source with
  | none => rfl
  | some v =>
    cases v with
    | str s =>
      rw [bindDirective]
      dsimp only
      cases Text.nonBlank? s with
      | none => rfl
      | some name => rfl
    | _ => rfl

/-- A body whose text cannot be read is refused. -/
theorem bindAliases_of_unread {text : String} (isBody : p.isBody = true)
    (raw : p.rawSchema = some text) (unread : Json.read? text = none) :
    p.bindAliases registry entity = .error (.schema (.malformedFragment entity)) := by
  rw [bindAliases, if_pos isBody, bindBody, raw]
  dsimp only
  rw [bodyAlias, unread]

end Parameter

/-! ## Outcomes without a malformed fragment -/

/-- The outcome is not the fault of a malformed fragment. -/
def Legible {α : Type} (outcome : Except Fault α) : Prop :=
  ∀ entity, outcome ≠ .error (.schema (.malformedFragment entity))

namespace Legible

variable {α β : Type}

theorem ok (a : α) : Legible (.ok a : Except Fault α) := by
  intro entity failed
  cases failed

theorem error {e : Fault} (other : ∀ entity, e ≠ .schema (.malformedFragment entity)) :
    Legible (.error e : Except Fault α) := by
  intro entity failed
  exact other entity (Except.error.inj failed)

theorem of_eq_error {x : Except Fault α} {e : Fault} (legible : Legible x)
    (refused : x = .error e) : Legible (.error e : Except Fault β) := by
  refine error fun entity same => legible entity ?_
  rw [refused, same]

theorem bind {x : Except Fault α} {f : α → Except Fault β} (first : Legible x)
    (next : ∀ a, Legible (f a)) : Legible (x >>= f) := by
  intro entity failed
  rcases bind_eq_error_iff.1 failed with here | ⟨a, _, later⟩
  · exact first entity here
  · exact next a entity later

theorem map {x : Except Fault α} {f : α → β} (legible : Legible x) : Legible (x.map f) := by
  intro entity failed
  cases x with
  | ok a => cases failed
  | error e => exact legible.of_eq_error rfl entity failed

/-- A list is bound legibly if each of its elements is. -/
theorem bindParts {bind : α → Except Fault (α × List String)} {l : List α}
    (each : ∀ a ∈ l, Legible (bind a)) : Legible (SchemaBinder.bindParts bind l) := by
  induction l with
  | nil => exact ok _
  | cons a rest ih =>
    have later := ih fun b member => each b (List.mem_cons_of_mem a member)
    exact (each a List.mem_cons_self).bind fun _ => later.bind fun _ => ok _

end Legible

section Steps

variable {registry : TypeRegistry} (entity : String)

theorem TypeRegistry.require_legible (name : String) : Legible (registry.require name entity) := by
  rw [require]
  split
  · exact .ok _
  · exact .error (by simp)

namespace Extensions

theorem symbolicType_legible (declared : String) (format : Option String)
    (extensions : Extensions) : Legible (symbolicType declared format extensions entity) := by
  rw [symbolicType]
  split
  · split
    · exact .ok _
    · exact .error (by simp)
    · exact .ok _
  · exact .ok _

theorem texts_legible (key : String) (items : List Json) : Legible (texts key entity items) := by
  induction items with
  | nil => exact .ok _
  | cons v rest ih =>
    cases v with
    | str s => exact ih.map
    | _ => exact .error (by simp)

theorem typeArguments_legible (extensions : Extensions) (key : String) :
    Legible (typeArguments extensions key entity) := by
  rw [typeArguments]
  split
  · exact .ok _
  · exact .ok _
  · next v _ _ =>
    refine .map ?_
    cases v with
    | str s => exact .ok _
    | arr items => exact texts_legible entity key items
    | _ => exact .error (by simp)

end Extensions

namespace Layer

theorem bindName_legible (own : Layer) : Legible (own.bindName registry entity) := by
  have read := Extensions.symbolicType_legible entity own.declaredType own.format own.extensions
  rw [bindName]
  split
  · next e refused => exact read.of_eq_error refused
  · next name _ =>
    have look : Legible (registry.require name entity) := registry.require_legible entity name
    split
    · next e refused => exact look.of_eq_error refused
    · exact .ok _
  · split
    · exact .ok _
    · split <;> exact .ok _

theorem bindArguments_legible (own : Layer) : Legible (own.bindArguments registry entity) := by
  have read := Extensions.typeArguments_legible entity own.extensions Extensions.argumentsKey
  rw [bindArguments]
  split
  · next e refused => exact read.of_eq_error refused
  · exact .ok _
  · split
    · exact .error (by simp)
    · exact .ok _

theorem bindAliases_legible (own : Layer) : Legible (own.bindAliases registry entity) := by
  refine (bindName_legible entity own).bind ?_
  rintro ⟨named, _⟩
  exact (bindArguments_legible entity named).bind fun _ => .ok _

end Layer

theorem Property.bindAliases_legible (p : Property) :
    Legible (p.bindAliases registry entity) := by
  induction p generalizing entity with
  | leaf own => exact (own.bindAliases_legible entity).bind fun _ => .ok _
  | nest own element ih =>
    refine (ih (entity ++ "[]")).bind ?_
    rintro ⟨element, _⟩
    exact ((own.around element.own).bindAliases_legible entity).bind fun _ => .ok _

theorem Response.bindAliases_legible (r : Response) : Legible (r.bindAliases registry entity) := by
  rw [bindAliases]
  split
  · next schema _ => exact (schema.bindAliases_legible entity).bind fun _ => .ok _
  · exact .ok _
  · exact .ok _

namespace Parameter

theorem bindElement_legible (p : Parameter) : Legible (p.bindElement registry entity) := by
  rw [bindElement]
  split
  · next items _ _ => exact (items.bindAliases_legible (entity ++ "[]")).bind fun _ => .ok _
  · exact .ok _

theorem bindName_legible (p : Parameter) : Legible (p.bindName registry entity) := by
  have read := Extensions.symbolicType_legible entity p.declaredType p.format p.extensions
  rw [bindName]
  split
  · next e refused => exact read.of_eq_error refused
  · exact .ok _
  · next name _ => exact (registry.require_legible entity name).bind fun _ => .ok _

/-- A body is bound legibly if its text can be read at all, and another parameter always is. -/
theorem bindDirective_legible (p : Parameter) (directive : Option Json) :
    Legible (p.bindDirective registry entity directive) := by
  rw [bindDirective.eq_def]
  split
  · exact .ok _
  · split
    · exact .ok _
    · next name _ => exact (registry.require_legible entity name).bind fun _ => .ok _
  · exact .error (by simp)

theorem bindAliases_legible_of_field {p : Parameter} (notBody : p.isBody = false) :
    Legible (p.bindAliases registry entity) := by
  rw [bindAliases, if_neg (by simp [notBody])]
  refine (p.bindElement_legible entity).bind ?_
  rintro ⟨typed, _⟩
  exact (typed.bindName_legible entity).bind fun _ => .ok _

end Parameter

end Steps

/-- An operation is bound legibly if its parameters are. -/
theorem Operation.bound_legible {registry : TypeRegistry} (options : OperationOptions)
    (basePath : Option String) {o : Operation}
    (each : ∀ p ∈ o.parameters, ∀ entity, Legible (p.bindAliases registry entity)) :
    Legible (o.bound registry options basePath) := by
  have ofReturn : Legible (o.boundReturn registry) := by
    rw [boundReturn]
    split
    · next p _ => exact (p.bindAliases_legible _).bind fun _ => .ok _
    · exact .ok _
    · exact .ok _
  have ofResponses : Legible (Response.bindEach registry o.operationId o.responses) := by
    rw [Response.bindEach_eq]
    exact .bindParts fun r _ => r.bindAliases_legible _
  have ofParameters : Legible (Parameter.bindEach registry o.operationId o.parameters) := by
    rw [Parameter.bindEach_eq]
    exact .bindParts fun p member => each p member _
  exact ofReturn.bind fun _ => ofResponses.bind fun _ => ofParameters.bind fun _ => .ok _

/-- If every element is bound legibly, then no fragment is what binding stops at. -/
theorem Progress.not_malformed {α : Type} {change : Change α Unit} {bound : α → Except Fault α}
    (commits : change.Commits bound) {l : List α} (each : ∀ a ∈ l, Legible (bound a))
    (entity : String) : (ofEach change l).fault ≠ some (.schema (.malformedFragment entity)) := by
  induction l with
  | nil => exact fun failed => nomatch failed
  | cons a rest ih =>
    cases outcome : bound a with
    | ok b =>
      rw [ofEach_cons_of_ok commits rest outcome]
      exact ih fun a' member => each a' (List.mem_cons_of_mem a member)
    | error e =>
      rw [ofEach_cons_of_error commits rest outcome]
      intro failed
      cases failed
      exact each a List.mem_cons_self entity outcome

/-! ## The bodies of a document -/

/-- A parameter is made of a value, carries its text, which is read back as the value, and is bound
as the value says. -/
structure Parameter.Carries (doc : Document) (types : TypeMap) (operationId : String)
    (item methodItem : Json) (p : Parameter) (source : Json) : Prop where
  made : ∃ q : Parameter, p = { q with hasMore := p.hasMore } ∧
    q.MadeOf doc types operationId item methodItem source
  text : p.rawSchema = some source.render
  read : Json.read? source.render = some source
  bound : ∀ registry entity,
    p.bindAliases registry entity = p.bindDirective registry entity (bodyDirective? source)

variable {doc : Document} {types : TypeMap}

theorem Operation.DeclaredBy.exists_carries {o : Operation} {item methodItem : Json}
    (declared : o.DeclaredBy doc types item methodItem) (wellFormed : doc.root.WellFormed)
    (integral : doc.root.Integral) (bounded : doc.root.depth ≤ Json.Stage.maxOpen) :
    ∀ p ∈ o.parameters, p.isBody = true →
      ∃ source, p.Carries doc types o.operationId item methodItem source := by
  obtain ⟨itemPart, methodPart⟩ := declared.mem_parts
  intro p listed isBody
  obtain ⟨q, source, same, made⟩ := declared.exists_madeOf p listed
  have part := made.mem_parts itemPart methodPart
  have read : Json.read? source.render = some source :=
    Json.read?_render (wellFormed.of_mem part) (integral.of_mem part)
      (Nat.le_trans (Json.depth_le_of_mem part) bounded)
  have raw : p.rawSchema = some source.render := by
    rw [same] at isBody ⊢
    exact made.rawSchema isBody
  exact ⟨source, ⟨q, same, made⟩, raw, read, fun _ _ =>
    Parameter.bindAliases_of_rawSchema isBody raw read⟩

/-- If all numbers of a document are integers and it is nested no deeper than can be read, then the
text that a body carries is read back as the value that declares it, and the body is bound as that
value says.  So no operation of the document has a malformed fragment. -/
theorem Api.body_fragments_read_back [DomainNames] {api : Api} (wellFormed : doc.root.WellFormed)
    (integral : doc.root.Integral) (bounded : doc.root.depth ≤ Json.Stage.maxOpen)
    (produced : ofDocument doc types = .ok api) :
    (∀ o ∈ api.operations, ∃ item methodItem, o.DeclaredBy doc types item methodItem ∧
      ∀ p ∈ o.parameters, p.isBody = true →
        ∃ source, p.Carries doc types o.operationId item methodItem source) ∧
    ∀ registry options entity,
      (api.bindAll registry options).fault ≠ some (.schema (.malformedFragment entity)) := by
  have each : ∀ o ∈ api.operations, ∃ item methodItem, o.DeclaredBy doc types item methodItem ∧
      ∀ p ∈ o.parameters, p.isBody = true →
        ∃ source, p.Carries doc types o.operationId item methodItem source := by
    intro o member
    obtain ⟨item, methodItem, declared⟩ := declaredBy_of_ofDocument produced o member
    exact ⟨item, methodItem, declared, declared.exists_carries wellFormed integral bounded⟩
  refine ⟨each, fun registry options entity => ?_⟩
  have commits := Operation.commits_bindAndGroup registry options (options.rootPath api.basePath)
  refine Progress.not_malformed commits (fun o member => ?_) entity
  obtain ⟨item, methodItem, _, bodies⟩ := each o member
  refine o.bound_legible options _ fun p listed place => ?_
  cases isBody : p.isBody with
  | false => exact p.bindAliases_legible_of_field place isBody
  | true =>
    obtain ⟨source, carries⟩ := bodies p listed isBody
    rw [carries.bound]
    exact p.bindDirective_legible place _

/-- The schema of a note: quotes, a backslash, a control character and letters outside ASCII. -/
def noteSchema : Json :=
  .obj [("title", .str "\"\\\x01é☕\""), ("x-type", .str "Money")]

/-- The parameter that takes a note. -/
def noteParameter : Json :=
  .obj [("schema", noteSchema), ("in", .str "body"), ("name", .str "n")]

/-- The schema of a list of notes. -/
def notesSchema : Json :=
  .obj [("items", noteSchema), ("type", .str "array")]

/-- Its media type. -/
def notesMedia : Json :=
  .obj [("schema", notesSchema), ("x", .int (-7))]

/-- The body of a request with a list of notes. -/
def notesRequest : Json :=
  .obj [("required", .bool true), ("content", .obj [("application/json", notesMedia)])]

/-- An operation that declares both. -/
def notesMethod : Json :=
  .obj [("operationId", .str "add"), ("parameters", .arr [noteParameter]),
    ("requestBody", .obj [("$ref", .str "#/components/requestBodies/Notes")])]

/-- A document with that operation. -/
def notesDocument : Document :=
  ⟨.obj [("openapi", .str "3.0.0"),
    ("components", .obj [("requestBodies", .obj [("Notes", notesRequest)])]),
    ("paths", .obj [("/notes", .obj [("post", notesMethod)])])]⟩

/-- The parameter of a note. -/
def noteBody : Parameter :=
  { Parameter.plain "n" .body "object" "Object" with
    rawSchema := some noteParameter.render
    extensions := .ofList [(Extensions.typeKey, .str "Money")] }

/-- The parameter of a list of notes. -/
def notesBody : Parameter :=
  { Parameter.plain "body" .body "array" "List<Object>" with
    baseType := "Object"
    isContainer := true
    required := true
    rawSchema := some notesMedia.render }

/-- The operation of the document. -/
def notesOperation : Operation where
  operationId := "add"
  method := "post"
  path := "/notes"
  summary := none
  returnType := none
  returnProperty := none
  responses := []
  parameters := Parameter.link [noteBody, notesBody]
  authMethods := []
  groupKey := "/notes"
  pathExtensions := .empty
  extensions := .empty
  imports := ⟨["java.util.List"]⟩

theorem notesOperation_of_notesMethod :
    Operation.ofSchema notesDocument ⟨.standard, .plain⟩ "/notes" "post" notesMethod [] .empty =
      .ok notesOperation := by
  let types : TypeMap := ⟨.standard, .plain⟩
  have note (name : String) : types.property name noteSchema =
      (.leaf { Layer.plain name "object" "Object" with
        extensions := .ofList [(Extensions.typeKey, .str "Money")] }, []) :=
    types.property_of_leaf name rfl
  have container : TypeMap.element? notesSchema = some (.list, noteSchema) := rfl
  have notes : types.property "body" notesSchema =
      (.nest { Layer.plain "body" "array" "List<Object>" with
          baseType := "Object"
          container := some .list } (types.property "body" noteSchema).1, ["java.util.List"]) := by
    rw [types.property_of_element "body" container, note]
    rfl
  have requested : Parameter.ofRequestBody types notesRequest =
      some (notesBody, ["java.util.List"]) := by
    refine Parameter.ofRequestBody_eq_some_iff.2 ⟨notesMedia, notesSchema, rfl, rfl, ?_, ?_⟩
    · show _ = Parameter.bodyOfTyped _ _ _ (types.property "body" notesSchema).1
      rw [notes]
      rfl
    · show _ = (types.property "body" notesSchema).2
      rw [notes]
  have parameters : Parameter.ofSchemas types "add" [noteParameter] = .ok ([noteBody], []) :=
    Parameter.ofSchemas_singleton rfl rfl (note "n") rfl
  have body : Operation.bodyParameter notesDocument types notesMethod =
      .ok ([notesBody], ["java.util.List"]) := by
    refine bind_eq_ok_iff.2 ⟨notesRequest, rfl, ?_⟩
    rw [requested]
    rfl
  exact bind_eq_ok_iff.2 ⟨[noteParameter], rfl, bind_eq_ok_iff.2 ⟨_, parameters,
    bind_eq_ok_iff.2 ⟨_, body, bind_eq_ok_iff.2 ⟨([], []), rfl, rfl⟩⟩⟩⟩

theorem notesDocument_operations [DomainNames] :
    Api.ofDocument notesDocument ⟨.standard, .plain⟩ = .ok ⟨none, [notesOperation]⟩ :=
  Api.ofDocument_of_method rfl rfl (by decide) notesOperation_of_notesMethod

/-- The alias inside both texts is found. -/
theorem body_fragments_read_back_notes :
    notesDocument.root.WellFormed ∧ notesDocument.root.Integral ∧
      notesDocument.root.depth ≤ Json.Stage.maxOpen ∧
      Api.ofDocument notesDocument ⟨.standard, .plain⟩ = .ok ⟨none, [notesOperation]⟩ ∧
      Parameter.bodyDirective? noteParameter = some (.str "Money") ∧
      Parameter.bodyDirective? notesMedia = some (.str "Money") ∧
      (∀ o ∈ [notesOperation], ∃ item methodItem,
        o.DeclaredBy notesDocument ⟨.standard, .plain⟩ item methodItem ∧
        ∀ p ∈ o.parameters, p.isBody = true → ∃ source,
          p.Carries notesDocument ⟨.standard, .plain⟩ o.operationId item methodItem source) ∧
      ∀ registry options entity,
        (Api.bindAll registry options ⟨none, [notesOperation]⟩).fault ≠
          some (.schema (.malformedFragment entity)) := by
  have wellFormed : notesDocument.root.WellFormed := by decide
  have integral : notesDocument.root.Integral := by decide
  have bounded : notesDocument.root.depth ≤ Json.Stage.maxOpen := by decide
  have back :=
    Api.body_fragments_read_back wellFormed integral bounded notesDocument_operations
  exact ⟨wellFormed, integral, bounded, notesDocument_operations, rfl, rfl, back.1, back.2⟩

end SchemaBinder
