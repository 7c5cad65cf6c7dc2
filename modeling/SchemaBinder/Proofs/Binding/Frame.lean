import SchemaBinder.Proofs.Binding.OperationImports
/-!
# What binding leaves alone

Binding changes types, type arguments, parents, marks, groups and imports.  `Kept` says node by node
what it does not change, and `binding_keeps_frame` says that every node is kept and that none is
added, lost or moved, the headers of credentials behind the declared parameters apart.

A layer and a parameter are kept by each step (`Layer.Kept`, `Parameter.Kept`), so what is left to
do is to follow the steps through the trees and lists.
-/

namespace SchemaBinder

variable {registry : TypeRegistry} {entity : String} {imports : List String}

/-! ## Properties -/

namespace Property

/-- The property has its layers in their order, each of them kept. -/
inductive Kept : Property → Property → Prop where
  | leaf {own bound : Layer} : own.Kept bound → Kept (.leaf own) (.leaf bound)
  | nest {own bound : Layer} {element element' : Property} : own.Kept bound →
      Kept element element' → Kept (.nest own element) (.nest bound element')

theorem Kept.refl (p : Property) : p.Kept p := by
  induction p with
  | leaf own => exact .leaf ⟨rfl, rfl, rfl, rfl, rfl, rfl⟩
  | nest own element ih => exact .nest ⟨rfl, rfl, rfl, rfl, rfl, rfl⟩ ih

theorem Kept.rel_refl (p : Option Property) : Option.Rel Kept p p := by
  cases p with
  | none => exact .none
  | some p => exact .some (.refl p)

theorem kept_of_bindAliases {p b : Property}
    (done : p.bindAliases registry entity = .ok (b, imports)) : p.Kept b := by
  induction p generalizing b entity imports with
  | leaf own =>
    obtain ⟨⟨bound, names⟩, bindOwn, done⟩ := bind_eq_ok_iff.1 done
    cases done
    obtain ⟨_, _, _, bindOwn⟩ := Layer.bindAliases_eq_ok_iff.1 bindOwn
    exact .leaf bindOwn.kept
  | nest own element ih =>
    obtain ⟨⟨element', names⟩, bindElement, done⟩ := bind_eq_ok_iff.1 done
    obtain ⟨⟨bound, more⟩, bindOwn, done⟩ := bind_eq_ok_iff.1 done
    cases done
    obtain ⟨_, _, _, bindOwn⟩ := Layer.bindAliases_eq_ok_iff.1 bindOwn
    exact .nest ((Layer.kept_around own element'.own).trans bindOwn.kept) (ih bindElement)

end Property

/-! ## Models -/

/-- What binding leaves alone in a model. -/
structure Model.Kept (m b : Model) : Prop where
  name : b.name = m.name
  className : b.className = m.className
  description : b.description = m.description
  extensions : b.extensions = m.extensions
  properties : List.Forall₂ Property.Kept m.properties b.properties
  /-- A model that names no parent keeps the one it has. -/
  parent : m.extensions.get? Extensions.parentKey = none → b.parent = m.parent
  imports : m.imports.names <+: b.imports.names

theorem ImportSet.prefix_extend (s : ImportSet) (names : List String) :
    s.names <+: (s.extend names).names := by
  rw [names_extend]
  exact List.prefix_append _ _

theorem Model.kept_of_bound {m b : Model} (done : m.bound registry = .ok b) : m.Kept b := by
  obtain ⟨⟨parent, parentImports⟩, bindParent, done⟩ := bind_eq_ok_iff.1 done
  obtain ⟨⟨properties, imports⟩, bindFields, done⟩ := bind_eq_ok_iff.1 done
  cases done
  rw [boundFields_eq] at bindFields
  constructor
  case properties =>
    exact (forall₂_of_bindParts bindFields).imp fun _ _ ⟨_, bound, _⟩ =>
      Property.kept_of_bindAliases bound
  case parent =>
    intro unnamed
    rw [boundParent, Extensions.parentAlias, unnamed] at bindParent
    cases bindParent
    rfl
  case imports => exact m.imports.prefix_extend _
  all_goals rfl

/-! ## Parameters -/

namespace Parameter

/-- What binding an operation leaves alone in a parameter that is declared.  Whether another one
follows it may change, and of its extensions only the alias of a body. -/
structure Declared (p b : Parameter) : Prop extends Kept p { b with hasMore := p.hasMore } where
  element : Option.Rel Property.Kept p.items b.items
  directives : ∀ key, key ≠ Extensions.typeKey → b.extensions.get? key = p.extensions.get? key

variable {p b : Parameter} {symbol : Option String}

theorem BodyBound.get?_extensions (done : BodyBound registry p symbol b imports) {key : String}
    (other : key ≠ Extensions.typeKey) : b.extensions.get? key = p.extensions.get? key := by
  cases done with
  | plain => rfl
  | @symbol name d =>
    have inserted : (p.withBodyType d name).extensions =
        p.extensions.insert Extensions.typeKey (.str name) := by
      rw [withBodyType]
      dsimp only
      split <;> rfl
    rw [inserted, SortedTable.get?_insert, if_neg other]

theorem ElementBound.rel_items (done : ElementBound registry entity p b imports) :
    Option.Rel Property.Kept p.items b.items := by
  cases done with
  | plain => exact Property.Kept.rel_refl p.items
  | element _ items bindItems =>
    rw [items]
    exact .some (Property.kept_of_bindAliases bindItems)

theorem Bound.declared (done : Bound registry entity p b imports) (hasMore : Bool) :
    p.Declared { b with hasMore } := by
  cases done with
  | body isBody _ done =>
    refine ⟨{ done.kept isBody with hasMore := rfl }, ?_, fun key => done.get?_extensions⟩
    show Option.Rel _ p.items b.items
    rw [done.items]
    exact Property.Kept.rel_refl p.items
  | field notBody element _ name =>
    have kept := element.kept.trans name.kept
    refine ⟨{ kept with hasMore := rfl }, ?_, fun key _ => ?_⟩
    · show Option.Rel _ p.items b.items
      rw [name.items]
      exact element.rel_items
    · show b.extensions.get? key = _
      rw [kept.extensions notBody]

theorem exists_link_cons (p : Parameter) (rest : List Parameter) :
    ∃ hasMore, link (p :: rest) = { p with hasMore } :: link rest := by
  cases rest with
  | nil => exact ⟨false, rfl⟩
  | cons q rest => exact ⟨true, rfl⟩

/-- Linking parameters, with others behind them, changes their marks only. -/
theorem exists_link_append {α : Type} {R : α → Parameter → Prop} {xs : List α}
    {ps : List Parameter} (each : List.Forall₂ R xs ps) (others : List Parameter) :
    ∃ linked, link (ps ++ others) = linked ++ link others ∧
      List.Forall₂ (fun x q => ∃ p hasMore, R x p ∧ q = { p with hasMore }) xs linked := by
  induction each with
  | nil => exact ⟨[], rfl, .nil⟩
  | @cons x p _ ps here _ ih =>
    obtain ⟨linked, same, each⟩ := ih
    obtain ⟨hasMore, first⟩ := exists_link_cons p (ps ++ others)
    refine ⟨{ p with hasMore } :: linked, ?_, .cons ⟨p, hasMore, here, rfl⟩ each⟩
    rw [List.cons_append, first, same, List.cons_append]

/-- Declared parameters stay declared when they are linked with others behind them. -/
theorem declared_link {ps bs : List Parameter}
    (each : List.Forall₂ (fun p b => ∀ hasMore, p.Declared { b with hasMore }) ps bs)
    (added : List Parameter) :
    ∃ declared, link (bs ++ added) = declared ++ link added ∧
      List.Forall₂ Declared ps declared := by
  obtain ⟨linked, same, each⟩ := exists_link_append each added
  refine ⟨linked, same, each.imp ?_⟩
  rintro p _ ⟨b, hasMore, declared, rfl⟩
  exact declared hasMore

/-- The headers of credentials follow the parameters. -/
theorem exists_append_addHeaders (ps : List Parameter) (methods : List AuthMethod) :
    ∃ added, addHeaders ps methods = ps ++ added ∧
      ∀ h ∈ added, ∃ name description, h = securityHeader name description := by
  induction methods generalizing ps with
  | nil => exact ⟨[], (List.append_nil ps).symm, fun h member => nomatch member⟩
  | cons m rest ih =>
    show ∃ added, addHeaders (addHeader ps m) rest = ps ++ added ∧ _
    rw [addHeader]
    split
    · exact ih ps
    · next name _ =>
      split
      · exact ih ps
      · obtain ⟨added, same, headers⟩ := ih (ps ++ [securityHeader name m.description])
        refine ⟨securityHeader name m.description :: added, ?_, ?_⟩
        · rw [same, List.append_assoc, List.singleton_append]
        · exact List.forall_mem_cons.2 ⟨⟨name, m.description, rfl⟩, headers⟩

end Parameter

/-! ## Operations -/

/-- What binding leaves alone in a response. -/
structure Response.Kept (r b : Response) : Prop where
  code : b.code = r.code
  description : b.description = r.description
  schema : Option.Rel Property.Kept r.schema b.schema

theorem Response.Outcome.kept {r b : Response} (done : Outcome registry entity r b imports) :
    r.Kept b := by
  cases done with
  | body there bindSchema =>
    refine ⟨rfl, rfl, ?_⟩
    rw [there]
    exact .some (Property.kept_of_bindAliases bindSchema)
  | name => exact ⟨rfl, rfl, Property.Kept.rel_refl r.schema⟩

namespace Operation

/-- What binding leaves alone in an operation.  Its parameters are the declared ones, and behind them
headers of credentials. -/
structure Kept (o b : Operation) : Prop where
  operationId : b.operationId = o.operationId
  method : b.method = o.method
  path : b.path = o.path
  summary : b.summary = o.summary
  authMethods : b.authMethods = o.authMethods
  pathExtensions : b.pathExtensions = o.pathExtensions
  extensions : b.extensions = o.extensions
  returnProperty : Option.Rel Property.Kept o.returnProperty b.returnProperty
  responses : List.Forall₂ Response.Kept o.responses b.responses
  parameters : ∃ declared headers, b.parameters = declared ++ headers ∧
    List.Forall₂ Parameter.Declared o.parameters declared ∧
    ∀ h ∈ headers, ∃ name description hasMore,
      h = { Parameter.securityHeader name description with hasMore }
  imports : o.imports.names <+: b.imports.names

variable {o b : Operation}

theorem ReturnOutcome.kept {returnProperty : Option Property} {returnType : Option String}
    (done : ReturnOutcome registry o returnProperty returnType imports) :
    Option.Rel Property.Kept o.returnProperty returnProperty := by
  cases done with
  | value there bindReturn =>
    rw [there]
    exact .some (Property.kept_of_bindAliases bindReturn)
  | name missing =>
    rw [missing]
    exact .none

theorem exists_append_withHeaders (options : OperationOptions) (methods : List AuthMethod)
    (ps : List Parameter) : ∃ added, withHeaders options methods ps = ps ++ added ∧
      ∀ h ∈ added, ∃ name description, h = .securityHeader name description := by
  rw [withHeaders]
  split
  · exact Parameter.exists_append_addHeaders ps methods
  · exact ⟨[], (List.append_nil ps).symm, List.forall_mem_nil _⟩

theorem kept_of_bound {options : OperationOptions} {basePath : Option String}
    (done : o.bound registry options basePath = .ok b) : o.Kept b := by
  obtain ⟨returnProperty, returnType, imports, responses, responseImports, parameters,
    parameterImports, bindReturn, bindResponses, bindParameters, rfl⟩ := bound_eq_ok_iff.1 done
  rw [Response.bindEach_eq] at bindResponses
  rw [Parameter.bindEach_eq] at bindParameters
  constructor
  case returnProperty => exact (boundReturn_eq_ok_iff_outcome.1 bindReturn).kept
  case responses =>
    exact (forall₂_of_bindParts bindResponses).imp fun _ _ ⟨_, bound, _⟩ =>
      (Response.bindAliases_eq_ok_iff_outcome.1 bound).kept
  case parameters =>
    obtain ⟨added, same, headers⟩ := exists_append_withHeaders options o.authMethods parameters
    have each := (forall₂_of_bindParts bindParameters).imp fun _ _ ⟨_, bound, _⟩ =>
      (Parameter.bindAliases_eq_ok_iff.1 bound).declared
    obtain ⟨declared, linked, each⟩ := Parameter.declared_link each added
    refine ⟨declared, Parameter.link added, ?_, each, fun h member => ?_⟩
    · show Parameter.link (withHeaders options o.authMethods parameters) = _
      rw [same, linked]
    · obtain ⟨p, there, hasMore, rfl⟩ := Parameter.exists_of_mem_link h member
      obtain ⟨name, description, rfl⟩ := headers p there
      exact ⟨name, description, hasMore, rfl⟩
  case imports => exact o.imports.prefix_extend _
  all_goals rfl

end Operation

/-- When models or operations have been bound, they are as many as before, in the same order, and each
is kept: a name, a description, a directive, what is declared and how it is nested, all of it is as
it was, at every depth, but for the alias that a body records. -/
theorem binding_keeps_frame (registry : TypeRegistry) :
    (∀ models, (Model.bindAll registry models).fault = none →
      List.Forall₂ Model.Kept models (Model.bindAll registry models).elements) ∧
    (∀ options api, (Api.bindAll registry options api).fault = none →
      List.Forall₂ Operation.Kept api.operations (Api.bindAll registry options api).elements) := by
  constructor
  · intro models allBound
    exact (Progress.bound_of_no_fault (Model.commits_bindAliases registry) allBound).imp
      fun _ _ => Model.kept_of_bound
  · intro options api allBound
    have commits :=
      Operation.commits_bindAndGroup registry options (options.rootPath api.basePath)
    exact (Progress.bound_of_no_fault commits allBound).imp fun _ _ => Operation.kept_of_bound

/-- A model below a parent, and an operation with the header of a key. -/
theorem binding_keeps_frame_bill :
    let options : OperationOptions := ⟨true, false⟩
    (Model.bindAll Model.pagedTypes [.paged]).fault = none ∧
      (∀ after ∈ (Model.bindAll Model.pagedTypes [.paged]).elements, Model.paged.Kept after) ∧
      (Api.bindAll Model.pagedTypes options ⟨none, [.bill]⟩).fault = none ∧
      ∀ after ∈ (Api.bindAll Model.pagedTypes options ⟨none, [.bill]⟩).elements,
        Operation.bill.Kept after := by
  intro options
  obtain ⟨models, operations⟩ := binding_keeps_frame Model.pagedTypes
  have modelsBound : (Model.bindAll Model.pagedTypes [.paged]).fault = none := rfl
  obtain ⟨b, bound⟩ := Operation.exists_bound_bill
  have all : Api.bindAll Model.pagedTypes options ⟨none, [.bill]⟩ = ⟨[b], none⟩ :=
    Progress.ofEach_cons_of_ok (Operation.commits_bindAndGroup _ _ _) [] bound
  have operationsBound : (Api.bindAll Model.pagedTypes options ⟨none, [.bill]⟩).fault = none :=
    congrArg (·.fault) all
  refine ⟨modelsBound, fun after member => ?_, operationsBound, fun after member => ?_⟩
  · obtain ⟨after', rest, kept, none, same⟩ :=
      List.forall₂_cons_left_iff.1 (models [.paged] modelsBound)
    cases none
    rw [same] at member
    rwa [List.mem_singleton.1 member]
  · obtain ⟨after', rest, kept, none, same⟩ :=
      List.forall₂_cons_left_iff.1 (operations options ⟨none, [.bill]⟩ operationsBound)
    cases none
    rw [same] at member
    rwa [List.mem_singleton.1 member]

end SchemaBinder
