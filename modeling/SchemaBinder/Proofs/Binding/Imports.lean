import SchemaBinder.Proofs.Binding.Atomic
/-!
# What models import

Binding collects the names to import on its way, from several places and some of them twice, and
an import list takes each of them once.  `Model.needed` lists the classes that a model needs by
what its directives and types say, apart from that way, and `bound_models_import_needed` says
that a bound model imports these and no others.

Two lists of names are `SameImports` if they make no difference to any import list.  What binding
collects is the same in this sense as what is needed, layer by layer.
-/

namespace SchemaBinder

/-! ## The classes that are needed -/

/-- The classes of the registered aliases among type arguments.  The wildcard is none of them. -/
def TypeRegistry.argumentTypes (registry : TypeRegistry) (arguments : List String) :
    List TypeDescriptor :=
  (arguments.filter (· ≠ wildcard)).filterMap registry.get?

/-- The names of classes. -/
def TypeDescriptor.names (ds : List TypeDescriptor) : List String :=
  ds.map (·.qualifiedName)

@[simp] theorem TypeDescriptor.names_nil : names [] = [] := rfl

@[simp] theorem TypeDescriptor.names_cons (d : TypeDescriptor) (ds : List TypeDescriptor) :
    names (d :: ds) = d.qualifiedName :: names ds :=
  rfl

@[simp] theorem TypeDescriptor.names_append (ds es : List TypeDescriptor) :
    names (ds ++ es) = names ds ++ names es :=
  List.map_append

namespace Layer

-- the entity of a directive shows in faults only, so it is left blank here

/-- The alias of the type of a layer, if it has one. -/
def symbol? (own : Layer) : Option String :=
  (own.extensions.symbolicType own.declaredType own.format "").toOption.join

/-- The type arguments of a layer. -/
def arguments (own : Layer) : List String :=
  ((own.extensions.typeArguments Extensions.argumentsKey "").toOption.join).getD []

theorem symbol?_eq {own : Layer} {entity : String} {symbol : Option String}
    (read : own.extensions.symbolicType own.declaredType own.format entity = .ok symbol) :
    own.symbol? = symbol := by
  rw [symbol?, Extensions.symbolicType_entity "" read]
  rfl

theorem arguments_eq {own : Layer} {entity : String} {found : Option (List String)}
    (read : own.extensions.typeArguments Extensions.argumentsKey entity = .ok found) :
    own.arguments = found.getD [] := by
  rw [arguments, Extensions.typeArguments_entity "" read]
  rfl

/-- The class of the alias of a layer.  Without an alias, a layer that is no container has the
class of its base type, if there is one. -/
def namedType (own : Layer) (registry : TypeRegistry) : List TypeDescriptor :=
  match own.symbol? with
  | some name => (registry.get? name).toList
  | none => if own.container.isSome then [] else (registry.get? own.baseType).toList

/-- The classes that a layer needs. -/
def needed (registry : TypeRegistry) (own : Layer) : List TypeDescriptor :=
  own.namedType registry ++ registry.argumentTypes own.arguments

end Layer

/-- The layers of a property, the innermost first. -/
def Property.layers : Property → List Layer
  | leaf own => [own]
  | nest own element => element.layers ++ [own]

namespace Model

/-- The alias of the parent of a model, if it has one. -/
def parentSymbol? (m : Model) : Option String :=
  (m.extensions.parentAlias m.name).toOption.join

/-- The type arguments of the parent of a model. -/
def parentArguments (m : Model) : List String :=
  ((m.extensions.typeArguments Extensions.parentArgumentsKey m.name).toOption.join).getD []

theorem parentSymbol?_eq {m : Model} {symbol : Option String}
    (read : m.extensions.parentAlias m.name = .ok symbol) : m.parentSymbol? = symbol := by
  rw [parentSymbol?, read]
  rfl

theorem parentArguments_eq {m : Model} {found : Option (List String)}
    (read : m.extensions.typeArguments Extensions.parentArgumentsKey m.name = .ok found) :
    m.parentArguments = found.getD [] := by
  rw [parentArguments, read]
  rfl

/-- The layers of the fields of a model. -/
def layers (m : Model) : List Layer :=
  m.properties.flatMap (·.layers)

/-- The aliases of a model for which there must be a class. -/
def symbols (m : Model) : List String :=
  m.parentSymbol?.toList ++ m.layers.filterMap (·.symbol?)

/-- The classes that a model needs for its parent. -/
def parentNeeded (registry : TypeRegistry) (m : Model) : List TypeDescriptor :=
  match m.parentSymbol? with
  | some name => (registry.get? name).toList ++ registry.argumentTypes m.parentArguments
  | none => []

/-- The classes that a model needs. -/
def needed (registry : TypeRegistry) (m : Model) : List TypeDescriptor :=
  m.parentNeeded registry ++ m.layers.flatMap (·.needed registry)

end Model

/-! ## Lists that make no difference -/

/-- Adding either of two lists of names to an import list gives the same. -/
def SameImports (names others : List String) : Prop :=
  ∀ s : ImportSet, s.extend names = s.extend others

namespace SameImports

variable {names others more rest : List String}

theorem refl (names : List String) : SameImports names names :=
  fun _ => rfl

theorem append (first : SameImports names others) (second : SameImports more rest) :
    SameImports (names ++ more) (others ++ rest) := by
  intro s
  rw [ImportSet.extend_append, ImportSet.extend_append, first s, second]

/-- Names may be repeated anywhere behind. -/
theorem of_subset (known : more ⊆ names) : SameImports (names ++ more) names := by
  intro s
  rw [ImportSet.extend_append]
  exact ImportSet.extend_of_subset fun _ member => ImportSet.mem_extend.2 (.inr (known member))

end SameImports

/-! ## Type arguments -/

theorem TypeRegistry.flatMap_substituteArgument (registry : TypeRegistry)
    (arguments : List String) :
    (arguments.map registry.substituteArgument).flatMap (·.2) =
      TypeDescriptor.names (registry.argumentTypes arguments) := by
  induction arguments with
  | nil => rfl
  | cons argument rest ih =>
    rw [List.map_cons, List.flatMap_cons, ih, argumentTypes, argumentTypes, substituteArgument]
    by_cases open_ : argument = wildcard
    · rw [if_pos open_, List.filter_cons_of_neg (by simpa using open_)]
      rfl
    · rw [if_neg open_, List.filter_cons_of_pos (by simpa using open_), substitute]
      cases found : registry.get? argument with
      | none => rw [List.filterMap_cons_none found]; rfl
      | some d => rw [List.filterMap_cons_some found]; rfl

/-- Writing a type with its arguments collects the classes of the arguments. -/
theorem TypeRegistry.instantiate_imports (registry : TypeRegistry) (base : String)
    (arguments : List String) :
    (registry.instantiate base arguments).2 =
      TypeDescriptor.names (registry.argumentTypes arguments) := by
  cases arguments with
  | nil => rfl
  | cons argument rest => exact registry.flatMap_substituteArgument (argument :: rest)

/-! ## Layers -/

namespace Layer

variable {registry : TypeRegistry} {own bound : Layer} {entity : String} {imports : List String}

/-- What binding the name of a layer establishes. -/
structure NameBound (registry : TypeRegistry) (own bound : Layer) (imports : List String) :
    Prop where
  /-- The class of the name is collected, and nothing else. -/
  collected : imports = TypeDescriptor.names (own.namedType registry)
  /-- If the layer has an alias, then there is a class for it. -/
  registered : ∀ name, own.symbol? = some name → registry.contains name
  /-- The directives stay. -/
  extensions : bound.extensions = own.extensions
  /-- If the layer is no container, then the class of its base type is collected. -/
  base : bound.container = none → ∀ d, registry.get? bound.baseType = some d →
    d.qualifiedName ∈ imports

theorem nameBound (done : own.bindName registry entity = .ok (bound, imports)) :
    NameBound registry own bound imports := by
  rw [bindName] at done
  cases read : own.extensions.symbolicType own.declaredType own.format entity with
  | error e => simp [read] at done
  | ok symbol =>
    have named := symbol?_eq read
    rw [read] at done
    cases symbol with
    | some name =>
      cases found : registry.get? name with
      | none => simp [TypeRegistry.require, found] at done
      | some d =>
        simp only [TypeRegistry.require, found] at done
        cases done
        exact ⟨by simp [namedType, named, found],
          by simp [named, TypeRegistry.contains, found], rfl, by simp [found]⟩
    | none =>
      cases container : own.container with
      | some kind =>
        simp only [container, Option.isSome_some, if_true] at done
        cases done
        exact ⟨by simp [namedType, named, container], by simp [named], rfl, by simp [container]⟩
      | none =>
        simp only [container, Option.isSome_none, Bool.false_eq_true, if_false] at done
        cases found : registry.get? own.baseType with
        | none =>
          rw [found] at done
          cases done
          exact ⟨by simp [namedType, named, container, found], by simp [named], rfl,
            by simp [found]⟩
        | some d =>
          rw [found] at done
          cases done
          exact ⟨by simp [namedType, named, container, found], by simp [named], rfl,
            by simp [found]⟩

/-- Binding the arguments of a layer collects their classes, after the class of the base type of a
layer that is no container. -/
theorem argumentsBound (done : own.bindArguments registry entity = .ok (bound, imports)) :
    ∃ again, imports = again ++ TypeDescriptor.names (registry.argumentTypes own.arguments) ∧
      ∀ name ∈ again, own.container = none ∧
        ∃ d, registry.get? own.baseType = some d ∧ name = d.qualifiedName := by
  rw [bindArguments] at done
  cases read : own.extensions.typeArguments Extensions.argumentsKey entity with
  | error e => simp [read] at done
  | ok found =>
    have given := arguments_eq read
    rw [read] at done
    cases found with
    | none =>
      cases done
      exact ⟨[], by simp [given, TypeRegistry.argumentTypes], by simp⟩
    | some args =>
      cases container : own.container with
      | some kind => simp [container] at done
      | none =>
        simp only [container, Option.isSome_none, Bool.false_eq_true, if_false] at done
        cases done
        refine ⟨(own.genericBase registry).2, ?_, ?_⟩
        · rw [TypeRegistry.instantiate_imports, given]
          rfl
        · intro name member
          rw [genericBase] at member
          cases base : registry.get? own.baseType with
          | none => simp [base] at member
          | some d =>
            rw [base] at member
            exact ⟨rfl, d, rfl, List.mem_singleton.1 member⟩

/-- Binding a layer collects what it needs, some of it twice. -/
theorem sameImports_bindAliases (done : own.bindAliases registry entity = .ok (bound, imports)) :
    SameImports imports (TypeDescriptor.names (own.needed registry)) ∧
      ∀ name, own.symbol? = some name → registry.contains name := by
  rw [bindAliases, bind_eq_ok_iff] at done
  obtain ⟨⟨named, first⟩, bindName, done⟩ := done
  rw [bind_eq_ok_iff] at done
  obtain ⟨⟨last, more⟩, bindArguments, done⟩ := done
  cases done
  have name := nameBound bindName
  obtain ⟨again, rfl, known⟩ := argumentsBound bindArguments
  refine ⟨?_, name.registered⟩
  -- the class that arguments are written behind has been collected with the name
  have repeated : again ⊆ first := by
    intro x member
    obtain ⟨plain, d, found, rfl⟩ := known x member
    exact name.base plain d found
  have kept : named.arguments = own.arguments := by
    rw [arguments, arguments, name.extensions]
  show SameImports (first ++ (again ++ _)) _
  rw [← List.append_assoc, kept, needed, TypeDescriptor.names_append, ← name.collected]
  exact (SameImports.of_subset repeated).append (.refl _)

/-- What follows from an element changes nothing that a layer needs. -/
theorem needed_around (own element : Layer) (registry : TypeRegistry) :
    (own.around element).needed registry = own.needed registry := by
  cases container : own.container with
  | none => simp [around, container]
  | some kind => simp [around, needed, namedType, symbol?, arguments, container]

theorem symbol?_around (own element : Layer) : (own.around element).symbol? = own.symbol? := by
  rw [around]
  cases own.container <;> rfl

end Layer

/-! ## Properties and models -/

variable {registry : TypeRegistry}

/-- Binding a property collects what its layers need, from the innermost outwards. -/
theorem Property.sameImports_bindAliases {p bound : Property} {entity : String}
    {imports : List String} (done : p.bindAliases registry entity = .ok (bound, imports)) :
    SameImports imports (TypeDescriptor.names (p.layers.flatMap (·.needed registry))) ∧
      ∀ name ∈ p.layers.filterMap (·.symbol?), registry.contains name := by
  induction p generalizing bound entity imports with
  | leaf own =>
    rw [bindAliases, bind_eq_ok_iff] at done
    obtain ⟨⟨own', collected⟩, bindOwn, done⟩ := done
    cases done
    obtain ⟨same, registered⟩ := Layer.sameImports_bindAliases bindOwn
    simpa [layers] using ⟨same, registered⟩
  | nest own element ih =>
    rw [bindAliases, bind_eq_ok_iff] at done
    obtain ⟨⟨element', collected⟩, bindElement, done⟩ := done
    rw [bind_eq_ok_iff] at done
    obtain ⟨⟨own', more⟩, bindOwn, done⟩ := done
    cases done
    obtain ⟨inner, registeredInner⟩ := ih bindElement
    obtain ⟨outer, registeredOuter⟩ := Layer.sameImports_bindAliases bindOwn
    rw [Layer.needed_around] at outer
    rw [Layer.symbol?_around] at registeredOuter
    constructor
    · rw [layers, List.flatMap_append, TypeDescriptor.names_append]
      refine inner.append ?_
      simpa using outer
    · intro name member
      rw [layers, List.filterMap_append, List.mem_append] at member
      rcases member with member | member
      · exact registeredInner name member
      · exact registeredOuter name (by simpa using member)

namespace Model

/-- Binding the fields of a model collects what their layers need, field by field. -/
theorem sameImports_boundFields {modelName : String} {properties bound : List Property}
    {imports : List String} (done : boundFields registry modelName properties = .ok (bound, imports)) :
    SameImports imports
        (TypeDescriptor.names ((properties.flatMap (·.layers)).flatMap (·.needed registry))) ∧
      ∀ name ∈ (properties.flatMap (·.layers)).filterMap (·.symbol?), registry.contains name := by
  induction properties generalizing bound imports with
  | nil =>
    cases done
    exact ⟨.refl _, by simp⟩
  | cons p rest ih =>
    rw [boundFields, bind_eq_ok_iff] at done
    obtain ⟨⟨p', collected⟩, bindField, done⟩ := done
    rw [bind_eq_ok_iff] at done
    obtain ⟨⟨rest', more⟩, bindRest, done⟩ := done
    cases done
    obtain ⟨here, registeredHere⟩ := Property.sameImports_bindAliases bindField
    obtain ⟨later, registeredLater⟩ := ih bindRest
    rw [List.flatMap_cons]
    constructor
    · rw [List.flatMap_append, TypeDescriptor.names_append]
      exact here.append later
    · intro name member
      rw [List.filterMap_append, List.mem_append] at member
      rcases member with member | member
      · exact registeredHere name member
      · exact registeredLater name member

/-- Binding the parent of a model collects what the model needs for it. -/
theorem boundParent_imports {m : Model} {parent : Option String} {imports : List String}
    (done : m.boundParent registry = .ok (parent, imports)) :
    imports = TypeDescriptor.names (m.parentNeeded registry) ∧
      ∀ name, m.parentSymbol? = some name → registry.contains name := by
  rw [boundParent] at done
  cases read : m.extensions.parentAlias m.name with
  | error e => simp [read] at done
  | ok symbol =>
    have named := parentSymbol?_eq read
    rw [read] at done
    cases symbol with
    | none =>
      cases done
      exact ⟨by simp [parentNeeded, named], by simp [named]⟩
    | some name =>
      simp only [bind_eq_ok_iff] at done
      obtain ⟨d, required, args, readArgs, done⟩ := done
      cases done
      cases found : registry.get? name with
      | none => simp [TypeRegistry.require, found] at required
      | some d' =>
        simp only [TypeRegistry.require, found] at required
        cases required
        refine ⟨?_, by simp [named, TypeRegistry.contains, found]⟩
        rw [TypeRegistry.instantiate_imports]
        simp [parentNeeded, named, found, parentArguments_eq readArgs]

/-- If all models are bound, then there is a class for every alias that a model names, and its
imports are followed by the classes that it needs: those that are missing, each once, in the order
in which they are needed. -/
theorem bound_models_import_needed (registry : TypeRegistry) (models : List Model)
    (allBound : (bindAll registry models).fault = none) :
    List.Forall₂ (fun before after =>
        (∀ name ∈ before.symbols, registry.contains name) ∧
        after.imports.names = before.imports.names ++
          ((TypeDescriptor.names (before.needed registry)).filter
            (· ∉ before.imports.names)).eraseDups)
      models (bindAll registry models).elements := by
  have each := Progress.bound_of_no_fault (commits_bindAliases registry) allBound
  refine each.imp fun m m' bound => ?_
  rw [Model.bound, bind_eq_ok_iff] at bound
  obtain ⟨⟨parent, parentImports⟩, bindParent, bound⟩ := bound
  rw [bind_eq_ok_iff] at bound
  obtain ⟨⟨properties, imports⟩, bindFields, bound⟩ := bound
  cases bound
  obtain ⟨rfl, parentRegistered⟩ := boundParent_imports bindParent
  obtain ⟨same, registered⟩ := sameImports_boundFields bindFields
  constructor
  · intro name member
    rcases List.mem_append.1 member with ofParent | ofFields
    · exact parentRegistered name (Option.mem_toList.1 ofParent)
    · exact registered name ofFields
  · show (m.imports.extend _).names = _
    rw [((SameImports.refl _).append same) m.imports, ← TypeDescriptor.names_append]
    exact ImportSet.names_extend m.imports _

/-- A model with a list of pages of amounts, below a parent with two arguments. -/
def paged : Model where
  name := "Paged"
  className := "Paged"
  description := none
  properties := [.nest
    { Layer.plain "pages" "array" "List<String>" with container := some .list }
    (.leaf { Layer.plain "pages" "string" "String" with
      extensions := .ofList [(Extensions.typeKey, .str "Page"),
        (Extensions.argumentsKey, .arr [.str "Amount", .str "?"])] })]
  parent := none
  extensions := .ofList [(Extensions.parentKey, .str "Base"),
    (Extensions.parentArgumentsKey, .arr [.str "?", .str "Money"])]
  imports := ⟨["java.util.List"]⟩

/-- A registry in which two aliases have the same class, and the wildcard has one. -/
def pagedTypes : TypeRegistry :=
  TypeRegistry.empty.extend [⟨"Base", "acme.Base"⟩, ⟨"Page", "acme.Page"⟩,
    ⟨"Money", "acme.Money"⟩, ⟨"Amount", "acme.Money"⟩, ⟨"?", "acme.Open"⟩]

/-- Two aliases of one class add one name, and the wildcard adds none. -/
theorem bound_models_import_needed_paged :
    (bindAll pagedTypes [paged]).fault = none ∧
      ∀ after ∈ (bindAll pagedTypes [paged]).elements,
        after.imports.names = ["java.util.List", "acme.Base", "acme.Money", "acme.Page"] := by
  have allBound : (bindAll pagedTypes [paged]).fault = none := rfl
  refine ⟨allBound, fun after member => ?_⟩
  have each := bound_models_import_needed pagedTypes [paged] allBound
  obtain ⟨bound, rest, ⟨_, names⟩, none, same⟩ := List.forall₂_cons_left_iff.1 each
  cases none
  rw [same] at member
  rw [List.mem_singleton.1 member, names]
  decide

end Model

end SchemaBinder
