import SchemaBinder.Proofs.Binding.Steps
import SchemaBinder.Proofs.Json.Parts
/-!
# What binding a parameter can do

The steps of binding a parameter, opened once, as `Proofs.Binding.Steps` does for a layer.

A body takes the class of the alias that its JSON text names (`BodyBound`).  Any other parameter
first takes its types from its bound element (`ElementBound`), and then the class of its own alias
(`NameBound`).

The second half is about the list of parameters: which of them carry the headers of credentials,
and the mark `hasMore`, which no step reads.
-/

namespace SchemaBinder.Parameter

variable {registry : TypeRegistry} {p b : Parameter} {entity : String} {imports : List String}

/-! ## The steps -/

/-- The directive of a body is the first `x-type` inside the first `schema` of its JSON text. -/
theorem bodyDirective?_eq_get?_entries (fragment : Json) : bodyDirective? fragment =
    (Assoc.get? "schema" fragment.entries).bind fun schema =>
      Assoc.get? Extensions.typeKey schema.entries := by
  rw [bodyDirective?, Json.find?_eq_get?_entries]
  exact Option.bind_congr fun schema _ => Json.find?_eq_get?_entries Extensions.typeKey schema

/-- The alias that a body names. -/
def bodySymbol (p : Parameter) (entity : String) : Except Fault (Option String) :=
  match p.rawSchema with
  | none => .ok none
  | some text => bodyAlias entity text

/-- What becomes of a body with a given alias, or with none, and the names to import. -/
inductive BodyBound (registry : TypeRegistry) (p : Parameter) :
    Option String → Parameter → List String → Prop where
  | plain : BodyBound registry p none p []
  | symbol {name : String} {d : TypeDescriptor} : registry.get? name = some d →
      BodyBound registry p (some name) (p.withBodyType d name) [d.qualifiedName]

theorem bindBody_eq_ok_iff : p.bindBody registry entity = .ok (b, imports) ↔
    ∃ symbol, p.bodySymbol entity = .ok symbol ∧ BodyBound registry p symbol b imports := by
  have asBind : p.bindBody registry entity = p.bodySymbol entity >>= fun
      | none => .ok (p, [])
      | some name => registry.require name entity >>= fun d =>
          .ok (p.withBodyType d name, [d.qualifiedName]) := by
    rw [bindBody, bodySymbol]
    cases p.rawSchema with
    | none => rfl
    | some text =>
      dsimp only
      cases bodyAlias entity text with
      | error e => rfl
      | ok symbol => cases symbol <;> rfl
  rw [asBind, bind_eq_ok_iff]
  refine exists_congr fun symbol => and_congr_right fun _ => ?_
  cases symbol with
  | none =>
    constructor
    · rintro ⟨⟩
      exact .plain
    · intro done
      cases done
      rfl
  | some name =>
    rw [bind_eq_ok_iff]
    constructor
    · rintro ⟨d, required, done⟩
      cases done
      exact .symbol (TypeRegistry.require_eq_ok_iff.1 required)
    · intro done
      cases done with
      | symbol found => exact ⟨_, TypeRegistry.require_eq_ok_iff.2 found, rfl⟩

/-- The parameter with the class of an alias. -/
def withAlias (p : Parameter) (name : String) (d : TypeDescriptor) : Parameter :=
  { p with resolvedType := d.simpleName, baseType := name }

/-- What becomes of a parameter with a given alias, or with none, and the names to import. -/
inductive NameBound (registry : TypeRegistry) (p : Parameter) :
    Option String → Parameter → List String → Prop where
  | plain : NameBound registry p none p []
  | symbol {name : String} {d : TypeDescriptor} : registry.get? name = some d →
      NameBound registry p (some name) (p.withAlias name d) [d.qualifiedName]

theorem bindName_eq_ok_iff : p.bindName registry entity = .ok (b, imports) ↔
    ∃ symbol, p.extensions.symbolicType p.declaredType p.format entity = .ok symbol ∧
      NameBound registry p symbol b imports := by
  rw [bindName]
  cases p.extensions.symbolicType p.declaredType p.format entity with
  | error e => simp
  | ok symbol =>
    simp only [Except.ok.injEq, exists_eq_left']
    cases symbol with
    | none =>
      constructor
      · rintro ⟨⟩
        exact .plain
      · intro done
        cases done
        rfl
    | some name =>
      dsimp only
      rw [bind_eq_ok_iff]
      constructor
      · rintro ⟨d, required, done⟩
        cases done
        exact .symbol (TypeRegistry.require_eq_ok_iff.1 required)
      · intro done
        cases done with
        | symbol found => exact ⟨_, TypeRegistry.require_eq_ok_iff.2 found, rfl⟩

/-- The container parameter with the types that follow from an element. -/
def withElement (p : Parameter) (kind : ContainerKind) (items : Property) : Parameter :=
  { p with
    items := some items
    baseType := items.baseType
    resolvedType := kind.wrap items.resolvedType }

/-- What becomes of a parameter with an element or without one, and the names to import. -/
inductive ElementBound (registry : TypeRegistry) (entity : String) (p : Parameter) :
    Parameter → List String → Prop where
  | plain : p.container = none ∨ p.items = none → ElementBound registry entity p p []
  | element {kind : ContainerKind} {items bound : Property} {imports : List String} :
      p.container = some kind → p.items = some items →
      items.bindAliases registry (entity ++ "[]") = .ok (bound, imports) →
      ElementBound registry entity p (p.withElement kind bound) imports

theorem bindElement_eq_ok_iff : p.bindElement registry entity = .ok (b, imports) ↔
    ElementBound registry entity p b imports := by
  rw [bindElement]
  constructor
  · intro done
    split at done
    · next kind items container element =>
      obtain ⟨⟨bound, names⟩, bindItems, done⟩ := bind_eq_ok_iff.1 done
      cases done
      exact .element container element bindItems
    · next missing =>
      cases done
      refine .plain ?_
      cases container : p.container with
      | none => exact .inl rfl
      | some kind =>
        cases element : p.items with
        | none => exact .inr rfl
        | some items => exact absurd element (missing kind items container)
  · intro done
    cases done with
    | plain missing =>
      split
      · next kind items container element => simp [container, element] at missing
      · rfl
    | element container element bindItems =>
      split
      · next kind' items' container' element' =>
        cases container.symm.trans container'
        cases element.symm.trans element'
        exact bind_eq_ok_iff.2 ⟨_, bindItems, rfl⟩
      · next missing => exact absurd element (missing _ _ container)

/-- What becomes of a parameter, and the names to import. -/
inductive Bound (registry : TypeRegistry) (entity : String) (p : Parameter) :
    Parameter → List String → Prop where
  | body {symbol : Option String} {b : Parameter} {imports : List String} : p.isBody = true →
      p.bodySymbol entity = .ok symbol → BodyBound registry p symbol b imports →
      Bound registry entity p b imports
  | field {symbol : Option String} {typed b : Parameter} {first more : List String} :
      p.isBody = false → ElementBound registry entity p typed first →
      typed.extensions.symbolicType typed.declaredType typed.format entity = .ok symbol →
      NameBound registry typed symbol b more → Bound registry entity p b (first ++ more)

theorem bindAliases_eq_ok_iff : p.bindAliases registry entity = .ok (b, imports) ↔
    Bound registry entity p b imports := by
  rw [bindAliases]
  constructor
  · intro done
    split at done
    · next isBody =>
      obtain ⟨symbol, read, done⟩ := bindBody_eq_ok_iff.1 done
      exact .body isBody read done
    · next notBody =>
      obtain ⟨⟨typed, first⟩, element, done⟩ := bind_eq_ok_iff.1 done
      obtain ⟨⟨named, more⟩, name, done⟩ := bind_eq_ok_iff.1 done
      cases done
      obtain ⟨symbol, read, name⟩ := bindName_eq_ok_iff.1 name
      exact .field (by simpa using notBody) (bindElement_eq_ok_iff.1 element) read name
  · intro done
    cases done with
    | body isBody read done =>
      rw [if_pos isBody]
      exact bindBody_eq_ok_iff.2 ⟨_, read, done⟩
    | field notBody element read name =>
      rw [if_neg (by simp [notBody])]
      exact bind_eq_ok_iff.2 ⟨_, bindElement_eq_ok_iff.2 element,
        bind_eq_ok_iff.2 ⟨_, bindName_eq_ok_iff.2 ⟨_, read, name⟩, rfl⟩⟩

/-- What binding leaves alone in a parameter.  The extensions of a body take its alias. -/
structure Kept (p b : Parameter) : Prop where
  name : b.name = p.name
  location : b.location = p.location
  description : b.description = p.description
  declaredType : b.declaredType = p.declaredType
  format : b.format = p.format
  isBody : b.isBody = p.isBody
  isContainer : b.isContainer = p.isContainer
  container : b.container = p.container
  required : b.required = p.required
  hasMore : b.hasMore = p.hasMore
  rawSchema : b.rawSchema = p.rawSchema
  extensions : p.isBody = false → b.extensions = p.extensions

theorem Kept.trans {q : Parameter} (first : Kept p q) (second : Kept q b) : Kept p b where
  name := second.name.trans first.name
  location := second.location.trans first.location
  description := second.description.trans first.description
  declaredType := second.declaredType.trans first.declaredType
  format := second.format.trans first.format
  isBody := second.isBody.trans first.isBody
  isContainer := second.isContainer.trans first.isContainer
  container := second.container.trans first.container
  required := second.required.trans first.required
  hasMore := second.hasMore.trans first.hasMore
  rawSchema := second.rawSchema.trans first.rawSchema
  extensions notBody :=
    (second.extensions (first.isBody.trans notBody)).trans (first.extensions notBody)

variable {symbol : Option String}

theorem BodyBound.kept (isBody : p.isBody = true)
    (done : BodyBound registry p symbol b imports) : Kept p b := by
  cases done with
  | plain => constructor <;> intros <;> rfl
  | symbol =>
    rw [withBodyType]
    dsimp only
    split <;> constructor <;> first | rfl | simp [isBody]

theorem BodyBound.items (done : BodyBound registry p symbol b imports) : b.items = p.items := by
  cases done with
  | plain => rfl
  | symbol =>
    rw [withBodyType]
    dsimp only
    split <;> rfl

theorem ElementBound.kept (done : ElementBound registry entity p b imports) : Kept p b := by
  cases done <;> constructor <;> intros <;> rfl

theorem NameBound.kept (done : NameBound registry p symbol b imports) : Kept p b := by
  cases done <;> constructor <;> intros <;> rfl

theorem NameBound.items (done : NameBound registry p symbol b imports) : b.items = p.items := by
  cases done <;> rfl

/-! ## The mark of a following parameter -/

/-- No step reads the mark, and none changes it. -/
theorem Bound.hasMore (done : Bound registry entity p b imports) (hasMore : Bool) :
    Bound registry entity { p with hasMore } { b with hasMore } imports := by
  cases done with
  | body isBody read done =>
    refine .body isBody read ?_
    cases done with
    | plain => exact .plain
    | @symbol name d found =>
      have marked : BodyBound registry { p with hasMore } (some name)
          (({ p with hasMore } : Parameter).withBodyType d name) [d.qualifiedName] := .symbol found
      have same : ({ p with hasMore } : Parameter).withBodyType d name =
          { p.withBodyType d name with hasMore } := by
        rw [withBodyType, withBodyType]
        dsimp only
        split <;> rfl
      rwa [same] at marked
  | @field symbol typed _ first more notBody element read name =>
    have marked : ElementBound registry entity { p with hasMore } { typed with hasMore } first := by
      cases element with
      | plain missing => exact .plain missing
      | element container items bindItems => exact .element container items bindItems
    refine .field notBody marked read ?_
    cases name with
    | plain => exact .plain
    | symbol found => exact .symbol found

theorem link_ne_nil {ps : List Parameter} (nonempty : ps ≠ []) : link ps ≠ [] := by
  induction ps using link.induct with
  | case1 => contradiction
  | case2 p => simp [link]
  | case3 p rest more => simp [link]

theorem link_cons {p : Parameter} {rest : List Parameter} (nonempty : rest ≠ []) :
    link (p :: rest) = { p with hasMore := true } :: link rest := by
  cases rest with
  | nil => contradiction
  | cons q rest => rfl

theorem link_link (ps : List Parameter) : link (link ps) = link ps := by
  induction ps using link.induct with
  | case1 => rfl
  | case2 p => rfl
  | case3 p rest last ih =>
    have nonempty : rest ≠ [] := by
      rintro rfl
      exact last rfl
    rw [link_cons nonempty, link_cons (link_ne_nil nonempty), ih]

theorem any_isHeader_link (name : String) (ps : List Parameter) :
    (link ps).any (isHeader name) = ps.any (isHeader name) := by
  induction ps using link.induct with
  | case1 => rfl
  | case2 p => rfl
  | case3 p rest _ ih =>
    rw [link, List.any_cons, List.any_cons, ih]
    · rfl
    · assumption

/-! ## Headers of credentials -/

theorem isHeader_securityHeader (name : String) (description : Option String) :
    isHeader name (securityHeader name description) = true := by
  simp [isHeader, securityHeader, plain, Text.sameIgnoringCase]

/-- The header of a credential is among the parameters, if it has one. -/
def Carried (ps : List Parameter) (m : AuthMethod) : Prop :=
  ∀ name, m.headerName? = some name → ps.any (isHeader name) = true

theorem subset_addHeader (ps : List Parameter) (m : AuthMethod) : ps ⊆ addHeader ps m := by
  rw [addHeader]
  split
  · exact List.Subset.refl ps
  · split
    · exact List.Subset.refl ps
    · exact List.subset_append_left ps _

theorem Carried.of_subset {ps qs : List Parameter} {m : AuthMethod} (known : ps ⊆ qs)
    (carried : Carried ps m) : Carried qs m := by
  intro name named
  obtain ⟨p, member, header⟩ := List.any_eq_true.1 (carried name named)
  exact List.any_eq_true.2 ⟨p, known member, header⟩

theorem carried_addHeader (ps : List Parameter) (m : AuthMethod) : Carried (addHeader ps m) m := by
  intro name named
  rw [addHeader, named]
  dsimp only
  split
  · next there => exact there
  · simp [isHeader_securityHeader]

/-- In the end the headers of all credentials are there. -/
theorem carried_addHeaders (ps : List Parameter) (methods : List AuthMethod) :
    ps ⊆ addHeaders ps methods ∧ ∀ m ∈ methods, Carried (addHeaders ps methods) m := by
  induction methods generalizing ps with
  | nil => exact ⟨List.Subset.refl ps, fun m member => nomatch member⟩
  | cons m rest ih =>
    obtain ⟨known, carried⟩ := ih (addHeader ps m)
    refine ⟨List.Subset.trans (subset_addHeader ps m) known, List.forall_mem_cons.2 ⟨?_, carried⟩⟩
    exact (carried_addHeader ps m).of_subset known

/-- Headers that are there are not added again. -/
theorem addHeaders_of_carried {ps : List Parameter} {methods : List AuthMethod}
    (carried : ∀ m ∈ methods, Carried ps m) : addHeaders ps methods = ps := by
  induction methods with
  | nil => rfl
  | cons m rest ih =>
    have here : addHeader ps m = ps := by
      rw [addHeader]
      cases named : m.headerName? with
      | none => rfl
      | some name => exact if_pos (carried m List.mem_cons_self name named)
    show addHeaders (addHeader ps m) rest = ps
    rw [here]
    exact ih fun m' member => carried m' (List.mem_cons_of_mem m member)

theorem mem_addHeaders {ps : List Parameter} {methods : List AuthMethod} {q : Parameter}
    (member : q ∈ addHeaders ps methods) :
    q ∈ ps ∨ ∃ name description, q = securityHeader name description := by
  induction methods generalizing ps with
  | nil => exact .inl member
  | cons m rest ih =>
    rcases ih member with there | added
    · rw [addHeader] at there
      split at there
      · exact .inl there
      · split at there
        · exact .inl there
        · rcases List.mem_append.1 there with there | added
          · exact .inl there
          · exact .inr ⟨_, _, List.mem_singleton.1 added⟩
    · exact .inr added

theorem bound_securityHeader (registry : TypeRegistry) (entity name : String)
    (description : Option String) :
    Bound registry entity (securityHeader name description) (securityHeader name description)
      [] := by
  have read : (securityHeader name description).extensions.symbolicType "string" none entity =
      .ok none := by
    rw [Extensions.symbolicType]
    rfl
  exact .field rfl (.plain (.inl rfl)) read .plain

end SchemaBinder.Parameter
