import SchemaBinder.Proofs.Binding.Demands
import SchemaBinder.Proofs.Binding.Operations
/-!
# When operations are bound

An operation is `Sound` if the directives in it are well formed and every alias that they name has a
class.  Directives stand in four kinds of places: on the layers of what is returned and of responses,
on the layers of the elements of parameters, on parameters themselves, and in the JSON texts of
bodies.

Each step of binding an operation ends well exactly if its part is sound (`exists_…_iff`).  The name
of a type that stands alone is no directive, and with it nothing can go wrong.
-/

namespace SchemaBinder

/-! ## Sound operations -/

/-- The layers of the property are sound. -/
def Property.Sound (registry : TypeRegistry) (p : Property) : Prop :=
  ∀ own ∈ p.layers, own.Sound registry

namespace Parameter

/-- The directives of a parameter that is no body are well formed, and there are classes for the
aliases in them. -/
structure FieldSound (registry : TypeRegistry) (p : Parameter) : Prop where
  /-- The alias of a parameter that is declared as `string` is a text. -/
  alias_ : Text.sameIgnoringCase p.declaredType "string" →
    ∀ v, p.extensions.get? Extensions.typeKey = some v → ∃ s, v = .str s ∧ registry.Admits s
  /-- Without it the format may name an alias. -/
  format : Text.sameIgnoringCase p.declaredType "string" →
    p.extensions.get? Extensions.typeKey = none →
    ∀ s, p.format = some ("x-" ++ s) → registry.Admits s
  /-- The element of a container is sound. -/
  element : p.container ≠ none → ∀ items, p.items = some items → items.Sound registry

/-- The text of a body, if it has one, is JSON, and the first `x-type` inside the first `schema`, if
there is one, is a text for which there is a class. -/
def BodySound (registry : TypeRegistry) (p : Parameter) : Prop :=
  ∀ text, p.rawSchema = some text → ∃ fragment, Json.read? text = some fragment ∧
    ∀ schema v, Assoc.get? "schema" fragment.entries = some schema →
      Assoc.get? Extensions.typeKey schema.entries = some v → ∃ s, v = .str s ∧ registry.Admits s

/-- The directives of a parameter are well formed, and there are classes for the aliases in them. -/
def Sound (registry : TypeRegistry) (p : Parameter) : Prop :=
  if p.isBody then p.BodySound registry else p.FieldSound registry

end Parameter

/-- The directives of an operation are well formed, and there are classes for the aliases in them. -/
structure Operation.Sound (registry : TypeRegistry) (o : Operation) : Prop where
  returned : ∀ p, o.returnProperty = some p → p.Sound registry
  responses : ∀ r ∈ o.responses, ∀ p, r.schema = some p → p.Sound registry
  parameters : ∀ p ∈ o.parameters, p.Sound registry

/-! ## Parts -/

variable {registry : TypeRegistry} {entity : String}

theorem exists_bindParts_iff {α : Type} {bind : α → Except Fault (α × List String)}
    {l : List α} : (∃ b, bindParts bind l = .ok b) ↔ ∀ a ∈ l, ∃ b, bind a = .ok b := by
  constructor
  · rintro ⟨⟨bs, imports⟩, done⟩ a member
    obtain ⟨b, _, names, bound, _⟩ := exists_of_mem_left (forall₂_of_bindParts done) a member
    exact ⟨_, bound⟩
  · intro each
    induction l with
    | nil => exact ⟨_, rfl⟩
    | cons a rest ih =>
      obtain ⟨⟨⟨b, first⟩, here⟩, later⟩ := List.forall_mem_cons.1 each
      obtain ⟨⟨bs, more⟩, later⟩ := ih later
      exact ⟨_, bindParts_cons_eq_ok_iff.2 ⟨b, bs, first, more, here, later, rfl, rfl⟩⟩

theorem Property.exists_bindAliases_iff {p : Property} :
    (∃ b, p.bindAliases registry entity = .ok b) ↔ p.Sound registry := by
  have sound : p.Sound registry ↔ ∀ d ∈ p.layers.flatMap Layer.demands, d.Met registry := by
    rw [List.forall_mem_flatMap]
    exact forall₂_congr fun own _ => Layer.sound_iff
  have answers := p.bindAliases_answers registry entity
  rw [sound]
  cases outcome : p.bindAliases registry entity with
  | ok b =>
    rw [outcome] at answers
    exact iff_of_true ⟨b, rfl⟩ answers
  | error e =>
    rw [outcome] at answers
    obtain ⟨d, first, _⟩ := answers
    exact iff_of_false (fun ⟨b, done⟩ => nomatch done) first.not_all_met

/-! ## Parameters -/

theorem TypeRegistry.contains_iff {name : String} :
    registry.contains name ↔ ∃ d, registry.get? name = some d :=
  Option.isSome_iff_exists

theorem TypeRegistry.admits_iff_contains {s : String} :
    registry.Admits s ↔ ∀ name, Text.nonBlank? s = some name → registry.contains name := by
  simp [admits_iff, Demand.Met]

namespace Parameter

variable {p : Parameter} {symbol : Option String}

theorem exists_bodyBound_iff : (∃ b imports, BodyBound registry p symbol b imports) ↔
    ∀ name, symbol = some name → registry.contains name := by
  constructor
  · rintro ⟨b, imports, done⟩ name rfl
    cases done with
    | symbol found => exact TypeRegistry.contains_iff.2 ⟨_, found⟩
  · intro registered
    cases symbol with
    | none => exact ⟨p, [], .plain⟩
    | some name =>
      obtain ⟨d, found⟩ := TypeRegistry.contains_iff.1 (registered name rfl)
      exact ⟨_, _, .symbol found⟩

theorem exists_nameBound_iff : (∃ b imports, NameBound registry p symbol b imports) ↔
    ∀ name, symbol = some name → registry.contains name := by
  constructor
  · rintro ⟨b, imports, done⟩ name rfl
    cases done with
    | symbol found => exact TypeRegistry.contains_iff.2 ⟨_, found⟩
  · intro registered
    cases symbol with
    | none => exact ⟨p, [], .plain⟩
    | some name =>
      obtain ⟨d, found⟩ := TypeRegistry.contains_iff.1 (registered name rfl)
      exact ⟨_, _, .symbol found⟩

theorem exists_elementBound_iff : (∃ b imports, ElementBound registry entity p b imports) ↔
    (p.container ≠ none → ∀ items, p.items = some items → items.Sound registry) := by
  constructor
  · rintro ⟨b, imports, done⟩ container items there
    cases done with
    | plain missing => simp [container, there] at missing
    | element _ there' bindItems =>
      cases there.symm.trans there'
      exact Property.exists_bindAliases_iff.1 ⟨_, bindItems⟩
  · intro sound
    cases container : p.container with
    | none => exact ⟨p, [], .plain (.inl container)⟩
    | some kind =>
      cases items : p.items with
      | none => exact ⟨p, [], .plain (.inr items)⟩
      | some element =>
        have element := sound (by simp [container]) element items
        obtain ⟨⟨bound, imports⟩, bindItems⟩ := Property.exists_bindAliases_iff.2 element
        exact ⟨_, _, .element container items bindItems⟩

theorem bodySound_iff : p.BodySound registry ↔
    ∀ text, p.rawSchema = some text → ∃ fragment, Json.read? text = some fragment ∧
      ∀ v, bodyDirective? fragment = some v → ∃ s, v = .str s ∧ registry.Admits s := by
  refine forall₂_congr fun text _ => exists_congr fun fragment => and_congr_right fun _ => ?_
  simp only [bodyDirective?_eq_get?_entries, Option.bind_eq_some_iff]
  exact ⟨fun all v ⟨schema, first, there⟩ => all schema v first there,
    fun all schema v first there => all v ⟨schema, first, there⟩⟩

theorem exists_bodySymbol_iff : (∃ symbol, p.bodySymbol entity = .ok symbol ∧
    ∀ name, symbol = some name → registry.contains name) ↔ p.BodySound registry := by
  rw [bodySound_iff, bodySymbol]
  cases p.rawSchema with
  | none => simp
  | some text =>
    simp only [Option.some.injEq, forall_eq', bodyAlias]
    cases Json.read? text with
    | none => simp
    | some fragment =>
      simp only [Option.some.injEq, exists_eq_left']
      cases bodyDirective? fragment with
      | none => simp
      | some v => cases v <;> simp [TypeRegistry.admits_iff_contains]

theorem exists_fieldSymbol_iff : (∃ symbol,
      p.extensions.symbolicType p.declaredType p.format entity = .ok symbol ∧
        ∀ name, symbol = some name → registry.contains name) ↔
    (Text.sameIgnoringCase p.declaredType "string" →
      ∀ v, p.extensions.get? Extensions.typeKey = some v → ∃ s, v = .str s ∧ registry.Admits s) ∧
    (Text.sameIgnoringCase p.declaredType "string" →
      p.extensions.get? Extensions.typeKey = none →
      ∀ s, p.format = some ("x-" ++ s) → registry.Admits s) := by
  rw [Extensions.symbolicType]
  by_cases text : Text.sameIgnoringCase p.declaredType "string"
  · rw [if_pos text]
    cases p.extensions.get? Extensions.typeKey with
    | none => simp [text, TypeRegistry.admits_format_iff, Demand.Met]
    | some v => cases v <;> simp [text, TypeRegistry.admits_iff_contains]
  · simp [text]

theorem exists_bindAliases_iff :
    (∃ b, p.bindAliases registry entity = .ok b) ↔ p.Sound registry := by
  simp only [Prod.exists, bindAliases_eq_ok_iff, Sound]
  by_cases isBody : p.isBody
  · rw [if_pos isBody, ← @exists_bodySymbol_iff _ entity]
    constructor
    · rintro ⟨b, imports, done⟩
      cases done with
      | body _ read done => exact ⟨_, read, exists_bodyBound_iff.1 ⟨b, imports, done⟩⟩
      | field notBody => simp [isBody] at notBody
    · rintro ⟨symbol, read, registered⟩
      obtain ⟨b, imports, done⟩ := exists_bodyBound_iff.2 registered
      exact ⟨b, imports, .body isBody read done⟩
  · rw [if_neg isBody]
    replace isBody : p.isBody = false := by simpa using isBody
    -- the alias is read from what the element leaves alone
    have reads {typed : Parameter} {first : List String}
        (element : ElementBound registry entity p typed first) :
        typed.extensions.symbolicType typed.declaredType typed.format entity =
          p.extensions.symbolicType p.declaredType p.format entity := by
      rw [element.kept.extensions isBody, element.kept.declaredType, element.kept.format]
    constructor
    · rintro ⟨b, imports, done⟩
      cases done with
      | body notField => simp [isBody] at notField
      | field _ element read name =>
        rw [reads element] at read
        obtain ⟨alias_, format⟩ :=
          exists_fieldSymbol_iff.1 ⟨_, read, exists_nameBound_iff.1 ⟨_, _, name⟩⟩
        exact ⟨alias_, format, exists_elementBound_iff.1 ⟨_, _, element⟩⟩
    · intro sound
      obtain ⟨typed, first, element⟩ := exists_elementBound_iff.2 sound.element
      obtain ⟨symbol, read, registered⟩ :=
        exists_fieldSymbol_iff.2 ⟨sound.alias_, sound.format⟩
      obtain ⟨b, more, name⟩ := exists_nameBound_iff.2 registered
      exact ⟨b, first ++ more, .field isBody element ((reads element).trans read) name⟩

end Parameter

/-! ## Operations -/

theorem Response.exists_bindAliases_iff {r : Response} :
    (∃ b, r.bindAliases registry entity = .ok b) ↔
      ∀ p, r.schema = some p → p.Sound registry := by
  simp only [Prod.exists, bindAliases_eq_ok_iff_outcome]
  constructor
  · rintro ⟨b, imports, done⟩ p there
    cases done with
    | body there' bindSchema =>
      cases there.symm.trans there'
      exact Property.exists_bindAliases_iff.1 ⟨_, bindSchema⟩
    | name missing => cases missing.symm.trans there
  · intro sound
    cases schema : r.schema with
    | none => exact ⟨_, _, .name schema⟩
    | some p =>
      obtain ⟨⟨bound, imports⟩, bindSchema⟩ := Property.exists_bindAliases_iff.2 (sound p schema)
      exact ⟨_, _, .body schema bindSchema⟩

namespace Operation

variable {o : Operation}

theorem exists_boundReturn_iff : (∃ b, o.boundReturn registry = .ok b) ↔
    ∀ p, o.returnProperty = some p → p.Sound registry := by
  simp only [Prod.exists, boundReturn_eq_ok_iff_outcome]
  constructor
  · rintro ⟨_, _, imports, done⟩ p there
    cases done with
    | value there' bindReturn =>
      cases there.symm.trans there'
      exact Property.exists_bindAliases_iff.1 ⟨_, bindReturn⟩
    | name missing => cases missing.symm.trans there
  · intro sound
    cases returned : o.returnProperty with
    | none => exact ⟨_, _, _, .name returned⟩
    | some p =>
      obtain ⟨⟨bound, imports⟩, bindReturn⟩ := Property.exists_bindAliases_iff.2 (sound p returned)
      exact ⟨_, _, _, .value returned bindReturn⟩

theorem exists_bound_iff {options : OperationOptions} {basePath : Option String} :
    (∃ b, o.bound registry options basePath = .ok b) ↔ o.Sound registry := by
  have responses : (∃ b, Response.bindEach registry o.operationId o.responses = .ok b) ↔
      ∀ r ∈ o.responses, ∀ p, r.schema = some p → p.Sound registry := by
    rw [Response.bindEach_eq, exists_bindParts_iff]
    exact forall₂_congr fun r _ => Response.exists_bindAliases_iff
  have parameters : (∃ b, Parameter.bindEach registry o.operationId o.parameters = .ok b) ↔
      ∀ p ∈ o.parameters, p.Sound registry := by
    rw [Parameter.bindEach_eq, exists_bindParts_iff]
    exact forall₂_congr fun p _ => Parameter.exists_bindAliases_iff
  constructor
  · rintro ⟨b, done⟩
    obtain ⟨_, _, _, _, _, _, _, bindReturn, bindResponses, bindParameters, _⟩ :=
      bound_eq_ok_iff.1 done
    exact ⟨exists_boundReturn_iff.1 ⟨_, bindReturn⟩, responses.1 ⟨_, bindResponses⟩,
      parameters.1 ⟨_, bindParameters⟩⟩
  · intro sound
    obtain ⟨⟨_, _, _⟩, bindReturn⟩ := exists_boundReturn_iff.2 sound.returned
    obtain ⟨⟨_, _⟩, bindResponses⟩ := responses.2 sound.responses
    obtain ⟨⟨_, _⟩, bindParameters⟩ := parameters.2 sound.parameters
    exact ⟨_, bound_eq_ok_iff.2 ⟨_, _, _, _, _, _, _, bindReturn, bindResponses, bindParameters, rfl⟩⟩

/-- The operation without the names of types that stand beside the types, or alone. -/
def unnamed (o : Operation) : Operation :=
  { o with
    returnType := none
    responses := o.responses.map fun r => { r with baseType := none } }

theorem sound_unnamed_iff : o.unnamed.Sound registry ↔ o.Sound registry := by
  constructor
  · rintro ⟨returned, responses, parameters⟩
    exact ⟨returned, List.forall_mem_map.1 responses, parameters⟩
  · rintro ⟨returned, responses, parameters⟩
    exact ⟨returned, List.forall_mem_map.2 responses, parameters⟩

end Operation

theorem Progress.fault_eq_none_iff {α : Type} {change : Change α Unit} {bound : α → Except Fault α}
    (commits : change.Commits bound) {l : List α} :
    (ofEach change l).fault = none ↔ ∀ a ∈ l, ∃ b, bound a = .ok b := by
  induction l with
  | nil => exact iff_of_true rfl fun a member => nomatch member
  | cons a rest ih =>
    rw [List.forall_mem_cons, ← ih]
    cases here : bound a with
    | error e =>
      rw [ofEach_cons_of_error commits rest here]
      simp
    | ok b =>
      rw [ofEach_cons_of_ok commits rest here]
      simp

/-- Binding succeeds exactly on sound operations.  It makes no difference to that whether the names
of types are there, so a name that stands alone and has no class does no harm. -/
theorem Api.bound_operations_iff_sound (registry : TypeRegistry) (options : OperationOptions)
    (api : Api) :
    ((bindAll registry options api).fault = none ↔ ∀ o ∈ api.operations, o.Sound registry) ∧
    ((bindAll registry options
        { api with operations := api.operations.map Operation.unnamed }).fault = none ↔
      (bindAll registry options api).fault = none) := by
  have success (operations : List Operation) :
      (bindAll registry options { api with operations }).fault = none ↔
        ∀ o ∈ operations, o.Sound registry := by
    have commits :=
      Operation.commits_bindAndGroup registry options (options.rootPath api.basePath)
    rw [bindAll, Progress.fault_eq_none_iff commits]
    exact forall₂_congr fun o _ => Operation.exists_bound_iff
  refine ⟨success api.operations, ?_⟩
  rw [success, success api.operations, List.forall_mem_map]
  exact forall₂_congr fun o _ => Operation.sound_unnamed_iff

end SchemaBinder
