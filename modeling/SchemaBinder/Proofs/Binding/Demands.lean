import SchemaBinder.Proofs.Binding.Imports
import SchemaBinder.Proofs.Binding.Steps
/-!
# When binding succeeds

A model is `Sound` if its directives are well formed and every alias they name has a class.  The
same is listed as `demands`, in the order in which binding comes across them.

An outcome `Answers` a list of demands if it is a result exactly when all of them are met, and
otherwise the fault of the first that is not.  Outcomes that follow one another answer their
demands one after the other (`Answers.bind`), so each function of binding is opened once, and
`bound_models_iff_sound` puts the answers together.
-/

namespace SchemaBinder

/-! ## Sound models -/

/-- The value is a text or a list of texts. -/
def Json.IsTexts (v : Json) : Prop :=
  (∃ s, v = .str s) ∨ ∃ ss, v = .ofStrs ss

/-- The value is a text, or a list of this one text. -/
def Json.IsOnly (name : String) (v : Json) : Prop :=
  v = .str name ∨ v = .arr [.str name]

/-- The text is blank, or there is a class for it once it is trimmed. -/
def TypeRegistry.Admits (registry : TypeRegistry) (s : String) : Prop :=
  Text.trim s = "" ∨ registry.contains (Text.trim s)

/-- The directives of a layer are well formed, and there are classes for the aliases in them. -/
structure Layer.Sound (registry : TypeRegistry) (own : Layer) : Prop where
  /-- The alias of a field that is declared as `string` is a text. -/
  alias_ : Text.sameIgnoringCase own.declaredType "string" →
    ∀ v, own.extensions.get? Extensions.typeKey = some v → ∃ s, v = .str s ∧ registry.Admits s
  /-- Without it the format may name an alias. -/
  format : Text.sameIgnoringCase own.declaredType "string" →
    own.extensions.get? Extensions.typeKey = none →
    ∀ s, own.format = some ("x-" ++ s) → registry.Admits s
  /-- Type arguments are texts and do not stand on a container. -/
  arguments : ∀ v, own.extensions.get? Extensions.argumentsKey = some v →
    v.IsTexts ∧ own.container = none

/-- The directives of a model and of its fields are well formed, and there are classes for the
aliases in them. -/
structure Model.Sound (registry : TypeRegistry) (m : Model) : Prop where
  /-- A model has at most one parent.  Its type arguments count only if there is one. -/
  parent : ∀ v, m.extensions.get? Extensions.parentKey = some v →
    (∃ name, v.IsOnly name ∧ registry.contains name) ∧
      ∀ w, m.extensions.get? Extensions.parentArgumentsKey = some w → w.IsTexts
  /-- The fields are sound at every depth. -/
  layers : ∀ own ∈ m.layers, own.Sound registry

/-! ## Demands -/

/-- What binding asks for when it comes across a directive. -/
inductive Demand where
  /-- There is a class for an alias. -/
  | registered (name : String)
  /-- A directive is well formed. -/
  | wellFormed (holds : Prop)

namespace Demand

/-- The demand is met. -/
def Met (registry : TypeRegistry) : Demand → Prop
  | registered name => registry.contains name
  | wellFormed holds => holds

/-- The fault says that the demand is not met. -/
def Blamed (e : Fault) : Demand → Prop
  | registered name => ∃ entity, e = .unresolvedAlias name entity
  | wellFormed _ => ∃ cause, e = .schema cause

end Demand

/-- The first of some demands that is not met. -/
inductive FirstUnmet (registry : TypeRegistry) : List Demand → Demand → Prop where
  | here {d : Demand} {rest : List Demand} : ¬ d.Met registry → FirstUnmet registry (d :: rest) d
  | later {met d : Demand} {rest : List Demand} : met.Met registry → FirstUnmet registry rest d →
      FirstUnmet registry (met :: rest) d

namespace FirstUnmet

variable {registry : TypeRegistry} {ds : List Demand} {d d' : Demand}

theorem unique (first : FirstUnmet registry ds d) (other : FirstUnmet registry ds d') : d = d' := by
  induction first with
  | here unmet =>
    cases other with
    | here => rfl
    | later met => exact absurd met unmet
  | later met _ ih =>
    cases other with
    | here unmet => exact absurd met unmet
    | later _ other => exact ih other

theorem not_all_met (first : FirstUnmet registry ds d) : ¬ ∀ b ∈ ds, b.Met registry := by
  intro all
  induction first with
  | here unmet => exact unmet (all _ List.mem_cons_self)
  | later _ _ ih => exact ih fun b member => all b (List.mem_cons_of_mem _ member)

theorem append_left (first : FirstUnmet registry ds d) (more : List Demand) :
    FirstUnmet registry (ds ++ more) d := by
  induction first with
  | here unmet => exact .here unmet
  | later met _ ih => exact .later met ih

theorem append_right {before : List Demand} (met : ∀ b ∈ before, b.Met registry)
    (first : FirstUnmet registry ds d) : FirstUnmet registry (before ++ ds) d := by
  induction before with
  | nil => exact first
  | cons b rest ih =>
    exact .later (met b List.mem_cons_self)
      (ih fun c member => met c (List.mem_cons_of_mem b member))

end FirstUnmet

/-- The outcome is a result if all demands are met, and otherwise the fault of the first that is
not. -/
def Answers (registry : TypeRegistry) {α : Type} (outcome : Except Fault α) (ds : List Demand) :
    Prop :=
  match outcome with
  | .ok _ => ∀ d ∈ ds, d.Met registry
  | .error e => ∃ d, FirstUnmet registry ds d ∧ d.Blamed e

namespace Answers

variable {registry : TypeRegistry} {α β : Type} {ds es : List Demand}

theorem nil (a : α) : Answers registry (.ok a) [] :=
  fun _ member => nomatch member

theorem of_met {a : α} {d : Demand} (met : d.Met registry) : Answers registry (.ok a) [d] := by
  intro b member
  rwa [List.mem_singleton.1 member]

theorem malformed {holds : Prop} {cause : SchemaFault} (broken : ¬ holds) (more : List Demand) :
    Answers registry (.error (.schema cause) : Except Fault α) (.wellFormed holds :: more) :=
  ⟨_, .here broken, cause, rfl⟩

theorem unregistered {name entity : String} (missing : ¬ registry.contains name)
    (more : List Demand) :
    Answers registry (.error (.unresolvedAlias name entity) : Except Fault α)
      (.registered name :: more) :=
  ⟨_, .here missing, entity, rfl⟩

theorem cons {x : Except Fault α} {d : Demand} (met : d.Met registry)
    (answers : Answers registry x ds) : Answers registry x (d :: ds) := by
  cases x with
  | ok a => exact List.forall_mem_cons.2 ⟨met, answers⟩
  | error e =>
    obtain ⟨b, first, blamed⟩ := answers
    exact ⟨b, .later met first, blamed⟩

theorem bind {x : Except Fault α} {f : α → Except Fault β} (first : Answers registry x ds)
    (next : ∀ a, x = .ok a → Answers registry (f a) es) :
    Answers registry (x >>= f) (ds ++ es) := by
  cases x with
  | error e =>
    obtain ⟨d, unmet, blamed⟩ := first
    exact ⟨d, unmet.append_left es, blamed⟩
  | ok a =>
    have after := next a rfl
    show Answers registry (f a) (ds ++ es)
    cases outcome : f a with
    | ok b =>
      rw [outcome] at after
      exact List.forall_mem_append.2 ⟨first, after⟩
    | error e =>
      rw [outcome] at after
      obtain ⟨d, unmet, blamed⟩ := after
      exact ⟨d, unmet.append_right first, blamed⟩

/-- What cannot fail asks for nothing more. -/
theorem bind_of_ok {x : Except Fault α} {f : α → Except Fault β} (answers : Answers registry x ds)
    (ends : ∀ a, ∃ b, f a = .ok b) : Answers registry (x >>= f) ds := by
  rw [← List.append_nil ds]
  refine answers.bind fun a _ => ?_
  obtain ⟨b, done⟩ := ends a
  rw [done]
  exact .nil b

theorem map {x : Except Fault α} {f : α → β} :
    Answers registry (x.map f) ds ↔ Answers registry x ds := by
  cases x <;> rfl

/-- A directive is read if it is well formed, and otherwise the schema is to blame. -/
theorem of_ok_iff {x : Except Fault α} {holds : Prop} (iff : (∃ a, x = .ok a) ↔ holds)
    (schema : ∀ e, x = .error e → ∃ cause, e = .schema cause) :
    Answers registry x [.wellFormed holds] := by
  cases x with
  | ok a => exact .of_met (iff.1 ⟨a, rfl⟩)
  | error e =>
    obtain ⟨cause, rfl⟩ := schema e rfl
    refine .malformed (fun holds => ?_) []
    obtain ⟨a, read⟩ := iff.2 holds
    cases read

/-- The fault tells which demand is the first that is not met. -/
theorem unresolved_iff {e : Fault} (answers : Answers registry (.error e : Except Fault α) ds)
    (name : String) :
    (∃ entity, e = .unresolvedAlias name entity) ↔ FirstUnmet registry ds (.registered name) := by
  obtain ⟨d, first, blamed⟩ := answers
  constructor
  · rintro ⟨entity, rfl⟩
    cases d with
    | registered other =>
      obtain ⟨_, same⟩ := blamed
      cases same
      exact first
    | wellFormed holds =>
      obtain ⟨_, other⟩ := blamed
      cases other
  · intro unmet
    cases first.unique unmet
    exact blamed

theorem schema_iff {e : Fault} (answers : Answers registry (.error e : Except Fault α) ds) :
    (∃ cause, e = .schema cause) ↔ ∀ name, ¬ FirstUnmet registry ds (.registered name) := by
  obtain ⟨d, first, blamed⟩ := answers
  constructor
  · rintro ⟨cause, rfl⟩ name unmet
    cases first.unique unmet
    obtain ⟨_, other⟩ := blamed
    cases other
  · intro noAlias
    cases d with
    | registered name => exact absurd first (noAlias name)
    | wellFormed holds => exact blamed

end Answers

theorem bindParts_answers {registry : TypeRegistry} {α : Type}
    {bind : α → Except Fault (α × List String)} {demands : α → List Demand}
    (each : ∀ a, Answers registry (bind a) (demands a)) (l : List α) :
    Answers registry (bindParts bind l) (l.flatMap demands) := by
  induction l with
  | nil => exact .nil _
  | cons a rest ih =>
    rw [bindParts, List.flatMap_cons]
    refine (each a).bind fun b _ => ?_
    exact ih.bind_of_ok fun bs => ⟨_, rfl⟩

/-! ## What directives ask for -/

namespace Extensions

variable {registry : TypeRegistry}

theorem texts_eq_ok_iff {key entity : String} {items : List Json} {ss : List String} :
    texts key entity items = .ok ss ↔ items = ss.map .str := by
  induction items generalizing ss with
  | nil => cases ss <;> simp [texts]
  | cons v rest ih =>
    cases v with
    | str s =>
      rw [texts]
      cases later : texts key entity rest with
      | ok more =>
        cases ih.1 later
        cases ss <;> simp [Except.map, List.map_inj_right]
      | error e =>
        simp only [Except.map, reduceCtorEq, false_iff]
        intro same
        obtain ⟨_, ss, rfl, _, rfl⟩ := List.map_eq_cons_iff.1 same.symm
        rw [ih.2 rfl] at later
        cases later
    | _ => cases ss <;> simp [texts]

theorem texts_eq_error {key entity : String} {items : List Json} {e : Fault}
    (refused : texts key entity items = .error e) : ∃ cause, e = .schema cause := by
  induction items with
  | nil => cases refused
  | cons v rest ih =>
    cases v with
    | str s =>
      rw [texts] at refused
      cases later : texts key entity rest with
      | ok more =>
        rw [later] at refused
        cases refused
      | error e' =>
        rw [later] at refused
        cases refused
        exact ih later
    | _ =>
      cases refused
      exact ⟨_, rfl⟩

theorem textList_eq_ok_iff {key entity : String} {v : Json} {ss : List String} :
    textList key entity v = .ok ss ↔ v = .ofStrs ss ∨ ∃ s, v = .str s ∧ ss = [s] := by
  cases v with
  | str s => simp [textList, Json.ofStrs, eq_comm]
  | arr items => simp [textList, texts_eq_ok_iff, Json.ofStrs]
  | _ => simp [textList, Json.ofStrs]

theorem textList_eq_error {key entity : String} {v : Json} {e : Fault}
    (refused : textList key entity v = .error e) : ∃ cause, e = .schema cause := by
  cases v with
  | str s => cases refused
  | arr items => exact texts_eq_error refused
  | _ =>
    cases refused
    exact ⟨_, rfl⟩

theorem textList_answers (key entity : String) (v : Json) :
    Answers registry (textList key entity v) [.wellFormed v.IsTexts] := by
  refine .of_ok_iff ?_ fun e => textList_eq_error
  simp only [textList_eq_ok_iff, Json.IsTexts]
  constructor
  · rintro ⟨ss, listed | ⟨s, text, rfl⟩⟩
    · exact .inr ⟨ss, listed⟩
    · exact .inl ⟨s, text⟩
  · rintro (⟨s, text⟩ | ⟨ss, listed⟩)
    · exact ⟨[s], .inr ⟨s, text, rfl⟩⟩
    · exact ⟨ss, .inl listed⟩

theorem typeArguments_answers (extensions : Extensions) (key entity : String) :
    Answers registry (typeArguments extensions key entity)
      ((extensions.get? key).toList.map fun v => .wellFormed v.IsTexts) := by
  rw [typeArguments]
  cases extensions.get? key with
  | none => exact .nil _
  | some v =>
    cases v with
    | str s => exact .of_met (.inl ⟨s, rfl⟩)
    | _ => exact Answers.map.2 (textList_answers key entity _)

theorem get?_of_typeArguments {extensions : Extensions} {key entity : String}
    (read : typeArguments extensions key entity = .ok none) : extensions.get? key = none := by
  unfold typeArguments at read
  split at read
  · next missing => exact missing
  · cases read
  · next v _ _ =>
    cases outcome : textList key entity v <;> rw [outcome] at read <;> cases read

end Extensions

theorem TypeRegistry.require_answers (registry : TypeRegistry) (name entity : String) :
    Answers registry (registry.require name entity) [.registered name] := by
  rw [require]
  cases found : registry.get? name with
  | some d => exact .of_met (by simp [Demand.Met, contains, found])
  | none => exact .unregistered (by simp [contains, found]) []

/-! ## Layers -/

namespace Layer

/-- What the alias of a layer asks for. -/
def nameDemands (own : Layer) : List Demand :=
  if Text.sameIgnoringCase own.declaredType "string" then
    match own.extensions.get? Extensions.typeKey with
    | some v =>
      .wellFormed v.asStr?.isSome :: (v.asStr?.bind Text.nonBlank?).toList.map .registered
    | none => (Extensions.formatAlias? own.format).toList.map .registered
  else []

theorem textDemands (s : String) :
    ((Json.str s).asStr?.bind Text.nonBlank?).toList.map Demand.registered =
      (Text.nonBlank? s).toList.map Demand.registered := by
  rw [Json.asStr?, Option.bind_some]

/-- What the type arguments of a layer ask for. -/
def argumentDemands (own : Layer) : List Demand :=
  match own.extensions.get? Extensions.argumentsKey with
  | some v => [.wellFormed v.IsTexts, .wellFormed (own.container = none)]
  | none => []

/-- What a layer asks for. -/
def demands (own : Layer) : List Demand :=
  own.nameDemands ++ own.argumentDemands

variable {registry : TypeRegistry} {own bound : Layer} {entity : String}

theorem Kept.demands (kept : Kept own bound) : bound.demands = own.demands := by
  simp only [Layer.demands, nameDemands, argumentDemands, kept.declaredType, kept.format,
    kept.extensions, kept.container]

theorem bindName_answers_symbol {symbol : Option String}
    (read : own.extensions.symbolicType own.declaredType own.format entity = .ok symbol) :
    Answers registry (own.bindName registry entity) (symbol.toList.map .registered) := by
  rw [bindName, read]
  cases symbol with
  | some name =>
    have required := registry.require_answers name entity
    dsimp only
    cases outcome : registry.require name entity <;> rw [outcome] at required <;> exact required
  | none =>
    dsimp only
    split
    · exact .nil _
    · split <;> exact .nil _

theorem bindName_answers (own : Layer) :
    Answers registry (own.bindName registry entity) own.nameDemands := by
  rw [nameDemands]
  by_cases text : Text.sameIgnoringCase own.declaredType "string"
  · rw [if_pos text]
    cases given : own.extensions.get? Extensions.typeKey with
    | none => exact bindName_answers_symbol (by rw [Extensions.symbolicType, if_pos text, given])
    | some v =>
      cases v with
      | str s =>
        simp only [textDemands]
        exact .cons rfl
          (bindName_answers_symbol (by rw [Extensions.symbolicType, if_pos text, given]))
      | _ =>
        rw [bindName, Extensions.symbolicType, if_pos text, given]
        exact .malformed (by simp [Json.asStr?]) _
  · rw [if_neg text]
    have read : own.extensions.symbolicType own.declaredType own.format entity = .ok none := by
      rw [Extensions.symbolicType, if_neg text]
    exact bindName_answers_symbol read

theorem bindArguments_answers (own : Layer) :
    Answers registry (own.bindArguments registry entity) own.argumentDemands := by
  have read : Answers registry _ _ :=
    Extensions.typeArguments_answers own.extensions Extensions.argumentsKey entity
  have asBind : own.bindArguments registry entity =
      own.extensions.typeArguments Extensions.argumentsKey entity >>= fun
        | none => .ok (own, [])
        | some arguments =>
          if own.container.isSome then .error (.schema (.containerArguments entity))
          else .ok (own.instantiated registry arguments, (own.genericBase registry).2 ++
            (registry.instantiate (own.genericBase registry).1 arguments).2) := by
    rw [bindArguments]
    cases own.extensions.typeArguments Extensions.argumentsKey entity with
    | error e => rfl
    | ok found => cases found <;> rfl
  rw [asBind, argumentDemands]
  cases given : own.extensions.get? Extensions.argumentsKey with
  | none =>
    rw [given] at read
    show Answers registry _ ([] ++ [])
    refine read.bind fun found noArguments => ?_
    cases found with
    | none => exact .nil _
    | some arguments => simp [Extensions.typeArguments, given] at noArguments
  | some v =>
    rw [given] at read
    show Answers registry _ ([_] ++ [_])
    refine read.bind fun found arguments => ?_
    cases found with
    | none =>
      rw [Extensions.get?_of_typeArguments arguments] at given
      cases given
    | some arguments =>
      dsimp only
      split
      · next container =>
        exact .malformed (by simpa [Option.isSome_iff_ne_none] using container) []
      · next plain =>
        exact .of_met (by simpa [Demand.Met, Option.isSome_iff_ne_none] using plain)

theorem bindAliases_answers (own : Layer) :
    Answers registry (own.bindAliases registry entity) own.demands := by
  rw [bindAliases, demands]
  refine (bindName_answers own).bind ?_
  rintro ⟨named, imports⟩ done
  obtain ⟨symbol, _, named'⟩ := bindName_eq_ok_iff.1 done
  have same : named.argumentDemands = own.argumentDemands := by
    simp only [argumentDemands, named'.kept.extensions, named'.kept.container]
  rw [← same]
  exact (bindArguments_answers named).bind_of_ok fun _ => ⟨_, rfl⟩

end Layer

/-! ## Properties and models -/

theorem Property.bindAliases_answers (registry : TypeRegistry) (p : Property) (entity : String) :
    Answers registry (p.bindAliases registry entity) (p.layers.flatMap Layer.demands) := by
  induction p generalizing entity with
  | leaf own =>
    rw [bindAliases, layers, List.flatMap_singleton]
    exact own.bindAliases_answers.bind_of_ok fun _ => ⟨_, rfl⟩
  | nest own element ih =>
    rw [bindAliases, layers, List.flatMap_append]
    refine (ih _).bind ?_
    rintro ⟨element', imports⟩ _
    rw [List.flatMap_singleton, ← (Layer.kept_around own element'.own).demands]
    exact (own.around element'.own).bindAliases_answers.bind_of_ok fun _ => ⟨_, rfl⟩

/-- The one text of a value that is a text or a list of one text. -/
def Json.only? : Json → Option String
  | .str s => some s
  | .arr [.str s] => some s
  | _ => none

theorem Json.only?_eq_some_iff {v : Json} {name : String} :
    v.only? = some name ↔ v.IsOnly name := by
  constructor
  · intro found
    unfold only? at found
    split at found
    · cases found
      exact .inl rfl
    · cases found
      exact .inr rfl
    · cases found
  · rintro (rfl | rfl) <;> rfl

namespace Model

/-- What the parent of a model asks for. -/
def parentDemands (m : Model) : List Demand :=
  match m.extensions.get? Extensions.parentKey with
  | some v => .wellFormed v.only?.isSome :: (v.only?.toList.map .registered ++
      (m.extensions.get? Extensions.parentArgumentsKey).toList.map fun w => .wellFormed w.IsTexts)
  -- without a parent its type arguments are not read
  | none => []

/-- What a model asks for: first for its parent, then field by field, from the innermost element
of a field outwards. -/
def demands (m : Model) : List Demand :=
  m.parentDemands ++ m.layers.flatMap Layer.demands

variable {m : Model}

theorem parentAlias_eq_ok_iff {v : Json} {symbol : Option String}
    (given : m.extensions.get? Extensions.parentKey = some v) :
    m.extensions.parentAlias m.name = .ok symbol ↔ ∃ name, v.IsOnly name ∧ symbol = some name := by
  rw [Extensions.parentAlias, given]
  constructor
  · intro read
    dsimp only at read
    split at read
    · cases read
    · next single listed =>
      cases read
      rcases Extensions.textList_eq_ok_iff.1 listed with rfl | ⟨s, rfl, same⟩
      · exact ⟨single, .inr rfl, rfl⟩
      · cases same
        exact ⟨single, .inl rfl, rfl⟩
    · cases read
  · rintro ⟨name, rfl | rfl, rfl⟩ <;> rfl

theorem parentAlias_eq_error {e : Fault}
    (refused : m.extensions.parentAlias m.name = .error e) : ∃ cause, e = .schema cause := by
  unfold Extensions.parentAlias at refused
  split at refused
  · cases refused
  · split at refused
    · next unread =>
      cases refused
      exact Extensions.textList_eq_error unread
    · cases refused
    · cases refused
      exact ⟨_, rfl⟩

theorem boundParent_answers (registry : TypeRegistry) (m : Model) :
    Answers registry (m.boundParent registry) m.parentDemands := by
  rw [boundParent, parentDemands]
  cases given : m.extensions.get? Extensions.parentKey with
  | none =>
    rw [Extensions.parentAlias, given]
    exact .nil _
  | some v =>
    cases read : m.extensions.parentAlias m.name with
    | error e =>
      obtain ⟨cause, rfl⟩ := parentAlias_eq_error read
      refine .malformed (fun single => ?_) _
      obtain ⟨name, only⟩ := Option.isSome_iff_exists.1 single
      rw [(parentAlias_eq_ok_iff given).2 ⟨name, Json.only?_eq_some_iff.1 only, rfl⟩] at read
      cases read
    | ok symbol =>
      obtain ⟨name, only, rfl⟩ := (parentAlias_eq_ok_iff given).1 read
      dsimp only
      rw [Json.only?_eq_some_iff.2 only]
      refine .cons rfl ((registry.require_answers name m.name).bind fun d _ => ?_)
      exact (Extensions.typeArguments_answers _ _ _).bind_of_ok fun _ => ⟨_, rfl⟩

theorem bound_answers (registry : TypeRegistry) (m : Model) :
    Answers registry (m.bound registry) m.demands := by
  have fields := bindParts_answers
    (fun p => Property.bindAliases_answers registry p (m.name ++ "." ++ p.own.name)) m.properties
  rw [← boundFields_eq, ← List.flatMap_assoc] at fields
  rw [bound, demands, layers]
  exact (m.boundParent_answers registry).bind fun _ _ => fields.bind_of_ok fun _ => ⟨_, rfl⟩

end Model

/-! ## Sound is the same as met -/

theorem TypeRegistry.admits_iff {registry : TypeRegistry} {s : String} :
    registry.Admits s ↔
      ∀ d ∈ (Text.nonBlank? s).toList.map Demand.registered, d.Met registry := by
  cases nonBlank : Text.nonBlank? s with
  | none =>
    have blank : Text.trim s = "" := by
      by_contra nonempty
      rw [Text.nonBlank?_eq_some_iff.2 ⟨rfl, nonempty⟩] at nonBlank
      cases nonBlank
    simp [Admits, blank]
  | some name =>
    obtain ⟨rfl, nonempty⟩ := Text.nonBlank?_eq_some_iff.1 nonBlank
    simp [Admits, nonempty, Demand.Met]

/-- The demands of a format are those of what stands behind its mark. -/
theorem TypeRegistry.admits_format_iff {registry : TypeRegistry} {format : Option String} :
    (∀ s, format = some ("x-" ++ s) → registry.Admits s) ↔
      ∀ d ∈ (Extensions.formatAlias? format).toList.map Demand.registered, d.Met registry := by
  cases marked : format.bind (Text.dropStart? "x-") with
  | none =>
    simp only [Extensions.formatAlias?, marked, Option.bind_none, Option.toList_none, List.map_nil,
      List.not_mem_nil, false_implies, implies_true, iff_true]
    rintro s rfl
    rw [Option.bind_some, Text.dropStart?_eq_some_iff.2 rfl] at marked
    cases marked
  | some s =>
    rw [Extensions.formatAlias?, marked, Option.bind_some, ← admits_iff]
    obtain ⟨t, rfl, start⟩ := Option.bind_eq_some_iff.1 marked
    rw [Text.dropStart?_eq_some_iff.1 start]
    constructor
    · intro all
      exact all s rfl
    · intro admitted s' same
      have back := Text.dropStart?_eq_some_iff.2 (Option.some.inj same)
      rw [Text.dropStart?_eq_some_iff.2 rfl] at back
      cases back
      exact admitted

theorem Layer.sound_iff {registry : TypeRegistry} {own : Layer} :
    own.Sound registry ↔ ∀ d ∈ own.demands, d.Met registry := by
  rw [demands, List.forall_mem_append]
  constructor
  · intro sound
    constructor
    · rw [nameDemands]
      split
      · next text =>
        cases given : own.extensions.get? Extensions.typeKey with
        | none => exact TypeRegistry.admits_format_iff.1 (sound.format text given)
        | some v =>
          obtain ⟨s, rfl, admitted⟩ := sound.alias_ text v given
          simp only [textDemands]
          exact List.forall_mem_cons.2 ⟨rfl, TypeRegistry.admits_iff.1 admitted⟩
      · exact fun _ member => nomatch member
    · rw [argumentDemands]
      cases given : own.extensions.get? Extensions.argumentsKey with
      | none => exact fun _ member => nomatch member
      | some v =>
        obtain ⟨texts, plain⟩ := sound.arguments v given
        simpa [Demand.Met] using ⟨texts, plain⟩
  · rintro ⟨ofName, ofArguments⟩
    constructor
    · intro text v given
      rw [nameDemands, if_pos text, given, List.forall_mem_cons] at ofName
      obtain ⟨s, isText⟩ := Option.isSome_iff_exists.1 ofName.1
      cases v with
      | str s =>
        rw [textDemands] at ofName
        exact ⟨s, rfl, TypeRegistry.admits_iff.2 ofName.2⟩
      | _ => cases isText
    · intro text given
      rw [nameDemands, if_pos text, given] at ofName
      exact TypeRegistry.admits_format_iff.2 ofName
    · intro v given
      rw [argumentDemands, given] at ofArguments
      simpa [Demand.Met] using ofArguments

theorem Model.sound_iff {registry : TypeRegistry} {m : Model} :
    m.Sound registry ↔ ∀ d ∈ m.demands, d.Met registry := by
  have layers : (∀ d ∈ m.layers.flatMap Layer.demands, d.Met registry) ↔
      ∀ own ∈ m.layers, own.Sound registry := by
    simp only [Layer.sound_iff, List.mem_flatMap]
    exact ⟨fun all own member d demanded => all d ⟨own, member, demanded⟩,
      fun all d ⟨own, member, demanded⟩ => all own member d demanded⟩
  rw [demands, List.forall_mem_append, layers, parentDemands]
  constructor
  · intro sound
    refine ⟨?_, sound.layers⟩
    cases given : m.extensions.get? Extensions.parentKey with
    | none => exact fun _ member => nomatch member
    | some v =>
      obtain ⟨⟨name, only, registered⟩, arguments⟩ := sound.parent v given
      simpa [Json.only?_eq_some_iff.2 only, Demand.Met, registered] using arguments
  · rintro ⟨ofParent, sound⟩
    refine ⟨fun v given => ?_, sound⟩
    rw [given] at ofParent
    cases only : v.only? with
    | none => simp [only, Demand.Met] at ofParent
    | some name =>
      simp [only, Demand.Met] at ofParent
      exact ⟨⟨name, Json.only?_eq_some_iff.1 only, ofParent.1⟩, ofParent.2⟩

/-! ## Lists of models -/

/-- Binding a list answers the demands of its elements one after the other. -/
theorem Progress.answers {registry : TypeRegistry} {α : Type} {change : Change α Unit}
    {bound : α → Except Fault α} {demands : α → List Demand} (commits : change.Commits bound)
    (each : ∀ a, Answers registry (bound a) (demands a)) (l : List α) :
    Answers registry (ofEach change l).result (l.flatMap demands) := by
  induction l with
  | nil => exact .nil _
  | cons a rest ih =>
    rw [List.flatMap_cons]
    have here := each a
    cases outcome : bound a with
    | error e =>
      rw [outcome] at here
      obtain ⟨d, first, blamed⟩ := here
      rw [ofEach_cons_of_error commits rest outcome]
      exact ⟨d, first.append_left _, blamed⟩
    | ok b =>
      rw [outcome] at here
      rw [ofEach_cons_of_ok commits rest outcome]
      have asBind : result ⟨b :: (ofEach change rest).elements, (ofEach change rest).fault⟩ =
          (Except.ok b >>= fun b => (ofEach change rest).result.map (b :: ·)) := by
        unfold result
        cases (ofEach change rest).fault <;> rfl
      rw [asBind]
      exact Answers.bind here fun _ _ => Answers.map.2 ih

namespace Model

/-- Binding succeeds exactly on sound models, which are those that meet their demands.  Otherwise
the fault is an alias without a class exactly if the first demand that is not met asks for a class,
and else the schema is wrong. -/
theorem bound_models_iff_sound (registry : TypeRegistry) (models : List Model) :
    (∀ m : Model, m.Sound registry ↔ ∀ d ∈ m.demands, d.Met registry) ∧
    ((bindAll registry models).fault = none ↔ ∀ m ∈ models, m.Sound registry) ∧
    ∀ e, (bindAll registry models).fault = some e →
      (∀ name, (∃ entity, e = .unresolvedAlias name entity) ↔
        FirstUnmet registry (models.flatMap demands) (.registered name)) ∧
      ((∃ cause, e = .schema cause) ↔
        ∀ name, ¬ FirstUnmet registry (models.flatMap demands) (.registered name)) := by
  refine ⟨fun m => sound_iff, ?_⟩
  have answers : Answers registry (bindAll registry models).result (models.flatMap demands) :=
    Progress.answers (commits_bindAliases registry) (bound_answers registry) models
  have sound : (∀ m ∈ models, m.Sound registry) ↔
      ∀ d ∈ models.flatMap demands, d.Met registry := by
    simp only [sound_iff, List.mem_flatMap]
    exact ⟨fun all d ⟨m, member, demanded⟩ => all m member d demanded,
      fun all m member d demanded => all d ⟨m, member, demanded⟩⟩
  rw [sound]
  unfold Progress.result at answers
  cases outcome : (bindAll registry models).fault with
  | none =>
    rw [outcome] at answers
    exact ⟨iff_of_true rfl answers, fun e failed => nomatch failed⟩
  | some e =>
    rw [outcome] at answers
    have unmet : ¬ ∀ d ∈ models.flatMap demands, d.Met registry := by
      obtain ⟨d, first, _⟩ := answers
      exact first.not_all_met
    refine ⟨iff_of_false (fun done => nomatch done) unmet, ?_⟩
    rintro e' ⟨⟩
    exact ⟨answers.unresolved_iff, answers.schema_iff⟩

/-- A model with a list of amounts that has type arguments of its own, which it must not. -/
def misplaced : Model where
  name := "Bill"
  className := "Bill"
  description := none
  properties := [.nest
    { Layer.plain "amounts" "array" "List<String>" with
      container := some .list
      extensions := .ofList [(Extensions.argumentsKey, .str "Known")] }
    (.leaf { Layer.plain "amounts" "String" "String" with format := some "x- Amount" })]
  parent := none
  extensions := .empty
  imports := .empty

/-- The element of a list is seen before the list, and the parent of the model before. -/
theorem bound_models_iff_sound_misplaced :
    let registry := TypeRegistry.empty.extend [⟨"Known", "acme.Known"⟩]
    let models := [childOf "Order" "Known", misplaced, childOf "Item" "Unknown"]
    (bindAll registry models).fault = some (.unresolvedAlias "Amount" "Bill.amounts[]") ∧
      FirstUnmet registry (models.flatMap demands) (.registered "Amount") ∧
      ¬ ∀ m ∈ models, m.Sound registry := by
  intro registry models
  have failed : (bindAll registry models).fault =
      some (.unresolvedAlias "Amount" "Bill.amounts[]") := rfl
  obtain ⟨_, success, failure⟩ := bound_models_iff_sound registry models
  refine ⟨failed, ((failure _ failed).1 "Amount").1 ⟨_, rfl⟩, fun sound => ?_⟩
  rw [success.2 sound] at failed
  cases failed

end Model

end SchemaBinder
