import SchemaBinder.Model.Binding
import SchemaBinder.Operation.Binding
import SchemaBinder.Proofs.Lists
/-!
# The steps of binding

What each step of binding can do, opened once.

An element has its parts bound one after the other, and the names to import are collected:
`bindParts` is this traversal, of fields, of responses and of parameters alike.

A layer is first `Named` and then `Instantiated`.  These two relations list the ways in which
either can end well, and `Layer.bindAliases_eq_ok_iff` says that there are no others; every
property of bound layers is read off them by cases.  Whatever happens, the layer is `Kept`: only
its types and its type arguments change.
-/

namespace SchemaBinder

/-! ## Parts -/

section Parts

variable {α : Type} {bind : α → Except Fault (α × List String)} {l bs : List α}
  {imports : List String}

/-- Binds parts one after the other and collects the names to import. -/
def bindParts (bind : α → Except Fault (α × List String)) :
    List α → Except Fault (List α × List String)
  | [] => .ok ([], [])
  | a :: rest => do
    let (b, imports) ← bind a
    let (rest, more) ← bindParts bind rest
    return (b :: rest, imports ++ more)

theorem bindParts_cons_eq_ok_iff {a : α} : bindParts bind (a :: l) = .ok (bs, imports) ↔
    ∃ b rest first more, bind a = .ok (b, first) ∧ bindParts bind l = .ok (rest, more) ∧
      bs = b :: rest ∧ imports = first ++ more := by
  rw [bindParts, bind_eq_ok_iff]
  constructor
  · rintro ⟨⟨b, first⟩, here, done⟩
    rw [bind_eq_ok_iff] at done
    obtain ⟨⟨rest, more⟩, later, done⟩ := done
    cases done
    exact ⟨b, rest, first, more, here, later, rfl, rfl⟩
  · rintro ⟨b, rest, first, more, here, later, rfl, rfl⟩
    exact ⟨(b, first), here, bind_eq_ok_iff.2 ⟨(rest, more), later, rfl⟩⟩

/-- The parts are bound each for itself. -/
theorem forall₂_of_bindParts (done : bindParts bind l = .ok (bs, imports)) :
    List.Forall₂ (fun a b => ∃ names, bind a = .ok (b, names) ∧ names ⊆ imports) l bs := by
  induction l generalizing bs imports with
  | nil =>
    cases done
    exact .nil
  | cons a rest ih =>
    obtain ⟨b, bs, first, more, here, later, rfl, rfl⟩ := bindParts_cons_eq_ok_iff.1 done
    refine .cons ⟨first, here, List.subset_append_left first more⟩ ((ih later).imp ?_)
    rintro a' b' ⟨names, bound, known⟩
    exact ⟨names, bound, List.subset_append_of_subset_right first known⟩

/-- Every bound part comes from a part. -/
theorem mem_of_bindParts (done : bindParts bind l = .ok (bs, imports)) :
    ∀ b ∈ bs, ∃ a ∈ l, ∃ names, bind a = .ok (b, names) ∧ names ⊆ imports :=
  exists_of_mem_right (forall₂_of_bindParts done)

/-- Parts that are bound to themselves stay. -/
theorem bindParts_of_fixed
    (fixed : ∀ b ∈ bs, ∃ again, bind b = .ok (b, again) ∧ again ⊆ imports) :
    ∃ again, bindParts bind bs = .ok (bs, again) ∧ again ⊆ imports := by
  induction bs with
  | nil => exact ⟨[], rfl, List.nil_subset imports⟩
  | cons b rest ih =>
    obtain ⟨first, here, known⟩ := fixed b List.mem_cons_self
    obtain ⟨more, later, knownLater⟩ := ih fun c member => fixed c (List.mem_cons_of_mem b member)
    exact ⟨first ++ more, bindParts_cons_eq_ok_iff.2 ⟨b, rest, first, more, here, later, rfl, rfl⟩,
      List.append_subset.2 ⟨known, knownLater⟩⟩

theorem Model.boundFields_eq (registry : TypeRegistry) (modelName : String) (l : List Property) :
    boundFields registry modelName l =
      bindParts (fun p => p.bindAliases registry (modelName ++ "." ++ p.own.name)) l := by
  induction l with
  | nil => rfl
  | cons p rest ih => rw [boundFields, bindParts, ih]

theorem Response.bindEach_eq (registry : TypeRegistry) (operationId : String) (l : List Response) :
    bindEach registry operationId l =
      bindParts (fun r => r.bindAliases registry (operationId ++ "." ++ r.code)) l := by
  induction l with
  | nil => rfl
  | cons r rest ih => rw [bindEach, bindParts, ih]

theorem Parameter.bindEach_eq (registry : TypeRegistry) (operationId : String)
    (l : List Parameter) : bindEach registry operationId l =
      bindParts (fun p => p.bindAliases registry (operationId ++ "." ++ p.name)) l := by
  induction l with
  | nil => rfl
  | cons p rest ih => rw [bindEach, bindParts, ih]

end Parts

/-! ## Layers -/

namespace Layer

variable {registry : TypeRegistry} {own named bound : Layer} {entity : String}
  {imports : List String}

/-- What binding leaves alone in a layer. -/
structure Kept (own bound : Layer) : Prop where
  name : bound.name = own.name
  declaredType : bound.declaredType = own.declaredType
  format : bound.format = own.format
  container : bound.container = own.container
  required : bound.required = own.required
  extensions : bound.extensions = own.extensions

theorem Kept.trans (first : Kept own named) (second : Kept named bound) : Kept own bound where
  name := second.name.trans first.name
  declaredType := second.declaredType.trans first.declaredType
  format := second.format.trans first.format
  container := second.container.trans first.container
  required := second.required.trans first.required
  extensions := second.extensions.trans first.extensions

/-- The layer with the class of an alias. -/
def withAlias (own : Layer) (name : String) (d : TypeDescriptor) : Layer :=
  { own with resolvedType := d.simpleName, baseType := name }

/-- What becomes of a layer with a given alias, or with none, and the names to import. -/
inductive Named (registry : TypeRegistry) (own : Layer) :
    Option String → Layer → List String → Prop where
  /-- It takes the class of its alias. -/
  | symbol {name : String} {d : TypeDescriptor} : registry.get? name = some d →
      Named registry own (some name) (own.withAlias name d) [d.qualifiedName]
  /-- A container stays. -/
  | container {kind : ContainerKind} : own.container = some kind → Named registry own none own []
  /-- It takes the class of its base type. -/
  | known {d : TypeDescriptor} : own.container = none → registry.get? own.baseType = some d →
      Named registry own none { own with resolvedType := d.simpleName } [d.qualifiedName]
  /-- A layer whose base type has no class stays. -/
  | unknown : own.container = none → registry.get? own.baseType = none →
      Named registry own none own []

theorem bindName_eq_ok_iff : own.bindName registry entity = .ok (bound, imports) ↔
    ∃ symbol, own.extensions.symbolicType own.declaredType own.format entity = .ok symbol ∧
      Named registry own symbol bound imports := by
  rw [bindName]
  cases own.extensions.symbolicType own.declaredType own.format entity with
  | error e => simp
  | ok symbol =>
    simp only [Except.ok.injEq, exists_eq_left']
    cases symbol with
    | some name =>
      dsimp only
      constructor
      · intro done
        split at done
        · cases done
        · next required =>
          cases done
          exact .symbol (TypeRegistry.require_eq_ok_iff.1 required)
      · intro done
        cases done with
        | symbol found =>
          rw [TypeRegistry.require_eq_ok_iff.2 found]
          rfl
    | none =>
      rcases Option.eq_none_or_eq_some own.container with plain | ⟨kind, container⟩
      · dsimp only
        rw [if_neg (by simp [plain])]
        constructor
        · intro done
          split at done
          · next found =>
            cases done
            exact .known plain found
          · next missing =>
            cases done
            exact .unknown plain missing
        · intro done
          cases done with
          | container container => simp [plain] at container
          | known _ found => simp [found]
          | unknown _ missing => simp [missing]
      · dsimp only
        rw [if_pos (by simp [container])]
        constructor
        · rintro ⟨⟩
          exact .container container
        · intro done
          cases done with
          | container => rfl
          | known plain => simp [container] at plain
          | unknown plain => simp [container] at plain

/-- The layer with type arguments behind its class. -/
def instantiated (own : Layer) (registry : TypeRegistry) (arguments : List String) : Layer :=
  let type := (registry.instantiate (own.genericBase registry).1 arguments).1
  { own with isGeneric := true, typeArguments := arguments, baseType := type, resolvedType := type }

/-- What becomes of a layer with given type arguments, or with none, and the names to import. -/
inductive Instantiated (registry : TypeRegistry) (own : Layer) :
    Option (List String) → Layer → List String → Prop where
  | plain : Instantiated registry own none own []
  | generic {arguments : List String} : own.container = none →
      Instantiated registry own (some arguments) (own.instantiated registry arguments)
        ((own.genericBase registry).2 ++
          (registry.instantiate (own.genericBase registry).1 arguments).2)

theorem bindArguments_eq_ok_iff : own.bindArguments registry entity = .ok (bound, imports) ↔
    ∃ found, own.extensions.typeArguments Extensions.argumentsKey entity = .ok found ∧
      Instantiated registry own found bound imports := by
  rw [bindArguments]
  cases own.extensions.typeArguments Extensions.argumentsKey entity with
  | error e => simp
  | ok found =>
    simp only [Except.ok.injEq, exists_eq_left']
    cases found with
    | none =>
      constructor
      · rintro ⟨⟩
        exact .plain
      · intro done
        cases done
        rfl
    | some arguments =>
      rcases Option.eq_none_or_eq_some own.container with plain | ⟨kind, container⟩
      · dsimp only
        rw [if_neg (by simp [plain])]
        constructor
        · rintro ⟨⟩
          exact .generic plain
        · intro done
          cases done
          rfl
      · dsimp only
        rw [if_pos (by simp [container])]
        simp only [reduceCtorEq, false_iff]
        intro done
        cases done with
        | generic plain => simp [container] at plain

theorem Named.kept {symbol : Option String} (done : Named registry own symbol bound imports) :
    Kept own bound := by
  cases done <;> constructor <;> rfl

theorem Instantiated.kept {found : Option (List String)}
    (done : Instantiated registry own found bound imports) : Kept own bound := by
  cases done <;> constructor <;> rfl

/-- What the directives of a layer say. -/
structure Reads (own : Layer) (entity : String) (symbol : Option String)
    (found : Option (List String)) : Prop where
  symbol : own.extensions.symbolicType own.declaredType own.format entity = .ok symbol
  arguments : own.extensions.typeArguments Extensions.argumentsKey entity = .ok found

/-- What becomes of a layer whose directives say this, and the names to import. -/
inductive Bound (registry : TypeRegistry) (own : Layer) (symbol : Option String)
    (found : Option (List String)) : Layer → List String → Prop where
  | intro {named bound : Layer} {first more : List String} :
      Named registry own symbol named first → Instantiated registry named found bound more →
      Bound registry own symbol found bound (first ++ more)

variable {symbol : Option String} {found : Option (List String)}

/-- The directives of a layer stay, and they say the same whichever entity they stand on. -/
theorem Reads.of_kept (reads : Reads own entity symbol found) (kept : Kept own bound)
    (other : String) : Reads bound other symbol found where
  symbol := by
    rw [kept.extensions, kept.declaredType, kept.format]
    exact Extensions.symbolicType_entity other reads.symbol
  arguments := by
    rw [kept.extensions]
    exact Extensions.typeArguments_entity other reads.arguments

theorem Bound.kept (done : Bound registry own symbol found bound imports) : Kept own bound := by
  obtain ⟨name, arguments⟩ := done
  exact name.kept.trans arguments.kept

theorem bindAliases_eq_ok_iff : own.bindAliases registry entity = .ok (bound, imports) ↔
    ∃ symbol found, Reads own entity symbol found ∧
      Bound registry own symbol found bound imports := by
  rw [bindAliases, bind_eq_ok_iff]
  constructor
  · rintro ⟨⟨named, first⟩, name, done⟩
    rw [bind_eq_ok_iff] at done
    obtain ⟨⟨last, more⟩, arguments, done⟩ := done
    cases done
    obtain ⟨symbol, readSymbol, name⟩ := bindName_eq_ok_iff.1 name
    obtain ⟨found, readArguments, arguments⟩ := bindArguments_eq_ok_iff.1 arguments
    rw [name.kept.extensions] at readArguments
    exact ⟨symbol, found, ⟨readSymbol, readArguments⟩, .intro name arguments⟩
  · rintro ⟨symbol, found, reads, @⟨named, bound, first, more, name, arguments⟩⟩
    have again := reads.of_kept name.kept entity
    exact ⟨(named, first), bindName_eq_ok_iff.2 ⟨symbol, reads.symbol, name⟩, bind_eq_ok_iff.2
      ⟨(bound, more), bindArguments_eq_ok_iff.2 ⟨found, again.arguments, arguments⟩, rfl⟩⟩

theorem kept_around (own element : Layer) : Kept own (own.around element) := by
  rw [around]
  split <;> constructor <;> rfl

end Layer

end SchemaBinder
