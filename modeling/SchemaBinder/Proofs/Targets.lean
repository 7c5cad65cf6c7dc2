import SchemaBinder.Proofs.Runs
/-!
# Targets

The hand-off document of a target has the models, the interfaces, or both.  Neither part depends on
the other one being made, so the document with both is put together from the two that have one
(`HandOff.Composes`).  Models come first, so a fault in them hides one in the interfaces.

A session answers from the registry that it has, or else from the one that it can build
(`Session.known`), and it keeps that registry.  So this holds of a session in any state, and whatever
it has made before on the same machine (`Session.targets_compose`).
-/

namespace SchemaBinder

/-! ## Hand-off documents -/

namespace HandOff

/-- What is made for both parts is put together from what is made for models and for interfaces. -/
structure Composes (all models apis : Except Fault HandOff) : Prop where
  /-- Both parts can be made exactly if each of them can. -/
  ok_iff : (∃ h, all = .ok h) ↔ (∃ m, models = .ok m) ∧ ∃ a, apis = .ok a
  /-- Each part is the one that is made alone, and nothing else differs. -/
  joined : ∀ h m a, all = .ok h → models = .ok m → apis = .ok a →
    h.models.isSome ∧ h.interfaces.isSome ∧
      h = { m with interfaces := a.interfaces } ∧ h = { a with models := m.models }
  /-- The fault is the one of the models, or else the one of the interfaces. -/
  error_iff : ∀ e, all = .error e ↔
    models = .error e ∨ (∃ m, models = .ok m) ∧ apis = .error e

/-- A fault in the models hides what becomes of the interfaces. -/
theorem composes_of_models_error (e : Fault) (apis : Except Fault HandOff) :
    Composes (.error e) (.error e) apis where
  ok_iff := by simp
  joined := by simp
  error_iff := by simp

theorem composes_of_interfaces_error (m : HandOff) (e : Fault) :
    Composes (.error e) (.ok m) (.error e) where
  ok_iff := by simp
  joined := by simp
  error_iff := by simp

/-- The hand-off document with these parts. -/
def ofParts (config : Config) (doc : Document) (models : Option (List Model))
    (interfaces : Option (List Interface)) : HandOff :=
  { title := doc.title
    version := doc.version
    models
    interfaces
    additionalProperties := config.additionalProperties }

theorem composes_ofParts (config : Config) (doc : Document) (ms : List Model)
    (is : List Interface) : Composes (.ok (ofParts config doc (some ms) (some is)))
      (.ok (ofParts config doc (some ms) none)) (.ok (ofParts config doc none (some is))) where
  ok_iff := by simp
  joined := by
    rintro h m a ⟨⟩ ⟨⟩ ⟨⟩
    exact ⟨rfl, rfl, rfl, rfl⟩
  error_iff := by simp

section OfDocument

variable [DomainNames] (config : Config) (registry : TypeRegistry) (doc : Document)

theorem ofDocument_models : ofDocument config registry doc .models =
    (boundModels config registry doc).map fun ms => ofParts config doc (some ms) none := by
  show part true (boundModels config registry doc) >>= _ = _
  cases boundModels config registry doc <;> rfl

theorem ofDocument_apis : ofDocument config registry doc .apis =
    (boundInterfaces config registry doc).map fun is => ofParts config doc none (some is) := by
  show part true (boundInterfaces config registry doc) >>= _ = _
  cases boundInterfaces config registry doc <;> rfl

theorem ofDocument_all : ofDocument config registry doc .all =
    (boundModels config registry doc).bind fun ms =>
      (boundInterfaces config registry doc).map fun is =>
        ofParts config doc (some ms) (some is) := by
  show (part true (boundModels config registry doc) >>= fun _ =>
    part true (boundInterfaces config registry doc) >>= _) = _
  cases boundModels config registry doc <;> cases boundInterfaces config registry doc <;> rfl

theorem composes_ofDocument : Composes (ofDocument config registry doc .all)
    (ofDocument config registry doc .models) (ofDocument config registry doc .apis) := by
  rw [ofDocument_all, ofDocument_models, ofDocument_apis]
  cases boundModels config registry doc with
  | error e => exact composes_of_models_error e _
  | ok ms =>
    cases boundInterfaces config registry doc with
    | error e => exact composes_of_interfaces_error _ e
    | ok is => exact composes_ofParts config doc ms is

end OfDocument

end HandOff

/-! ## Sessions -/

namespace Session

variable [DomainNames]

/-- What comes of processing a document with the network and the files as they are, and the session
after that. -/
def processed (s : Session) (network : Network) (files : FileTree) (doc : Document) (target : Target) :
    Except Fault HandOff × Session :=
  (runOn (m := Id) network files (s.process doc target)).1

/-- The registry that a session answers from: the one it has, or else the one it can build. -/
def known (s : Session) (network : Network) (files : FileTree) : Except Fault TypeRegistry :=
  match s.registry with
  | some registry => .ok registry
  | none => s.builtOn network files

/-- The session with the registry that it answers from. -/
def settled (s : Session) (network : Network) (files : FileTree) : Session :=
  { s with registry := (s.known network files).toOption }

variable (s : Session) (network : Network) (files : FileTree) (doc : Document)

/-- Every target is made with the same registry and leaves the same session. -/
theorem processed_eq (target : Target) : s.processed network files doc target =
    ((s.known network files).bind fun r => HandOff.ofDocument s.config r doc target,
      s.settled network files) := by
  unfold processed settled known
  obtain ⟨config, manifest, registry⟩ := s
  cases registry with
  | some registry => rw [process_of_registry rfl]; rfl
  | none =>
    have looked := getRegistry_of_unbuilt (s := ⟨config, manifest, none⟩) rfl network files
    unfold process
    rw [runOn_bind]
    generalize runOn (m := Id) network files (getRegistry _) = found at looked
    obtain ⟨_, after⟩ := found
    cases looked
    rfl

/-- A session that has settled answers from the same registry. -/
theorem known_settled : (s.settled network files).known network files = s.known network files := by
  obtain ⟨config, manifest, registry⟩ := s
  cases registry with
  | some registry => rfl
  | none =>
    unfold settled known
    dsimp only
    cases built : builtOn ⟨config, manifest, none⟩ network files with
    | ok registry => rfl
    | error e => exact built

/-- The hand-off document for all parts is put together from the ones for models and for interfaces,
whether the session has a registry, can build one or cannot.  What the session has been asked for
before makes no difference. -/
theorem targets_compose :
    let made target := (s.processed network files doc target).1
    HandOff.Composes (made .all) (made .models) (made .apis) ∧
      ∀ before target,
        ((s.processed network files doc before).2.processed network files doc target).1 =
          made target := by
  intro made
  constructor
  · simp only [made, processed_eq]
    cases s.known network files with
    | error e => exact HandOff.composes_of_models_error e _
    | ok r => exact HandOff.composes_ofDocument s.config r doc
  · intro before target
    simp only [made, processed_eq, known_settled]
    rfl

end Session

end SchemaBinder
