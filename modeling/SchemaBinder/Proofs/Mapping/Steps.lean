import SchemaBinder.Proofs.Iteration
import SchemaBinder.Proofs.Mapping.Documents
/-!
# The steps of merging

`Merging.Step` lists what one step of merging can do, when the documents are given as texts:
it ends, goes back to the mapping around, enters a document, or fails in one of four ways.
`run_eq_some_iff` says that the list is complete and that nothing in it is impossible.  Everything
that is proved about merging rests on it.

`outcomeFrom` is what merging comes to from a state on, and `outcome` what it comes to for a
mapping.  They are `none` if merging never ends.
-/

namespace SchemaBinder.Mapping

/-- Entering a mapping fails as its own classes do. -/
theorem Merging.enter_eq {manifest : Manifest} (outer : List Frame) (chain : List Url)
    (registry : TypeRegistry) (base : Option Url) (mapping : Mapping) :
    enter manifest outer chain registry base mapping = (mapping.ownTypes manifest).map fun own =>
      ⟨⟨base, mapping.resources⟩, outer, chain, registry.extend own⟩ := by
  unfold enter
  cases mapping.ownTypes manifest <;> rfl

variable [DomainNames] (manifest : Manifest) (texts : Texts)

namespace Merging

/-- What one step of merging can do. -/
inductive Step : Merging → Except Fault (Merging ⊕ TypeRegistry) → Prop where
  /-- All references of the outermost mapping have been followed. -/
  | finish {base : Option Url} {chain : List Url} {registry : TypeRegistry} :
    Step ⟨⟨base, []⟩, [], chain, registry⟩ (.ok (.inr registry))
  /-- All references of a document have been followed. -/
  | leave {base : Option Url} {frame : Frame} {outer : List Frame} {chain : List Url}
    {registry : TypeRegistry} :
    Step ⟨⟨base, []⟩, frame :: outer, chain, registry⟩
      (.ok (.inl ⟨frame, outer, chain.dropLast, registry⟩))
  /-- A reference is no URL. -/
  | unresolved {base : Option Url} {reference : String} {pending : List String}
    {outer : List Frame} {chain : List Url} {registry : TypeRegistry} {e : Fault} :
    resolveReference base reference = .error e →
    Step ⟨⟨base, reference :: pending⟩, outer, chain, registry⟩ (.error e)
  /-- A reference leads back to a document that is being merged. -/
  | cyclic {base : Option Url} {reference : String} {pending : List String}
    {outer : List Frame} {chain : List Url} {registry : TypeRegistry} {url : Url} :
    resolveReference base reference = .ok url → url ∈ chain →
    Step ⟨⟨base, reference :: pending⟩, outer, chain, registry⟩
      (.error (.settings (.cyclicResources ((chain ++ [url]).map (·.render)))))
  /-- A reference leads to no document. -/
  | unread {base : Option Url} {reference : String} {pending : List String}
    {outer : List Frame} {chain : List Url} {registry : TypeRegistry} {url : Url} {e : Fault} :
    resolveReference base reference = .ok url → url ∉ chain →
    ofRead url (texts url) = .error e →
    Step ⟨⟨base, reference :: pending⟩, outer, chain, registry⟩ (.error e)
  /-- A package scan of a document fails. -/
  | unscanned {base : Option Url} {reference : String} {pending : List String}
    {outer : List Frame} {chain : List Url} {registry : TypeRegistry} {url : Url}
    {mapping : Mapping} {e : Fault} :
    resolveReference base reference = .ok url → url ∉ chain → Holds texts url mapping →
    mapping.ownTypes manifest = .error e →
    Step ⟨⟨base, reference :: pending⟩, outer, chain, registry⟩ (.error e)
  /-- A reference leads to a document, whose own classes are registered. -/
  | enter {base : Option Url} {reference : String} {pending : List String}
    {outer : List Frame} {chain : List Url} {registry : TypeRegistry} {url : Url}
    {mapping : Mapping} {own : List TypeDescriptor} :
    resolveReference base reference = .ok url → url ∉ chain → Holds texts url mapping →
    mapping.ownTypes manifest = .ok own →
    Step ⟨⟨base, reference :: pending⟩, outer, chain, registry⟩
      (.ok (.inl ⟨⟨some url, mapping.resources⟩, ⟨base, pending⟩ :: outer, chain ++ [url],
        registry.extend own⟩))

/-- One step with the documents that the texts are. -/
def run (s : Merging) : Option (Except Fault (Merging ⊕ TypeRegistry)) :=
  (step manifest (fetch fun url => some (texts url)) s).run

variable {manifest texts}

section

variable {m : Type → Type} [Monad m] [LawfulMonad m] (read : Url → m (Except SettingsFault String))
  {base : Option Url} {reference : String} (pending : List String) (outer : List Frame)
  (chain : List Url) (registry : TypeRegistry)

theorem step_of_error {e : Fault} (failed : resolveReference base reference = .error e) :
    (step manifest (fetch read) ⟨⟨base, reference :: pending⟩, outer, chain, registry⟩).run =
      pure (.error e) := by
  show (ExceptT.mk (pure (resolveReference base reference)) >>= _).run = _
  rw [ExceptT.run_bind, ExceptT.run_mk, pure_bind, failed]

/-- A step with a reference that is a URL reads at most what is there. -/
theorem step_of_ok {url : Url} (leads : resolveReference base reference = .ok url) :
    (step manifest (fetch read) ⟨⟨base, reference :: pending⟩, outer, chain, registry⟩).run =
      if url ∈ chain then
        pure (.error (.settings (.cyclicResources ((chain ++ [url]).map (·.render)))))
      else do
        return ofRead url (← read url) >>= fun mapping => (mapping.ownTypes manifest).map fun own =>
          .inl ⟨⟨some url, mapping.resources⟩, ⟨base, pending⟩ :: outer, chain ++ [url],
            registry.extend own⟩ := by
  show (ExceptT.mk (pure (resolveReference base reference)) >>= _).run = _
  rw [ExceptT.run_bind, ExceptT.run_mk, pure_bind, leads]
  simp only [List.contains_iff_mem]
  split
  · rfl
  · rw [ExceptT.run_bind, fetch, ExceptT.run_mk, bind_assoc]
    refine bind_congr fun text => ?_
    rw [pure_bind]
    cases ofRead url text with
    | error e => rfl
    | ok mapping =>
      show ExceptT.run (ExceptT.mk (pure _) >>= _) = _
      rw [ExceptT.run_bind, ExceptT.run_mk, pure_bind, enter_eq]
      show _ = pure ((mapping.ownTypes manifest).map _)
      cases mapping.ownTypes manifest <;> rfl

theorem run_of_error {e : Fault} (failed : resolveReference base reference = .error e) :
    run manifest texts ⟨⟨base, reference :: pending⟩, outer, chain, registry⟩ =
      some (.error e) :=
  step_of_error (fun url => some (texts url)) pending outer chain registry failed

theorem run_of_ok {url : Url} (leads : resolveReference base reference = .ok url) :
    run manifest texts ⟨⟨base, reference :: pending⟩, outer, chain, registry⟩ = some (
      if url ∈ chain then
        .error (.settings (.cyclicResources ((chain ++ [url]).map (·.render))))
      else ofRead url (texts url) >>= fun mapping => (mapping.ownTypes manifest).map fun own =>
        .inl ⟨⟨some url, mapping.resources⟩, ⟨base, pending⟩ :: outer, chain ++ [url],
          registry.extend own⟩) := by
  refine (step_of_ok (fun url => some (texts url)) pending outer chain registry leads).trans ?_
  split <;> rfl

end

/-- A step does what `Step` lists, and everything that `Step` lists is done. -/
theorem run_eq_some_iff {s : Merging} {outcome : Except Fault (Merging ⊕ TypeRegistry)} :
    run manifest texts s = some outcome ↔ Step manifest texts s outcome := by
  obtain ⟨⟨base, pending⟩, outer, chain, registry⟩ := s
  constructor
  · intro taken
    match pending, outer with
    | [], [] =>
      cases taken
      exact .finish
    | [], frame :: outer =>
      cases taken
      exact .leave
    | reference :: pending, outer =>
      cases leads : resolveReference base reference with
      | error e =>
        rw [run_of_error pending outer chain registry leads] at taken
        cases taken
        exact .unresolved leads
      | ok url =>
        rw [run_of_ok pending outer chain registry leads] at taken
        by_cases member : url ∈ chain
        · rw [if_pos member] at taken
          cases taken
          exact .cyclic leads member
        · rw [if_neg member] at taken
          cases read : ofRead url (texts url) with
          | error e =>
            rw [read] at taken
            cases taken
            exact .unread leads member read
          | ok mapping =>
            rw [read] at taken
            have holds := ofRead_eq_ok_iff.1 read
            cases own : mapping.ownTypes manifest with
            | error e =>
              simp only [bind, Except.bind, own] at taken
              cases taken
              exact .unscanned leads member holds own
            | ok own' =>
              simp only [bind, Except.bind, own] at taken
              cases taken
              exact .enter leads member holds own
  · intro taken
    cases taken with
    | finish => rfl
    | leave => rfl
    | unresolved failed => exact run_of_error _ _ _ _ failed
    | cyclic leads member => rw [run_of_ok _ _ _ _ leads, if_pos member]
    | unread leads fresh unread =>
      rw [run_of_ok _ _ _ _ leads, if_neg fresh, unread]
      rfl
    | unscanned leads fresh holds unscanned =>
      rw [run_of_ok _ _ _ _ leads, if_neg fresh, ofRead_eq_ok_iff.2 holds]
      simp only [bind, Except.bind, unscanned]
      rfl
    | enter leads fresh holds own =>
      rw [run_of_ok _ _ _ _ leads, if_neg fresh, ofRead_eq_ok_iff.2 holds]
      simp only [bind, Except.bind, own]
      rfl

/-- Merging never gets stuck. -/
theorem exists_step (manifest : Manifest) (texts : Texts) (s : Merging) :
    ∃ taken, Step manifest texts s taken := by
  obtain ⟨⟨base, pending⟩, outer, chain, registry⟩ := s
  match pending, outer with
  | [], [] => exact ⟨_, .finish⟩
  | [], frame :: outer => exact ⟨_, .leave⟩
  | reference :: pending, outer =>
    cases leads : resolveReference base reference with
    | error e => exact ⟨_, .unresolved leads⟩
    | ok url => exact ⟨_, run_eq_some_iff.1 (run_of_ok pending outer chain registry leads)⟩

/-! ## Repeated steps -/

variable (manifest texts)

/-- One step leads from a state to another. -/
def Next (s t : Merging) : Prop := Step manifest texts s (.ok (.inl t))

/-- Some number of steps leads from a state to another. -/
abbrev Steps : Merging → Merging → Prop := Relation.ReflTransGen (Next manifest texts)

/-- What merging comes to from a state on.  It is `none` if merging never ends. -/
noncomputable def outcomeFrom (s : Merging) : Option (Except Fault TypeRegistry) :=
  (iterate (step manifest (fetch fun url => some (texts url))) s).run

variable {manifest texts}

theorem outcomeFrom_eq (s : Merging) :
    outcomeFrom manifest texts s = (run manifest texts s).bind fun
      | .error e => some (.error e)
      | .ok (.inl t) => outcomeFrom manifest texts t
      | .ok (.inr registry) => some (.ok registry) := by
  unfold outcomeFrom
  rw [iterate_eq, ExceptT.run_bind]
  show (run manifest texts s).bind _ = (run manifest texts s).bind _
  refine congrArg _ (funext fun taken => ?_)
  match taken with
  | .error e => rfl
  | .ok (.inl t) => rfl
  | .ok (.inr registry) => rfl

theorem outcomeFrom_of_error {s : Merging} {e : Fault}
    (taken : Step manifest texts s (.error e)) :
    outcomeFrom manifest texts s = some (.error e) := by
  rw [outcomeFrom_eq, run_eq_some_iff.2 taken]
  rfl

theorem outcomeFrom_of_result {s : Merging} {registry : TypeRegistry}
    (taken : Step manifest texts s (.ok (.inr registry))) :
    outcomeFrom manifest texts s = some (.ok registry) := by
  rw [outcomeFrom_eq, run_eq_some_iff.2 taken]
  rfl

theorem outcomeFrom_of_next {s t : Merging} (taken : Next manifest texts s t) :
    outcomeFrom manifest texts s = outcomeFrom manifest texts t := by
  rw [outcomeFrom_eq, run_eq_some_iff.2 taken]
  rfl

theorem outcomeFrom_of_steps {s t : Merging} (path : Steps manifest texts s t) :
    outcomeFrom manifest texts s = outcomeFrom manifest texts t := by
  induction path with
  | refl => rfl
  | tail _ taken ih => exact ih.trans (outcomeFrom_of_next taken)

/-- What the last step establishes, and what every other step carries back, holds of every state
from which merging ends. -/
theorem outcomeFrom_induct {motive : Merging → Except Fault TypeRegistry → Prop}
    (fails : ∀ s e, Step manifest texts s (.error e) → motive s (.error e))
    (last : ∀ s registry, Step manifest texts s (.ok (.inr registry)) → motive s (.ok registry))
    (next : ∀ s t r, Next manifest texts s t → motive t r → motive s r)
    {s : Merging} {r : Except Fault TypeRegistry}
    (ends : outcomeFrom manifest texts s = some r) : motive s r :=
  iterate_induct_except (step manifest (fetch fun url => some (texts url)))
    (fun s e taken => fails s e (run_eq_some_iff.1 taken))
    (fun s registry taken => last s registry (run_eq_some_iff.1 taken))
    (fun s t r taken => next s t r (run_eq_some_iff.1 taken)) ends

/-- The state in which the own classes of a mapping are registered and nothing else is done. -/
def start (mapping : Mapping) (own : List TypeDescriptor) : Merging :=
  ⟨⟨none, mapping.resources⟩, [], [], TypeRegistry.empty.extend own⟩

end Merging

/-- What building the registry of a mapping comes to.  It is `none` if building never ends. -/
noncomputable def outcome (manifest : Manifest) (texts : Texts) (mapping : Mapping) :
    Option (Except Fault TypeRegistry) :=
  (mapping.buildRegistry manifest (fetch fun url => some (texts url))).run

variable {manifest texts}

theorem outcome_of_error {mapping : Mapping} {e : Fault}
    (failed : mapping.ownTypes manifest = .error e) :
    outcome manifest texts mapping = some (.error e) := by
  unfold outcome buildRegistry
  simp only [Merging.enter_eq, failed]
  rfl

theorem outcome_of_ok {mapping : Mapping} {own : List TypeDescriptor}
    (done : mapping.ownTypes manifest = .ok own) :
    outcome manifest texts mapping =
      Merging.outcomeFrom manifest texts (Merging.start mapping own) := by
  unfold outcome buildRegistry
  simp only [Merging.enter_eq, done]
  rfl

end SchemaBinder.Mapping
