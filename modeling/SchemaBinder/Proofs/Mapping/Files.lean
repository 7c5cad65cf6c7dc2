import SchemaBinder.Proofs.Machine
import SchemaBinder.Proofs.Mapping.Steps
import SchemaBinder.Session
/-!
# Documents of a machine

A session reads mapping documents from files and from the network.  `textsOf` is what a machine holds
at each URL, and reading it leaves the files as they are.  So the registry that a session builds on a
machine is what `outcome` says of its texts, whenever building comes to an end
(`Session.build_of_outcome`, `Session.run_build`).
-/

namespace SchemaBinder

namespace Mapping

/-- What a machine holds at each URL: a file of its tree, or what its network answers within a number
of seconds. -/
def textsOf (network : Network) (seconds : UInt64) (tree : FileTree) : Texts := fun url =>
  let scheme := String.ofList url.scheme
  if scheme = "http" ∨ scheme = "https" then
    match network.replyWithin seconds url.render with
    | some reply => reply.text.mapError (.unfetchableResource url.render)
    | none => .error (.slowResource seconds url.render)
  else if scheme = "file" then
    match url.toFilePath? with
    | some path => (tree.readText path).mapError (.unreadableResource path)
    | none => .error (.invalidFileUrl url.render)
  else .error (.unsupportedScheme scheme url.render)

variable {m : Type → Type} [Monad m] {manifest : Manifest} {network : Network} {seconds : UInt64}
  {tree : FileTree}

variable [LawfulMonad m]

/-- Reading a document changes no file. -/
theorem runOn_readResource (url : Url) :
    runOn (m := m) network tree (readResource seconds url) =
      pure (textsOf network seconds tree url, tree) := by
  simp only [readResource, textsOf, Bool.or_eq_true, decide_eq_true_eq]
  split
  · rw [runOn_bind, runOn_requestWithin, pure_bind]
    cases network.replyWithin seconds url.render <;> rfl
  · split
    · cases url.toFilePath? with
      | none => rfl
      | some path => simp only [runOn_bind, runOn_readText, pure_bind, runOn_pure]
    · rfl

theorem mapError_eq_ok_iff {ε ε' α : Type} {f : ε → ε'} {x : Except ε α} {a : α} :
    x.mapError f = .ok a ↔ x = .ok a := by
  cases x <;> simp [Except.mapError]

/-- What a machine holds at a URL: the text of a file, or one that comes over the network in time. -/
theorem textsOf_eq_ok_iff {url : Url} {text : String} : textsOf network seconds tree url = .ok text ↔
    (String.ofList url.scheme = "file" ∧
      ∃ path, url.toFilePath? = some path ∧ tree.readText path = .ok text) ∨
    ((String.ofList url.scheme = "http" ∨ String.ofList url.scheme = "https") ∧
      ∃ reply, network.replyWithin seconds url.render = some reply ∧ reply.text = .ok text) := by
  rw [textsOf]
  by_cases remote : String.ofList url.scheme = "http" ∨ String.ofList url.scheme = "https"
  · have notFile : String.ofList url.scheme ≠ "file" := by
      rcases remote with http | https
      · simp [http]
      · simp [https]
    cases answered : network.replyWithin seconds url.render <;>
      simp [remote, notFile, mapError_eq_ok_iff]
  · by_cases file : String.ofList url.scheme = "file"
    · cases known : url.toFilePath? <;> simp [file, mapError_eq_ok_iff]
    · simp [remote, file]

/-- A step of merging on a machine is the step with its texts. -/
theorem Merging.runOn_step [DomainNames] {s : Merging}
    {taken : Except Fault (Merging ⊕ TypeRegistry)}
    (step : Step manifest (textsOf network seconds tree) s taken) :
    runOn (m := m) network tree (Merging.step manifest (loadWithin seconds) s).run =
      pure (taken, tree) := by
  have known := run_eq_some_iff.2 step
  obtain ⟨⟨base, pending⟩, outer, chain, registry⟩ := s
  match pending, outer with
  | [], [] =>
    cases known
    rfl
  | [], frame :: outer =>
    cases known
    rfl
  | reference :: pending, outer =>
    cases leads : resolveReference base reference with
    | error e =>
      rw [run_of_error pending outer chain registry leads] at known
      cases known
      show runOn network tree (Merging.step manifest (fetch (readResource seconds)) _).run = _
      rw [step_of_error (readResource seconds) pending outer chain registry leads]
      rfl
    | ok url =>
      rw [run_of_ok pending outer chain registry leads] at known
      cases known
      show runOn network tree (Merging.step manifest (fetch (readResource seconds)) _).run = _
      rw [step_of_ok (readResource seconds) pending outer chain registry leads]
      split
      · rfl
      · rw [runOn_bind, runOn_readResource, pure_bind]
        rfl

/-- Merging on a machine comes to what it comes to with its texts. -/
theorem Merging.runOn_iterate [DomainNames] {s : Merging} {r : Except Fault TypeRegistry}
    (ends : outcomeFrom manifest (textsOf network seconds tree) s = some r) :
    runOn (m := Id) network tree (iterate (Merging.step manifest (loadWithin seconds)) s).run =
      (r, tree) := by
  refine outcomeFrom_induct (motive := fun s r =>
    runOn (m := Id) network tree (iterate (Merging.step manifest (loadWithin seconds)) s).run =
      (r, tree)) ?_ ?_ ?_ ends
  · intro s e taken
    rw [iterate_eq, runOn_except_bind, runOn_step taken]
    rfl
  · intro s registry taken
    rw [iterate_eq, runOn_except_bind, runOn_step taken]
    rfl
  · intro s t r taken known
    rw [iterate_eq, runOn_except_bind, runOn_step taken]
    exact known

end Mapping

namespace Session

variable [DomainNames] (s : Session) (network : Network) (tree : FileTree)

/-- What a session reads at each URL. -/
def texts : Mapping.Texts := Mapping.textsOf network s.config.fetchTimeout tree

/-- If building comes to an end with the texts of a machine, then a session on the machine builds the
same, and no file is changed. -/
theorem build_of_outcome {r : Except Fault TypeRegistry}
    (ends : Mapping.outcome s.manifest (s.texts network tree) s.config.mapping = some r) :
    runOn (m := Id) network tree s.build.run = (r, tree) := by
  unfold build Mapping.buildRegistry
  simp only [Mapping.Merging.enter_eq]
  cases own : s.config.mapping.ownTypes s.manifest with
  | error e =>
    rw [Mapping.outcome_of_error own] at ends
    cases ends
    rfl
  | ok types =>
    rw [Mapping.outcome_of_ok own] at ends
    exact Mapping.Merging.runOn_iterate ends

/-- Where it can be seen whether building comes to an end, a session on a machine builds what comes
of its texts, and no file is changed. -/
theorem runOn_build : runOn (m := Option) network tree s.build.run =
    (Mapping.outcome s.manifest (s.texts network tree) s.config.mapping).map (·, tree) := by
  unfold build Mapping.buildRegistry
  simp only [Mapping.Merging.enter_eq]
  cases own : s.config.mapping.ownTypes s.manifest with
  | error e =>
    rw [Mapping.outcome_of_error own]
    rfl
  | ok types =>
    rw [Mapping.outcome_of_ok own]
    refine runOn_iterate_of_kept (fun merging => ?_) (Mapping.Merging.start _ types)
    obtain ⟨taken, step⟩ :=
      Mapping.Merging.exists_step s.manifest (s.texts network tree) merging
    have alone : ExceptT.run (Mapping.Merging.step s.manifest
        (Mapping.fetch fun url => some (s.texts network tree url)) merging) = some taken :=
      Mapping.Merging.run_eq_some_iff.2 step
    rw [Mapping.Merging.runOn_step step, alone]
    rfl

end Session

end SchemaBinder
