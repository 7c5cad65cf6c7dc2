import SchemaBinder.Proofs.Machine
import SchemaBinder.Session
/-!
# Sessions on a machine

What a step of a session does: it keeps its configuration and the registry it has, and its hand-off
documents are those of the configuration and a registry.  A session that has its registry reads no
file and asks for nothing on the network any more.
-/

namespace SchemaBinder.Session

variable [DomainNames] {s s' : Session} {network : Network} {tree tree' : FileTree}
  {doc : Document} {target : Target} {found : Except Fault TypeRegistry}

/-- What a session is after it has been asked for its registry. -/
structure After (s s' : Session) (found : Except Fault TypeRegistry) : Prop where
  config : s'.config = s.config
  manifest : s'.manifest = s.manifest
  registry : ∀ r, found = .ok r → s'.registry = some r

theorem after_getRegistry
    (done : runOn (m := Id) network tree s.getRegistry = ((found, s'), tree')) :
    After s s' found := by
  unfold getRegistry at done
  cases known : s.registry with
  | some registry =>
    rw [known] at done
    cases done
    refine ⟨rfl, rfl, ?_⟩
    rintro r ⟨⟩
    exact known
  | none =>
    rw [known] at done
    dsimp only at done
    rw [runOn_bind] at done
    generalize runOn (m := Id) network tree s.build.run = built at done
    obtain ⟨outcome, middle⟩ := built
    cases outcome with
    | ok registry =>
      cases done
      refine ⟨rfl, rfl, ?_⟩
      rintro r ⟨⟩
      rfl
    | error e =>
      cases done
      refine ⟨rfl, rfl, ?_⟩
      rintro r ⟨⟩

theorem getRegistry_of_registry {registry : TypeRegistry} (known : s.registry = some registry) :
    runOn (m := Id) network tree s.getRegistry = ((.ok registry, s), tree) := by
  unfold getRegistry
  rw [known]
  rfl

/-- The hand-off document is the one of the configuration and the registry that the session has
afterwards. -/
theorem registry_of_process {h : HandOff}
    (done : runOn (m := Id) network tree (s.process doc target) = ((.ok h, s'), tree')) :
    ∃ registry, s'.registry = some registry ∧ s'.config = s.config ∧
      HandOff.ofDocument s.config registry doc target = .ok h := by
  unfold process at done
  rw [runOn_bind] at done
  generalize looked : runOn (m := Id) network tree s.getRegistry = first at done
  obtain ⟨⟨found, s₁⟩, middle⟩ := first
  have after := after_getRegistry looked
  cases found with
  | error e => cases done
  | ok registry =>
    have made : HandOff.ofDocument s₁.config registry doc target = .ok h :=
      congrArg (·.1.1) done
    have same : s₁ = s' := congrArg (·.1.2) done
    rw [← same, after.config] at *
    exact ⟨registry, after.registry registry rfl, rfl, made⟩

/-- A session that has its registry processes a document and reads nothing. -/
theorem process_of_registry {registry : TypeRegistry} (known : s.registry = some registry) :
    runOn (m := Id) network tree (s.process doc target) =
      ((HandOff.ofDocument s.config registry doc target, s), tree) := by
  unfold process
  rw [runOn_bind, getRegistry_of_registry known]
  rfl

end SchemaBinder.Session
