import Mathlib.Logic.Relation
import Mathlib.Data.Set.Finite.Basic
import SchemaBinder.Mapping.File
import SchemaBinder.Mapping.Registry
/-!
# Mapping documents that refer to each other

The texts that can be read at URLs are given as one function, `Texts`.  It decides which mapping a
URL holds, and so which documents a mapping leads to.

`Reached` is the relation between a mapping and the mappings that are read for it, each with the
URL that its references are resolved against.  `Reachable` are the URLs that some reference on the
way leads to, whether or not they can be read.  `Refers` is the edge between two documents.

`Sound` is what a mapping and its documents must fulfil for the registry to be built: specifiers
that are well-formed, references that lead to readable documents, and no document that leads back
to itself.
-/

namespace SchemaBinder.Mapping

/-- What is read at each URL: a text, or the reason why there is none. -/
abbrev Texts := Url → Except SettingsFault String

/-- A URL holds a mapping. -/
def Holds (texts : Texts) (url : Url) (mapping : Mapping) : Prop :=
  ∃ text, texts url = .ok text ∧ parse text = .ok mapping

theorem Holds.unique {texts : Texts} {url : Url} {mapping other : Mapping}
    (first : Holds texts url mapping) (second : Holds texts url other) : mapping = other := by
  obtain ⟨text, read, parsed⟩ := first
  obtain ⟨text', read', parsed'⟩ := second
  rw [read] at read'
  cases read'
  rw [parsed] at parsed'
  cases parsed'
  rfl

theorem ofRead_eq_ok_iff {texts : Texts} {url : Url} {mapping : Mapping} :
    ofRead url (texts url) = .ok mapping ↔ Holds texts url mapping := by
  unfold ofRead Holds
  cases texts url with
  | error e => simp
  | ok text => cases parsed : parse text <;> simp [parsed]

/-- A document that cannot be read, and one that is malformed, are faults of the settings. -/
theorem ofRead_eq_error {url : Url} {read : Except SettingsFault String} {e : Fault}
    (failed : ofRead url read = .error e) : ∃ cause, e = .settings cause := by
  unfold ofRead at failed
  cases read with
  | error cause =>
    cases failed
    exact ⟨cause, rfl⟩
  | ok text =>
    simp only at failed
    split at failed
    · cases failed
    · cases failed
      exact ⟨_, rfl⟩

variable [DomainNames]

theorem resolveReference_eq_error {base : Option Url} {reference : String} {e : Fault}
    (failed : resolveReference base reference = .error e) : ∃ cause, e = .settings cause := by
  cases base with
  | none =>
    cases read : Url.parse reference with
    | ok url => simp [resolveReference, read] at failed
    | error cause =>
      simp only [resolveReference, read, Except.error.injEq] at failed
      exact ⟨_, failed.symm⟩
  | some base =>
    cases read : base.join reference with
    | ok url => simp [resolveReference, read] at failed
    | error cause =>
      simp only [resolveReference, read, Except.error.injEq] at failed
      exact ⟨_, failed.symm⟩

/-! ## The graph of documents -/

variable (texts : Texts)

/-- The mappings that are read for a mapping, itself included, and the URLs that their references
are resolved against. -/
inductive Reached (root : Mapping) : Option Url → Mapping → Prop where
  /-- The mapping itself. -/
  | root : Reached root none root
  /-- The mapping of a document that a reference leads to. -/
  | follow {base : Option Url} {mapping next : Mapping} {reference : String} {url : Url} :
    Reached root base mapping → reference ∈ mapping.resources →
    resolveReference base reference = .ok url → Holds texts url next →
    Reached root (some url) next

/-- The URLs that following references leads to. -/
def Reachable (root : Mapping) (url : Url) : Prop :=
  ∃ base mapping reference, Reached texts root base mapping ∧ reference ∈ mapping.resources ∧
    resolveReference base reference = .ok url

/-- The document at a URL refers to another URL. -/
def Refers (url next : Url) : Prop :=
  ∃ mapping reference, Holds texts url mapping ∧ reference ∈ mapping.resources ∧
    resolveReference (some url) reference = .ok next

/-- A mapping whose documents can all be merged. -/
structure Sound (root : Mapping) : Prop where
  /-- Every package specifier on the way is well-formed. -/
  scopes : ∀ base mapping, Reached texts root base mapping →
    ∀ specifier ∈ mapping.packages, ∃ scope, Scope.parse specifier = .ok scope
  /-- Every reference on the way leads to a document. -/
  references : ∀ base mapping, Reached texts root base mapping →
    ∀ reference ∈ mapping.resources, ∃ url next,
      resolveReference base reference = .ok url ∧ Holds texts url next
  /-- No document on the way leads back to itself. -/
  acyclic : ∀ url, Reachable texts root url → ¬ Relation.TransGen (Refers texts) url url

variable {texts}

/-- A mapping that is read at a URL is the one that the URL holds. -/
theorem Reached.holds {root mapping : Mapping} {url : Url}
    (reached : Reached texts root (some url) mapping) : Holds texts url mapping := by
  cases reached with
  | follow _ _ _ holds => exact holds

theorem Reached.refers {root mapping : Mapping} {url next : Url} {reference : String}
    (reached : Reached texts root (some url) mapping) (listed : reference ∈ mapping.resources)
    (leads : resolveReference (some url) reference = .ok next) : Refers texts url next :=
  ⟨mapping, reference, reached.holds, listed, leads⟩

theorem Reached.reachable {root mapping : Mapping} {base : Option Url} {url : Url}
    {reference : String} (reached : Reached texts root base mapping)
    (listed : reference ∈ mapping.resources)
    (leads : resolveReference base reference = .ok url) : Reachable texts root url :=
  ⟨base, mapping, reference, reached, listed, leads⟩

/-- What holds of the URLs that a mapping refers to, and of those that a URL with it refers to,
holds of all reachable ones. -/
theorem Reachable.induct {root : Mapping} {motive : Url → Prop}
    (first : ∀ reference ∈ root.resources, ∀ url, resolveReference none reference = .ok url →
      motive url)
    (next : ∀ url following, motive url → Refers texts url following → motive following)
    {url : Url} (reachable : Reachable texts root url) : motive url := by
  obtain ⟨base, mapping, reference, reached, listed, leads⟩ := reachable
  induction reached generalizing reference url with
  | root => exact first reference listed url leads
  | follow around listed' leads' holds ih =>
    exact next _ url (ih _ listed' leads') ⟨_, reference, holds, listed, leads⟩

end SchemaBinder.Mapping
