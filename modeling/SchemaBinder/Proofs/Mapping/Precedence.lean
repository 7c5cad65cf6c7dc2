import SchemaBinder.Proofs.Mapping.Entries
import SchemaBinder.Proofs.Mapping.Steps
import SchemaBinder.Url.PlainNames
/-!
# The last entry wins

Merging writes into one registry from pairs, package scans and documents at any depth.  The
registry that comes out is decided by the entries of the mapping alone: an alias has the class of
its last entry.

`Unwound` says which entries a state has yet to register: those of the pending references of the
innermost mapping, then those of the mappings around it.  `unwound_of_outcomeFrom` carries it back
from the end of a run to its start.
-/

namespace SchemaBinder.Mapping

variable {manifest : Manifest} {texts : Texts}

/-- The entries that the pending references of nested mappings give, the innermost first. -/
inductive Unwound [DomainNames] (manifest : Manifest) (texts : Texts) :
    List Frame → List Entry → Prop where
  | nil : Unwound manifest texts [] []
  | cons {frame : Frame} {outer : List Frame} {entries more : List Entry} :
    Followed manifest texts frame.base frame.pending entries →
    Unwound manifest texts outer more →
    Unwound manifest texts (frame :: outer) (entries ++ more)

/-- A mapping without pending references adds nothing. -/
theorem Unwound.exhausted [DomainNames] {base : Option Url} {outer : List Frame}
    {entries : List Entry} (rest : Unwound manifest texts outer entries) :
    Unwound manifest texts (⟨base, []⟩ :: outer) entries :=
  @Unwound.cons _ manifest texts ⟨base, []⟩ outer [] entries .nil rest

namespace Merging

/-- A run that ends with a registry has registered all entries that were left, in their order. -/
theorem unwound_of_outcomeFrom [DomainNames] {s : Merging} {r : Except Fault TypeRegistry}
    (ends : outcomeFrom manifest texts s = some r) :
    ∀ registry, r = .ok registry → ∃ entries, Unwound manifest texts (s.frame :: s.outer) entries ∧
      registry = s.registry.extend (entries.map Entry.descriptor) := by
  refine outcomeFrom_induct (motive := fun s r => ∀ registry, r = .ok registry →
    ∃ entries, Unwound manifest texts (s.frame :: s.outer) entries ∧
      registry = s.registry.extend (entries.map Entry.descriptor)) ?_ ?_ ?_ ends
  · intro s e _ registry same
    cases same
  · intro s final taken registry same
    cases same
    cases taken with
    | finish => exact ⟨[], .exhausted .nil, rfl⟩
  · intro s t r taken known registry same
    obtain ⟨entries, unwound, written⟩ := known registry same
    cases taken with
    | leave => exact ⟨entries, .exhausted unwound, written⟩
    | enter leads fresh holds own =>
      obtain ⟨scanned, scans, rfl⟩ := ownTypes_eq_ok_iff.1 own
      -- the own entries of the document are registered now, its nested ones and the rest later
      cases unwound with
      | cons nested unwound =>
        cases unwound with
        | cons rest unwound =>
          refine ⟨_, .cons (.cons leads holds scans nested rest) unwound, ?_⟩
          rw [written, ← TypeRegistry.extend_append, ← List.map_append]
          simp only [List.append_assoc]

end Merging

/-- A registry that is built holds the entries of its mapping, registered one after the other. -/
theorem entries_of_outcome [DomainNames] {mapping : Mapping} {registry : TypeRegistry}
    (built : outcome manifest texts mapping = some (.ok registry)) :
    ∃ entries, Entries manifest texts none mapping entries ∧
      registry = TypeRegistry.empty.extend (entries.map Entry.descriptor) := by
  cases own : mapping.ownTypes manifest with
  | error e =>
    rw [outcome_of_error own] at built
    cases built
  | ok types =>
    rw [outcome_of_ok own] at built
    obtain ⟨scanned, scans, rfl⟩ := ownTypes_eq_ok_iff.1 own
    obtain ⟨entries, unwound, written⟩ := Merging.unwound_of_outcomeFrom built registry rfl
    cases unwound with
    | cons nested unwound =>
      cases unwound with
      | nil =>
        refine ⟨_, ⟨scanned, _, scans, nested, rfl⟩, ?_⟩
        rw [written, List.append_nil]
        show (TypeRegistry.empty.extend _).extend _ = _
        rw [← TypeRegistry.extend_append, ← List.map_append]

/-- Look-up in a registry of entries finds the last one of an alias. -/
theorem get?_extend_entries (entries : List Entry) (name : String) :
    (TypeRegistry.empty.extend (entries.map Entry.descriptor)).get? name =
      ((entries.filter (·.1 = name)).getLast?).map Entry.descriptor := by
  rw [TypeRegistry.get?_extend, List.filter_map, List.getLast?_map]
  exact Option.or_none

/-- If the registry of a mapping can be built, then the mapping has exactly one sequence of
entries, and each alias stands for the class of its last entry in it, if there is one. -/
theorem last_entry_wins [DomainNames] (manifest : Manifest) (texts : Texts) (mapping : Mapping)
    (registry : TypeRegistry) (built : outcome manifest texts mapping = some (.ok registry)) :
    ∃ entries, Entries manifest texts none mapping entries ∧
      (∀ others, Entries manifest texts none mapping others → others = entries) ∧
      ∀ name,
        registry.get? name = ((entries.filter (·.1 = name)).getLast?).map Entry.descriptor ∧
        (registry.get? name = none ↔ ∀ e ∈ entries, e.1 ≠ name) := by
  obtain ⟨entries, lists, rfl⟩ := entries_of_outcome built
  refine ⟨entries, lists, fun others also => also.unique lists, fun name => ?_⟩
  refine ⟨get?_extend_entries entries name, ?_⟩
  rw [get?_extend_entries, Option.map_eq_none_iff, List.getLast?_eq_none_iff,
    List.filter_eq_nil_iff]
  simp only [decide_eq_true_eq, ne_eq]

/-! ## Two documents, one within the other -/

/-- The URL of a file at the root of a machine. -/
def fileAt (name : String) : Url :=
  ⟨"file".toList, some ⟨[], [], none⟩, .segments [name.toList], none, none⟩

/-- Two documents, the first of which refers to the second. -/
def twoDocuments : Texts := fun url =>
  if url = fileAt "x" then .ok "{directMap: {A: x.Two}, externalResources: y}"
  else if url = fileAt "y" then .ok "{directMap: {A: y.Three}}"
  else .error (.unfetchableResource url.render (.unanswered "no route"))

/-- A mapping with a pair of its own that refers to the first document. -/
def overridden : Mapping := ⟨.ofList [("A", "a.One")], [], ["file:///x"]⟩

/-- A text whose mapping has no packages holds a mapping whose own classes are its pairs. -/
theorem holds_of_parts (manifest : Manifest) (texts : Texts) {url : Url} {text : String}
    (entries : List Entry) (resources : List String) (read : texts url = .ok text)
    (parts : (parse text).toOption.map (fun m => (m.direct.entries, m.packages, m.resources)) =
      some (entries, [], resources)) :
    ∃ mapping, Holds texts url mapping ∧ mapping.resources = resources ∧
      mapping.ownTypes manifest = .ok (entries.map Entry.descriptor) := by
  cases parsed : parse text with
  | error e => simp [parsed, Except.toOption] at parts
  | ok mapping =>
    simp only [parsed, Except.toOption, Option.map_some, Option.some.injEq, Prod.mk.injEq]
      at parts
    obtain ⟨direct, packages, same⟩ := parts
    refine ⟨mapping, ⟨text, read, parsed⟩, same, ownTypes_eq_ok_iff.2 ⟨[], ?_, ?_⟩⟩
    · rw [packages]
      exact .nil
    · rw [direct, List.append_nil]

/-- The pairs of the mapping and of the two documents, registered from the outside inwards. -/
def overriddenRegistry : TypeRegistry :=
  TypeRegistry.empty.extend [⟨"A", "a.One"⟩, ⟨"A", "x.Two"⟩, ⟨"A", "y.Three"⟩]

theorem outcome_twoDocuments [DomainNames] :
    outcome .empty twoDocuments overridden = some (.ok overriddenRegistry) := by
  have own : overridden.ownTypes .empty = .ok [⟨"A", "a.One"⟩] :=
    ownTypes_eq_ok_iff.2 ⟨[], .nil, rfl⟩
  obtain ⟨first, holdsFirst, pendingFirst, ownFirst⟩ : ∃ mapping,
      Holds twoDocuments (fileAt "x") mapping ∧ mapping.resources = ["y"] ∧
        mapping.ownTypes .empty = .ok [⟨"A", "x.Two"⟩] :=
    holds_of_parts .empty twoDocuments [("A", "x.Two")] ["y"] rfl (by decide +kernel)
  obtain ⟨second, holdsSecond, pendingSecond, ownSecond⟩ : ∃ mapping,
      Holds twoDocuments (fileAt "y") mapping ∧ mapping.resources = [] ∧
        mapping.ownTypes .empty = .ok [⟨"A", "y.Three"⟩] :=
    holds_of_parts .empty twoDocuments [("A", "y.Three")] [] rfl (by decide +kernel)
  have toFirst : resolveReference none "file:///x" = .ok (fileAt "x") := rfl
  have toSecond : resolveReference (some (fileAt "x")) "y" = .ok (fileAt "y") := rfl
  rw [outcome_of_ok own]
  show Merging.outcomeFrom .empty twoDocuments ⟨⟨none, ["file:///x"]⟩, [], [], _⟩ = _
  rw [Merging.outcomeFrom_of_next (.enter toFirst (by decide) holdsFirst ownFirst), pendingFirst]
  rw [Merging.outcomeFrom_of_next (.enter toSecond (by decide) holdsSecond ownSecond),
    pendingSecond]
  rw [Merging.outcomeFrom_of_next .leave, Merging.outcomeFrom_of_next .leave]
  exact Merging.outcomeFrom_of_result .finish

/-- The innermost document has the last word. -/
theorem last_entry_wins_twoDocuments :
    outcome .empty twoDocuments overridden = some (.ok overriddenRegistry) ∧
      overriddenRegistry.get? "A" = some ⟨"A", "y.Three"⟩ ∧
      ∃ entries, Entries .empty twoDocuments none overridden entries ∧
        (∀ others, Entries .empty twoDocuments none overridden others → others = entries) ∧
        ∀ name,
          overriddenRegistry.get? name =
            ((entries.filter (·.1 = name)).getLast?).map Entry.descriptor ∧
          (overriddenRegistry.get? name = none ↔ ∀ e ∈ entries, e.1 ≠ name) :=
  ⟨outcome_twoDocuments, by decide,
    last_entry_wins .empty twoDocuments overridden overriddenRegistry outcome_twoDocuments⟩

end SchemaBinder.Mapping
