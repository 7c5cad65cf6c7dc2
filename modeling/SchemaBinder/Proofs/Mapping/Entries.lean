import SchemaBinder.Proofs.Mapping.Documents
/-!
# The entries of a mapping

The entries of a mapping are the pairs of an alias and a class that its sources give, in the order
of precedence: its own pairs, the classes that its package scans find, and then the entries of the
documents that it refers to, one after the other, each with all that it refers to in turn.

`Entries` defines the sequence by the sources alone.  A mapping has at most one
(`Entries.unique`), and it has none if a specifier is malformed, a reference leads nowhere, or the
documents go round in a circle.
-/

namespace SchemaBinder.Mapping

/-- An alias and the qualified name of a class. -/
abbrev Entry := String × String

/-- The descriptor of an entry. -/
def Entry.descriptor (e : Entry) : TypeDescriptor := ⟨e.1, e.2⟩

/-- The entry of a class that a scan finds. -/
def Entry.ofKnown (t : KnownType) : Entry := (t.simpleName, t.qualifiedName)

/-- The entries that package scans give, specifier by specifier. -/
inductive Scanned (manifest : Manifest) : List String → List Entry → Prop where
  | nil : Scanned manifest [] []
  | cons {specifier : String} {rest : List String} {scope : Scope} {entries : List Entry} :
    Scope.parse specifier = .ok scope → Scanned manifest rest entries →
    Scanned manifest (specifier :: rest)
      ((manifest.discover scope).map Entry.ofKnown ++ entries)

/-- The entries that references give, each resolved against the URL of the document that holds it. -/
inductive Followed [DomainNames] (manifest : Manifest) (texts : Texts) :
    Option Url → List String → List Entry → Prop where
  | nil {base : Option Url} : Followed manifest texts base [] []
  | cons {base : Option Url} {reference : String} {rest : List String} {url : Url}
    {mapping : Mapping} {scanned nested more : List Entry} :
    resolveReference base reference = .ok url → Holds texts url mapping →
    Scanned manifest mapping.packages scanned →
    Followed manifest texts (some url) mapping.resources nested →
    Followed manifest texts base rest more →
    Followed manifest texts base (reference :: rest)
      (mapping.direct.entries ++ scanned ++ nested ++ more)

/-- The entries of a mapping whose references are resolved against a URL. -/
def Entries [DomainNames] (manifest : Manifest) (texts : Texts) (base : Option Url)
    (mapping : Mapping) (entries : List Entry) : Prop :=
  ∃ scanned nested, Scanned manifest mapping.packages scanned ∧
    Followed manifest texts base mapping.resources nested ∧
    entries = mapping.direct.entries ++ scanned ++ nested

variable {manifest : Manifest} {texts : Texts}

/-! ## There is at most one sequence -/

theorem Scanned.unique {specifiers : List String} {entries others : List Entry}
    (first : Scanned manifest specifiers entries) (second : Scanned manifest specifiers others) :
    entries = others := by
  induction first generalizing others with
  | nil => cases second; rfl
  | cons parsed _ ih =>
    cases second with
    | cons parsed' rest' =>
      rw [parsed] at parsed'
      cases parsed'
      rw [ih rest']

theorem Followed.unique [DomainNames] {base : Option Url} {references : List String}
    {entries others : List Entry} (first : Followed manifest texts base references entries)
    (second : Followed manifest texts base references others) : entries = others := by
  induction first generalizing others with
  | nil => cases second; rfl
  | cons leads holds scans _ _ ihNested ihRest =>
    cases second with
    | cons leads' holds' scans' nested' rest' =>
      rw [leads] at leads'
      cases leads'
      cases holds.unique holds'
      rw [scans.unique scans', ihNested nested', ihRest rest']

theorem Entries.unique [DomainNames] {base : Option Url} {mapping : Mapping}
    {entries others : List Entry} (first : Entries manifest texts base mapping entries)
    (second : Entries manifest texts base mapping others) : entries = others := by
  obtain ⟨scanned, nested, scans, follows, rfl⟩ := first
  obtain ⟨scanned', nested', scans', follows', rfl⟩ := second
  rw [scans.unique scans', follows.unique follows']

/-! ## The classes of a mapping itself -/

theorem scannedTypes_eq_ok_iff {specifier : String} {found : List TypeDescriptor} :
    scannedTypes manifest specifier = .ok found ↔
      ∃ scope, Scope.parse specifier = .ok scope ∧
        found = ((manifest.discover scope).map Entry.ofKnown).map Entry.descriptor := by
  unfold scannedTypes
  rw [bind_eq_ok_iff]
  refine exists_congr fun scope => and_congr_right fun _ => ?_
  rw [List.map_map]
  exact ⟨fun same => (Except.ok.inj same).symm, fun same => congrArg Except.ok same.symm⟩

/-- Scanning all packages finds the classes of the entries that the scans give. -/
theorem mapM_scannedTypes {specifiers : List String} {found : List TypeDescriptor} :
    (∃ lists, specifiers.mapM (scannedTypes manifest) = .ok lists ∧ lists.flatten = found) ↔
      ∃ scanned, Scanned manifest specifiers scanned ∧ found = scanned.map Entry.descriptor := by
  induction specifiers generalizing found with
  | nil =>
    constructor
    · rintro ⟨lists, run, rfl⟩
      cases run
      exact ⟨[], .nil, rfl⟩
    · rintro ⟨scanned, scans, rfl⟩
      cases scans
      exact ⟨[], rfl, rfl⟩
  | cons specifier rest ih =>
    constructor
    · rintro ⟨lists, run, rfl⟩
      rw [List.mapM_cons, bind_eq_ok_iff] at run
      obtain ⟨first, scan, run⟩ := run
      rw [bind_eq_ok_iff] at run
      obtain ⟨others, scanRest, same⟩ := run
      cases same
      obtain ⟨scope, parsed, rfl⟩ := scannedTypes_eq_ok_iff.1 scan
      obtain ⟨scanned, scans, same⟩ := ih.1 ⟨others, scanRest, rfl⟩
      refine ⟨_, .cons parsed scans, ?_⟩
      rw [List.flatten_cons, same, List.map_append]
    · rintro ⟨scanned, scans, rfl⟩
      cases scans with
      | @cons _ _ scope entries parsed scans =>
        obtain ⟨others, scanRest, same⟩ := ih.2 ⟨entries, scans, rfl⟩
        let first := ((manifest.discover scope).map Entry.ofKnown).map Entry.descriptor
        have scan : scannedTypes manifest specifier = .ok first :=
          scannedTypes_eq_ok_iff.2 ⟨scope, parsed, rfl⟩
        refine ⟨first :: others, ?_, ?_⟩
        · rw [List.mapM_cons, scan, scanRest]
          rfl
        · rw [List.flatten_cons, same, List.map_append]

theorem ownTypes_eq_ok_iff {mapping : Mapping} {own : List TypeDescriptor} :
    mapping.ownTypes manifest = .ok own ↔
      ∃ scanned, Scanned manifest mapping.packages scanned ∧
        own = (mapping.direct.entries ++ scanned).map Entry.descriptor := by
  unfold ownTypes
  rw [bind_eq_ok_iff]
  constructor
  · rintro ⟨lists, run, same⟩
    obtain ⟨scanned, scans, found⟩ := mapM_scannedTypes.1 ⟨lists, run, rfl⟩
    refine ⟨scanned, scans, ?_⟩
    cases same
    rw [found, List.map_append]
    rfl
  · rintro ⟨scanned, scans, rfl⟩
    obtain ⟨lists, run, found⟩ := mapM_scannedTypes.2 ⟨scanned, scans, rfl⟩
    refine ⟨lists, run, ?_⟩
    rw [found, List.map_append]
    rfl

/-- When the classes of a mapping itself cannot be told, then a specifier is malformed. -/
theorem ownTypes_eq_error {mapping : Mapping} {e : Fault}
    (failed : mapping.ownTypes manifest = .error e) :
    ∃ specifier ∈ mapping.packages, Scope.parse specifier = .error e := by
  unfold ownTypes at failed
  rw [bind_eq_error_iff] at failed
  rcases failed with failed | ⟨_, _, last⟩
  · obtain ⟨specifier, member, scan⟩ := mapM_eq_error failed
    refine ⟨specifier, member, ?_⟩
    unfold scannedTypes at scan
    rw [bind_eq_error_iff] at scan
    rcases scan with parse | ⟨_, _, last⟩
    · exact parse
    · cases last
  · cases last

/-- A malformed specifier is a fault of the settings. -/
theorem ownTypes_error_settings {mapping : Mapping} {e : Fault}
    (failed : mapping.ownTypes manifest = .error e) : ∃ cause, e = .settings cause := by
  obtain ⟨specifier, _, parse⟩ := ownTypes_eq_error failed
  exact Scope.parse_eq_error parse

/-! ## A mapping with entries is sound -/

theorem Scanned.parses {specifiers : List String} {entries : List Entry}
    (scans : Scanned manifest specifiers entries) :
    ∀ specifier ∈ specifiers, ∃ scope, Scope.parse specifier = .ok scope := by
  induction scans with
  | nil => simp
  | cons parsed _ ih =>
    intro specifier member
    rcases List.mem_cons.1 member with rfl | later
    · exact ⟨_, parsed⟩
    · exact ih specifier later

/-- Each of the references that are followed leads to a document with entries of its own. -/
theorem Followed.leads [DomainNames] {base : Option Url} {references : List String}
    {entries : List Entry} (follows : Followed manifest texts base references entries) :
    ∀ reference ∈ references, ∃ url mapping own, resolveReference base reference = .ok url ∧
      Holds texts url mapping ∧ Entries manifest texts (some url) mapping own := by
  induction follows with
  | nil => simp
  | cons leads holds scans nested _ _ ih =>
    intro reference member
    rcases List.mem_cons.1 member with rfl | later
    · exact ⟨_, _, _, leads, holds, _, _, scans, nested, rfl⟩
    · exact ih reference later

/-- Every mapping that is read for a mapping with entries has entries. -/
theorem Entries.of_reached [DomainNames] {root mapping : Mapping} {base : Option Url}
    {entries : List Entry} (lists : Entries manifest texts none root entries)
    (reached : Reached texts root base mapping) :
    ∃ own, Entries manifest texts base mapping own := by
  induction reached with
  | root => exact ⟨entries, lists⟩
  | follow _ listed leads holds ih =>
    obtain ⟨_, _, nested, _, follows, _⟩ := ih
    obtain ⟨url, mapping, own, leads', holds', lists'⟩ := follows.leads _ listed
    rw [leads] at leads'
    cases leads'
    cases holds.unique holds'
    exact ⟨own, lists'⟩

/-- From the URL of a reference that is followed, references cannot be followed for ever. -/
theorem Followed.acc [DomainNames] {base : Option Url} {references : List String}
    {entries : List Entry} (follows : Followed manifest texts base references entries) :
    ∀ reference ∈ references, ∀ url, resolveReference base reference = .ok url →
      Acc (Function.swap (Refers texts)) url := by
  induction follows with
  | nil => simp
  | cons leads holds _ _ _ ihNested ihRest =>
    intro reference member url resolved
    rcases List.mem_cons.1 member with rfl | later
    · rw [leads] at resolved
      cases resolved
      refine .intro _ fun next refers => ?_
      obtain ⟨mapping, reference, holds', listed, resolved⟩ := refers
      cases holds.unique holds'
      exact ihNested reference listed next resolved
    · exact ihRest reference later url resolved

theorem not_self_of_acc {r : Url → Url → Prop} {url : Url} (below : Acc r url) : ¬ r url url := by
  induction below with
  | intro url _ ih => exact fun loop => ih url loop loop

/-- A mapping with entries fulfils everything that merging needs. -/
theorem Entries.sound [DomainNames] {root : Mapping} {entries : List Entry}
    (lists : Entries manifest texts none root entries) : Sound texts root where
  scopes base mapping reached := by
    obtain ⟨_, _, _, scans, _, _⟩ := lists.of_reached reached
    exact scans.parses
  references base mapping reached reference listed := by
    obtain ⟨_, _, _, _, follows, _⟩ := lists.of_reached reached
    obtain ⟨url, next, _, leads, holds, _⟩ := follows.leads reference listed
    exact ⟨url, next, leads, holds⟩
  acyclic url reachable loop := by
    obtain ⟨base, mapping, reference, reached, listed, leads⟩ := reachable
    obtain ⟨_, _, _, _, follows, _⟩ := lists.of_reached reached
    -- what ends everywhere cannot go round
    have below := (follows.acc reference listed url leads).transGen
    exact not_self_of_acc below (Relation.transGen_swap.2 loop)

end SchemaBinder.Mapping
