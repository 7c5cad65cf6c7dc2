import SchemaBinder.Manifest
import SchemaBinder.Proofs.Text
/-!
# What package scans find

A specifier is a sequence of identifiers with dots between them, which may end in `.**`
(`Scope.Specifies`), and every such text is a specifier (`Scope.parse_eq_ok_iff`).

Scopes compare texts: the namespace of a class is the one of the scope, or starts with it and a dot.
Since no identifier holds a dot, this compares segments (`Scope.covers_iff`): the segments of the
namespace are the identifiers of the scope, or begin with them if the scan is nested.  Texts that only
begin alike, such as `com.acme.types` and `com.acme.typesextra`, are told apart.
-/

namespace SchemaBinder

/-! ## Namespaces of classes -/

namespace Naming

theorem namespaceOf_append {simple : String} (plain : '.' ∉ simple.toList) (space : String) :
    namespaceOf (space ++ "." ++ simple) = space := by
  have parted : Text.splitLast '.' (space ++ "." ++ simple).toList =
      some (space.toList, simple.toList) := by
    rw [Text.splitLast_eq_some_iff]
    exact ⟨by simp, plain⟩
  rw [namespaceOf, parted]
  exact String.ofList_toList

/-- A qualified name has no dot, or a namespace before its last one. -/
theorem namespaceOf_cases (q : String) :
    '.' ∉ q.toList ∧ namespaceOf q = "" ∨
      ∃ simple, '.' ∉ simple.toList ∧ q = namespaceOf q ++ "." ++ simple := by
  rw [namespaceOf]
  cases parted : Text.splitLast '.' q.toList with
  | none => exact .inl ⟨(Text.splitLast_eq_none_iff '.' _).1 parted, rfl⟩
  | some pair =>
    obtain ⟨space, simple⟩ := pair
    obtain ⟨whole, plain⟩ := Text.splitLast_eq_some_iff.1 parted
    refine .inr ⟨String.ofList simple, by rwa [String.toList_ofList], String.toList_inj.1 ?_⟩
    simp [whole]

end Naming

namespace Scope

variable {c : Char} {id s space text : String} {ids : List String} {scope : Scope} {nested : Bool}

/-! ## Identifiers with dots between them -/

/-- The characters that an identifier starts with. -/
def Starts (c : Char) : Prop :=
  ('A' ≤ c ∧ c ≤ 'Z') ∨ ('a' ≤ c ∧ c ≤ 'z') ∨ c = '_' ∨ c = '$'

/-- An identifier goes on with the same characters and with digits. -/
def IsName (id : String) : Prop :=
  ∃ c cs, id.toList = c :: cs ∧ Starts c ∧ ∀ d ∈ cs, Starts d ∨ ('0' ≤ d ∧ d ≤ '9')

/-- A text is made of these identifiers, with dots between them. -/
structure Dotted (ids : List String) (s : String) : Prop where
  /-- There is an identifier. -/
  nonempty : ids ≠ []
  /-- All are identifiers. -/
  names : ∀ id ∈ ids, IsName id
  /-- The text joins them. -/
  text : s = ".".intercalate ids

theorem isIdentifierStart_iff : isIdentifierStart c = true ↔ Starts c := by
  rw [isIdentifierStart, Bool.or_eq_true, Bool.or_eq_true, beq_iff_eq, beq_iff_eq, Text.letter_iff,
    Text.capital_iff, Text.small_iff, or_assoc, or_assoc]
  rfl

theorem isIdentifier_iff : isIdentifier id.toList = true ↔ IsName id := by
  rw [IsName]
  cases id.toList with
  | nil => simp [isIdentifier]
  | cons c cs =>
    simp only [isIdentifier, Bool.and_eq_true, List.all_eq_true, Bool.or_eq_true,
      isIdentifierStart_iff, Text.digit_iff]
    constructor
    · rintro ⟨first, rest⟩
      exact ⟨c, cs, rfl, first, rest⟩
    · rintro ⟨_, _, ⟨⟩, first, rest⟩
      exact ⟨first, rest⟩

/-- No identifier holds a dot. -/
theorem IsName.noDot (isName : IsName id) : '.' ∉ id.toList := by
  have other : ¬ Starts '.' := by unfold Starts; decide
  obtain ⟨c, cs, chars, first, rest⟩ := isName
  rw [chars, List.mem_cons, not_or]
  constructor
  · rintro rfl
    exact other first
  · intro member
    rcases rest '.' member with starts | ⟨large, _⟩
    · exact other starts
    · exact absurd large (by decide)

theorem Dotted.noDot (dotted : Dotted ids s) : ∀ id ∈ ids, '.' ∉ id.toList :=
  fun id member => (dotted.names id member).noDot

theorem Dotted.segments_eq (dotted : Dotted ids s) : Text.segments '.' s = ids :=
  (Text.segments_eq_iff dotted.nonempty dotted.noDot).2 dotted.text

theorem isDotted_iff : isDotted s = true ↔ ∃ ids, Dotted ids s := by
  have each : isDotted s = true ↔ ∀ id ∈ Text.segments '.' s, IsName id := by
    simp only [isDotted, Text.segments, List.all_eq_true, List.forall_mem_map, ← isIdentifier_iff,
      String.toList_ofList]
  rw [each]
  constructor
  · intro names
    refine ⟨_, ?_, names, (Text.intercalate_segments '.' s).symm⟩
    rw [Text.segments, ne_eq, List.map_eq_nil_iff]
    exact Text.split_ne_nil '.' s.toList
  · rintro ⟨ids, dotted⟩
    rw [dotted.segments_eq]
    exact dotted.names

/-! ## Specifiers -/

/-- A text specifies the namespace with these identifiers, or all namespaces from there on. -/
def Specifies (ids : List String) (nested : Bool) (text : String) : Prop :=
  ∃ root, Dotted ids root ∧ text = if nested then root ++ ".**" else root

/-- The mark of nested scans is no part of a sequence of identifiers. -/
theorem Dotted.ne_append_mark (dotted : Dotted ids s) (front : String) : s ≠ front ++ ".**" := by
  rintro rfl
  have parted : front ++ ".**" = front ++ String.singleton '.' ++ "**" := by
    rw [String.append_assoc]
    rfl
  have last : Text.segments '.' (front ++ ".**") = Text.segments '.' front ++ ["**"] := by
    rw [parted, Text.segments_append]
    rfl
  rw [dotted.segments_eq] at last
  have isName : IsName "**" := dotted.names "**" (by simp [last])
  rw [← isIdentifier_iff] at isName
  exact absurd isName (by decide)

/-- A scope is only accepted with a sequence of identifiers as its root. -/
theorem dotted_of_accepted (read : Scope) {fault : Fault}
    (written : text = if read.nested then read.root ++ ".**" else read.root)
    (accepted : (if isDotted read.root then Except.ok read else .error fault) = .ok scope) :
    ∃ ids, Dotted ids scope.root ∧
      text = if scope.nested then scope.root ++ ".**" else scope.root := by
  split at accepted
  · next dotted =>
    cases accepted
    obtain ⟨ids, dotted⟩ := isDotted_iff.1 dotted
    exact ⟨ids, dotted, written⟩
  · cases accepted

/-- A specifier is read as the scope that it writes, and nothing else is a specifier. -/
theorem parse_eq_ok_iff {specifier : String} : parse specifier = .ok scope ↔
    ∃ ids, Dotted ids scope.root ∧
      Text.trim specifier = if scope.nested then scope.root ++ ".**" else scope.root := by
  simp only [parse]
  generalize Text.trim specifier = text
  constructor
  · intro parsed
    cases ending : Text.dropEnd? nestedMark text with
    | some root =>
      rw [ending] at parsed
      exact dotted_of_accepted ⟨root, true⟩ (Text.dropEnd?_eq_some_iff.1 ending) parsed
    | none =>
      rw [ending] at parsed
      exact dotted_of_accepted ⟨text, false⟩ rfl parsed
  · rintro ⟨ids, dotted, rfl⟩
    obtain ⟨root, nested⟩ := scope
    have accepted : isDotted root = true := isDotted_iff.2 ⟨ids, dotted⟩
    cases nested with
    | true =>
      have ending : Text.dropEnd? nestedMark (root ++ ".**") = some root :=
        Text.dropEnd?_eq_some_iff.2 rfl
      simp only [if_true, ending, accepted]
    | false =>
      have ending : Text.dropEnd? nestedMark root = none := by
        rw [Option.eq_none_iff_forall_ne_some]
        exact fun front found =>
          dotted.ne_append_mark front (Text.dropEnd?_eq_some_iff.1 found)
      simp only [Bool.false_eq_true, if_false, ending, accepted, if_true]

/-! ## Classes in a scope -/

/-- A qualified name lies in the namespace with these segments, or in one that begins with them.
The namespace is what stands before the last dot. -/
def LiesIn (ids : List String) (nested : Bool) (q : String) : Prop :=
  ∃ space simple, q = space ++ "." ++ simple ∧ '.' ∉ simple.toList ∧
    (Text.segments '.' space = ids ∨ nested = true ∧ ids <+: Text.segments '.' space)

theorem liesIn_iff {q : String} : LiesIn ids nested q ↔ '.' ∈ q.toList ∧
    (Text.segments '.' (Naming.namespaceOf q) = ids ∨
      nested = true ∧ ids <+: Text.segments '.' (Naming.namespaceOf q)) := by
  constructor
  · rintro ⟨space, simple, rfl, plain, within⟩
    rw [Naming.namespaceOf_append plain]
    exact ⟨by simp, within⟩
  · rintro ⟨qualified, within⟩
    rcases Naming.namespaceOf_cases q with ⟨plain, _⟩ | ⟨simple, plain, whole⟩
    · exact absurd qualified plain
    · exact ⟨_, simple, whole, plain, within⟩

instance (ids : List String) (nested : Bool) (q : String) : Decidable (LiesIn ids nested q) :=
  decidable_of_iff' _ liesIn_iff

/-- Namespaces are compared as texts, and this compares their segments. -/
theorem covers_iff (dotted : Dotted ids scope.root) : scope.covers space = true ↔
    Text.segments '.' space = ids ∨ scope.nested = true ∧ ids <+: Text.segments '.' space := by
  have root : scope.root = (String.singleton '.').intercalate ids := dotted.text
  rw [Text.segments_eq_iff dotted.nonempty dotted.noDot,
    Text.prefix_segments_iff dotted.nonempty dotted.noDot, ← root, covers, Bool.or_eq_true,
    Bool.and_eq_true, beq_iff_eq, Text.hasStart_iff]
  constructor
  · exact Or.imp_right (And.imp_right .inr)
  · rintro (same | ⟨nested, same | longer⟩)
    · exact .inl same
    · exact .inl same
    · exact .inr ⟨nested, longer⟩

theorem covers_namespaceOf_iff (dotted : Dotted ids scope.root) (q : String) :
    scope.covers (Naming.namespaceOf q) = true ↔ LiesIn ids scope.nested q := by
  rw [covers_iff dotted, liesIn_iff]
  refine ⟨fun within => ⟨?_, within⟩, And.right⟩
  -- a name without a dot has the namespace without a name, which is no identifier
  by_contra plain
  rcases Naming.namespaceOf_cases q with ⟨_, empty⟩ | ⟨simple, _, whole⟩
  · have only : Text.segments '.' "" = [""] := rfl
    rw [empty, only] at within
    have bare : ids <+: [""] := within.elim (fun same => same ▸ List.prefix_rfl) And.right
    obtain ⟨id, member⟩ := List.exists_mem_of_ne_nil ids dotted.nonempty
    obtain rfl := List.mem_singleton.1 (bare.subset member)
    have isName := isIdentifier_iff.2 (dotted.names "" member)
    exact absurd isName (by decide)
  · rw [whole] at plain
    exact plain (by simp)

/-- A text is accepted as a specifier exactly if it is, blanks around it apart, a sequence of
identifiers with dots between them, with or without `.**` at its end.  A scan with it finds the
listed classes whose namespace has these identifiers as its segments, or begins with them if the
text ends in `.**`, in the order of the manifest and each as often as it is listed. -/
theorem scans_go_by_segments (specifier : String) :
    ((∃ scope, parse specifier = .ok scope) ↔
      ∃ ids nested, Specifies ids nested (Text.trim specifier)) ∧
    ∀ scope, parse specifier = .ok scope →
      ∃ ids, Specifies ids scope.nested (Text.trim specifier) ∧ Dotted ids scope.root ∧
        ∀ m : Manifest, m.discover scope =
          m.types.filter fun t => LiesIn ids scope.nested t.qualifiedName := by
  refine ⟨⟨?_, ?_⟩, ?_⟩
  · rintro ⟨scope, parsed⟩
    obtain ⟨ids, dotted, text⟩ := parse_eq_ok_iff.1 parsed
    exact ⟨ids, scope.nested, scope.root, dotted, text⟩
  · rintro ⟨ids, nested, root, dotted, text⟩
    exact ⟨⟨root, nested⟩, parse_eq_ok_iff.2 ⟨ids, dotted, text⟩⟩
  · intro scope parsed
    obtain ⟨ids, dotted, text⟩ := parse_eq_ok_iff.1 parsed
    refine ⟨ids, ⟨scope.root, dotted, text⟩, dotted, fun m => ?_⟩
    refine List.filter_congr fun t _ => Bool.eq_iff_iff.2 ?_
    rw [decide_eq_true_eq, KnownType.space]
    exact covers_namespaceOf_iff dotted t.qualifiedName

/-- A manifest with classes in several namespaces, one of them listed twice. -/
def listing : Manifest :=
  .ofNames ["com.acme.types.geo.Point", "com.acme.typesextra.Other", "Money", ".Money",
    "com.acme.types..Odd", "com.acme.types.geo.Point"]

theorem scans_go_by_segments_nested :
    parse " com.acme.types.** " = .ok ⟨"com.acme.types", true⟩ ∧
      Specifies ["com", "acme", "types"] true (Text.trim " com.acme.types.** ") ∧
      (listing.discover ⟨"com.acme.types", true⟩).map (·.qualifiedName) =
        ["com.acme.types.geo.Point", "com.acme.types..Odd", "com.acme.types.geo.Point"] := by
  have parsed : parse " com.acme.types.** " = .ok ⟨"com.acme.types", true⟩ := rfl
  obtain ⟨ids, specifies, dotted, found⟩ := (scans_go_by_segments _).2 _ parsed
  obtain rfl : ids = ["com", "acme", "types"] := dotted.segments_eq.symm
  refine ⟨parsed, specifies, ?_⟩
  rw [found]
  decide

end Scope

end SchemaBinder
