import Mathlib.Data.List.Basic
import SchemaBinder.Naming
/-!
# What the names of types keep

The name of a type is made in three steps, and each of them keeps the letters and digits of ASCII in
their order: replacing the other characters by underscores, cutting into words
(`flatten_wordsFrom`), and joining with capitals (`toLower_camelCase`).  Only their case changes.

So the name of a type in small letters is the text that it is made from with everything else left
out, or `default` if nothing is left (`toLower_typeName`).  Texts with the same name differ in case
and punctuation only.

For the same reason the name of a type starts with a digit if that is the first letter or digit of
the text, and no type can have such a name (`namedFor_typeName_append`).
-/

namespace SchemaBinder.Naming

variable {c : Char} {cs : List Char}

/-! ## Characters of ASCII -/

theorem lt_of_isAlphanum (word : c.isAlphanum = true) : c.toNat < 0x80 := by
  have below {last : Char} (le : c ≤ last) (ascii : last.toNat < 0x80) : c.toNat < 0x80 :=
    Nat.lt_of_le_of_lt (UInt32.le_iff_toNat_le.1 le) ascii
  rw [Text.alphanumeric_iff, Text.letter_iff, Text.capital_iff, Text.small_iff,
    Text.digit_iff] at word
  obtain (⟨_, le⟩ | ⟨_, le⟩) | ⟨_, le⟩ := word
  · exact below le (by decide)
  · exact below le (by decide)
  · exact below le (by decide)

/-- What holds of each of the 128 characters of ASCII holds of all of them. -/
theorem of_ascii (p : Char → Prop) (each : ∀ n < 0x80, p (.ofNat n)) (ascii : c.toNat < 0x80) :
    p c := by
  simpa using each c.toNat ascii

/-- Only the capitals of ASCII are made small. -/
theorem toLower_of_not_isUpper (small : ¬ c.isUpper = true) : c.toLower = c :=
  dif_neg fun range => small (Text.capital_iff.2 range)

theorem isAlphanum_of_isUpper (capital : c.isUpper = true) : c.isAlphanum = true :=
  Text.alphanumeric_iff.2 (.inl (Text.letter_iff.2 (.inl capital)))

theorem toLower_of_not_lt (beyond : ¬ c.toNat < 0x80) : c.toLower = c :=
  toLower_of_not_isUpper fun capital => beyond (lt_of_isAlphanum (isAlphanum_of_isUpper capital))

theorem isAlphanum_toLower (c : Char) : c.toLower.isAlphanum = c.isAlphanum := by
  by_cases ascii : c.toNat < 0x80
  · exact of_ascii (fun c => c.toLower.isAlphanum = c.isAlphanum) (by decide) ascii
  · rw [toLower_of_not_lt ascii]

theorem isDigit_toLower (c : Char) : c.toLower.isDigit = c.isDigit := by
  by_cases ascii : c.toNat < 0x80
  · exact of_ascii (fun c => c.toLower.isDigit = c.isDigit) (by decide) ascii
  · rw [toLower_of_not_lt ascii]

theorem toLower_toLower (c : Char) : c.toLower.toLower = c.toLower := by
  by_cases ascii : c.toNat < 0x80
  · exact of_ascii (fun c => c.toLower.toLower = c.toLower) (by decide) ascii
  · rw [toLower_of_not_lt ascii, toLower_of_not_lt ascii]

/-- A capital and its small letter are the same small letter. -/
theorem toLower_toUpper (ascii : c.toNat < 0x80) : c.toUpper.toLower = c.toLower :=
  of_ascii (fun c => c.toUpper.toLower = c.toLower) (by decide) ascii

/-- A character that an identifier can hold is one of ASCII. -/
theorem lt_of_isIdentifierChar (holds : isIdentifierChar c = true) : c.toNat < 0x80 := by
  rw [isIdentifierChar, Bool.or_eq_true, beq_iff_eq] at holds
  rcases holds with word | rfl
  · exact lt_of_isAlphanum word
  · decide

theorem sanitize_lt (s : String) : ∀ c ∈ (sanitize s).toList, c.toNat < 0x80 := by
  intro c member
  rw [sanitize, String.toList_ofList] at member
  obtain ⟨d, _, rfl⟩ := List.mem_map.1 member
  split
  · next holds => exact lt_of_isIdentifierChar holds
  · decide

/-! ## Letters and digits -/

/-- The letters and digits of ASCII in a text, as small letters. -/
def bare (cs : List Char) : List Char := (cs.filter Char.isAlphanum).map Char.toLower

theorem bare_cons_of_isAlphanum (word : c.isAlphanum = true) (cs : List Char) :
    bare (c :: cs) = c.toLower :: bare cs := by
  rw [bare, List.filter_cons_of_pos word]
  rfl

theorem bare_cons_of_not (other : c.isAlphanum = false) (cs : List Char) :
    bare (c :: cs) = bare cs := by
  rw [bare, List.filter_cons_of_neg (by simp [other])]
  rfl

theorem isAlphanum_of_mem_bare (member : c ∈ bare cs) : c.isAlphanum = true := by
  obtain ⟨d, kept, rfl⟩ := List.mem_map.1 member
  rw [isAlphanum_toLower]
  exact (List.mem_filter.1 kept).2

theorem toLower_bare (cs : List Char) : (bare cs).map Char.toLower = bare cs := by
  rw [bare, List.map_map]
  exact List.map_congr_left fun c _ => toLower_toLower c

/-- Characters that no identifier can hold are no letters and digits. -/
theorem bare_sanitize (s : String) : bare (sanitize s).toList = bare s.toList := by
  rw [sanitize, String.toList_ofList]
  induction s.toList with
  | nil => rfl
  | cons c cs ih =>
    rw [List.map_cons]
    by_cases holds : isIdentifierChar c = true
    · rw [if_pos holds]
      by_cases word : c.isAlphanum = true
      · rw [bare_cons_of_isAlphanum word, bare_cons_of_isAlphanum word, ih]
      · rw [bare_cons_of_not (by simpa using word), bare_cons_of_not (by simpa using word), ih]
    · have other : c.isAlphanum = false := by
        rw [isIdentifierChar, Bool.or_eq_true, not_or] at holds
        simpa using holds.1
      rw [if_neg holds, bare_cons_of_not other, bare_cons_of_not rfl, ih]

/-! ## Words -/

/-- Cutting a text into words loses no letter and no digit, and makes capitals small. -/
theorem flatten_wordsFrom (ascii : ∀ c ∈ cs, c.toNat < 0x80) (word : List Char)
    (afterSmall : Bool) : (wordsFrom word afterSmall cs).flatten = word ++ bare cs := by
  induction cs generalizing word afterSmall with
  | nil =>
    rw [wordsFrom]
    split
    · next empty => simp [List.isEmpty_iff.1 empty, bare]
    · simp [bare]
  | cons c cs ih =>
    obtain ⟨here, ascii⟩ := List.forall_mem_cons.1 ascii
    rw [wordsFrom, Text.isUpper_ascii here, Text.toLower_ascii here, Text.isWord_ascii here]
    by_cases capital : c.isUpper = true
    · rw [if_pos capital, bare_cons_of_isAlphanum (isAlphanum_of_isUpper capital)]
      split <;> simp [ih ascii]
    · rw [if_neg capital]
      by_cases isWord : c.isAlphanum = true
      · rw [if_pos isWord, ih ascii, bare_cons_of_isAlphanum isWord,
          toLower_of_not_isUpper capital, List.append_assoc]
        rfl
      · rw [if_neg isWord, bare_cons_of_not (by simpa using isWord)]
        split
        · next empty => rw [ih ascii, List.isEmpty_iff.1 empty]
        · rw [List.flatten_cons, ih ascii, List.nil_append]

/-- A capital at the front of a word changes its case only. -/
theorem toLower_capitalised (ascii : ∀ c ∈ cs, c.toNat < 0x80) :
    (capitalised cs).map Char.toLower = cs.map Char.toLower := by
  cases cs with
  | nil => rfl
  | cons c cs =>
    have first := ascii c List.mem_cons_self
    rw [capitalised, Text.toUpper_ascii first, List.singleton_append, List.map_cons, List.map_cons,
      toLower_toUpper first]

/-- Camel case keeps the letters and digits of a text, and nothing else. -/
theorem toLower_camelCase {s : String} (ascii : ∀ c ∈ s.toList, c.toNat < 0x80) :
    (camelCase s).toList.map Char.toLower = bare s.toList := by
  have all : (words s).flatten = bare s.toList := flatten_wordsFrom ascii [] false
  have each : ∀ word ∈ words s, ∀ c ∈ word, c.toNat < 0x80 := by
    intro word member c inside
    have kept : c ∈ bare s.toList := all ▸ List.mem_flatten.2 ⟨word, member, inside⟩
    exact lt_of_isAlphanum (isAlphanum_of_mem_bare kept)
  calc (camelCase s).toList.map Char.toLower
      = (words s).flatMap fun word => (capitalised word).map Char.toLower := by
        rw [camelCase, String.toList_ofList, List.map_flatMap]
    _ = (words s).flatMap fun word => word.map Char.toLower :=
        List.flatMap_congr fun word member => toLower_capitalised (each word member)
    _ = (bare s.toList).map Char.toLower := by
        rw [← all, List.map_flatten, List.flatMap_def]
    _ = bare s.toList := toLower_bare s.toList

/-! ## Names of types -/

/-- What the name of a type keeps of the text that it is made from: its letters and digits, or those
of `default` if it has none. -/
def essence (s : String) : List Char :=
  if bare s.toList = [] then "default".toList else bare s.toList

/-- The name of a type in small letters. -/
theorem toLower_typeName (s : String) : (typeName s).toList.map Char.toLower = essence s := by
  have kept : (camelCase (sanitize s)).toList.map Char.toLower = bare s.toList := by
    rw [toLower_camelCase (sanitize_lt s), bare_sanitize]
  rw [typeName, essence, ← kept]
  by_cases empty : camelCase (sanitize s) = ""
  · rw [if_pos empty, empty]
    rfl
  · rw [if_neg empty, if_neg]
    simpa using empty

/-! ## Names that types can have -/

/-- Is the first letter or digit of a text a digit? -/
def startsWithDigit (s : String) : Bool :=
  (s.toList.find? Char.isAlphanum).any Char.isDigit

/-- A name that generated code can give to a type: letters and digits of ASCII, with no digit at the
front. -/
structure IsTypeName (name : String) : Prop where
  /-- There is a character. -/
  nonempty : name ≠ ""
  /-- All are letters and digits. -/
  word : ∀ c ∈ name.toList, c.isAlphanum = true
  /-- The first one is no digit. -/
  front : name.toList.head?.any Char.isDigit = false

theorem typeName_ne_empty (s : String) : typeName s ≠ "" := by
  intro empty
  have kept := toLower_typeName s
  rw [empty, essence] at kept
  split at kept
  · cases kept
  · next left => exact left kept.symm

theorem isAlphanum_of_mem_essence {s : String} (member : c ∈ essence s) : c.isAlphanum = true := by
  rw [essence] at member
  split at member
  · have each : "default".toList.all Char.isAlphanum = true := rfl
    exact List.all_eq_true.1 each c member
  · exact isAlphanum_of_mem_bare member

theorem isAlphanum_of_mem_typeName {s : String} (member : c ∈ (typeName s).toList) :
    c.isAlphanum = true := by
  rw [← isAlphanum_toLower]
  refine isAlphanum_of_mem_essence (s := s) ?_
  rw [← toLower_typeName]
  exact List.mem_map_of_mem member

theorem any_isDigit_toLower (o : Option Char) :
    (o.map Char.toLower).any Char.isDigit = o.any Char.isDigit := by
  cases o with
  | none => rfl
  | some c => exact isDigit_toLower c

/-- The name of a type starts with a digit exactly if the text that it is made from does, whatever
else is before the digit. -/
theorem any_isDigit_typeName (s : String) :
    (typeName s).toList.head?.any Char.isDigit = startsWithDigit s := by
  have first : (bare s.toList).head? = (s.toList.find? Char.isAlphanum).map Char.toLower := by
    rw [bare, List.head?_map, List.head?_filter]
  rw [← any_isDigit_toLower, ← List.head?_map, toLower_typeName, essence, startsWithDigit,
    ← any_isDigit_toLower (s.toList.find? _), ← first]
  split
  · next none =>
    rw [none]
    rfl
  · rfl

/-- What the name of a type is like, by the text that it is made from. -/
structure NamedFor (s name : String) : Prop where
  /-- The name has a character. -/
  nonempty : name ≠ ""
  /-- All are letters and digits. -/
  word : ∀ c ∈ name.toList, c.isAlphanum = true
  /-- A type can have the name unless the text starts with a digit. -/
  isTypeName_iff : IsTypeName name ↔ startsWithDigit s = false

/-- An ending of letters and digits makes no difference to whether a type can have a name. -/
theorem namedFor_typeName_append {ending : String} (s : String)
    (letters : ∀ c ∈ ending.toList, c.isAlphanum = true) : NamedFor s (typeName s ++ ending) := by
  have nonempty : typeName s ++ ending ≠ "" := by
    rw [ne_eq, String.append_eq_empty_iff, not_and_or]
    exact .inl (typeName_ne_empty s)
  have word : ∀ c ∈ (typeName s ++ ending).toList, c.isAlphanum = true := by
    intro c member
    rw [String.toList_append] at member
    exact (List.mem_append.1 member).elim isAlphanum_of_mem_typeName (letters c)
  have front : (typeName s ++ ending).toList.head?.any Char.isDigit = startsWithDigit s := by
    have first : (typeName s).toList ≠ [] := by simpa using typeName_ne_empty s
    rw [String.toList_append, List.head?_append_of_ne_nil _ first, any_isDigit_typeName]
  refine ⟨nonempty, word, fun isTypeName => ?_, fun noDigit => ⟨nonempty, word, ?_⟩⟩
  · rw [← front]
    exact isTypeName.front
  · rw [front, noDigit]

end SchemaBinder.Naming

/-! ## Names of interfaces and models -/

namespace SchemaBinder.NamePolicy

open Naming

/-- The name of an interface without an ending, and the name of a model with an ending of letters,
has letters and digits only, and at least one.  A type can have it exactly if the first letter or
digit of the group key or of the schema name is no digit. -/
theorem type_names_unless_digit_first (policy : NamePolicy) (s : String) :
    (policy.apiSuffix = none → NamedFor s (policy.interfaceName s)) ∧
      ∀ suffix, policy.modelSuffix = some suffix → (∀ c ∈ suffix.toList, c.isAlpha = true) →
        NamedFor s (policy.modelName s) := by
  constructor
  · intro plain
    rw [interfaceName, plain]
    exact namedFor_typeName_append s (List.forall_mem_nil _)
  · intro suffix ending letters
    rw [modelName, ending]
    refine namedFor_typeName_append s fun c member => ?_
    exact Text.alphanumeric_iff.2 (.inl (letters c member))

theorem type_names_unless_digit_first_accounts :
    let policy := ofSuffixes none (some "Dto")
    IsTypeName (policy.interfaceName "/user-accounts 2") ∧
      IsTypeName (policy.modelName "/user-accounts 2") ∧
      IsTypeName (policy.interfaceName "été/-") := by
  intro policy
  have interfaces s := (type_names_unless_digit_first policy s).1 rfl
  have letters : "Dto".toList.all Char.isAlpha = true := rfl
  have models s := (type_names_unless_digit_first policy s).2 "Dto" rfl (List.all_eq_true.1 letters)
  exact ⟨(interfaces _).isTypeName_iff.2 rfl, (models _).isTypeName_iff.2 rfl,
    (interfaces _).isTypeName_iff.2 rfl⟩

/-- A path that starts with a digit gives its interface a name that no type can have. -/
theorem digit_starts_name :
    resourceGroup "/2fa/verify" none = "2fa" ∧ plain.interfaceName "2fa" = "2fa" ∧
      (ofSuffixes none (some "Dto")).modelName "2fa" = "2faDto" ∧
      ¬ IsTypeName "2fa" ∧ ¬ IsTypeName "2faDto" := by
  refine ⟨rfl, by decide, by decide, fun named => ?_, fun named => ?_⟩
  · exact absurd named.front (by decide)
  · exact absurd named.front (by decide)

end SchemaBinder.NamePolicy
