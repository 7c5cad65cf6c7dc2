import SchemaBinder.Extension
import SchemaBinder.Proofs.Text
/-!
# The two notations of type arguments

Type arguments are given as a list, or as one text with commas.  The text is read by its segments: a
blank one holds no argument, and any other one holds what is left when it is trimmed.

`Written` says this without the reader: the text is put together of segments, and each of them is
blank or an argument between blanks.  Every text is written with exactly one sequence of arguments,
and this is what is read (`written_iff`).

All of them can stand between commas (`IsArgument`).  The items of a list need not, and they are read
back from their join exactly if they can (`commaArguments_intercalate_iff`).
-/

namespace SchemaBinder.Extensions

open Text (isBlank trimChars)

variable {s : String} {cs before after : List Char} {segments : List (List Char)}
  {arguments xs : List String} {key : String}

/-- A text can stand for an argument between commas. -/
structure IsArgument (a : String) : Prop where
  /-- There is a character. -/
  nonempty : a ≠ ""
  /-- The first one is no blank. -/
  front : ∀ c, a.toList.head? = some c → isBlank c = false
  /-- The last one is no blank. -/
  back : ∀ c, a.toList.getLast? = some c → isBlank c = false
  /-- None is a comma. -/
  noComma : ',' ∉ a.toList

theorem IsArgument.trimChars_eq {a : String} (isArgument : IsArgument a) :
    trimChars a.toList = a.toList :=
  Text.trimChars_eq_self_iff.2 ⟨isArgument.front, isArgument.back⟩

/-- What is left of a segment is an argument, unless the segment is blank. -/
theorem isArgument_trimChars (noComma : ',' ∉ cs) (nonempty : trimChars cs ≠ []) :
    IsArgument (String.ofList (trimChars cs)) := by
  have ends := Text.trimChars_eq_self_iff.1 (Text.trimChars_trimChars cs)
  refine ⟨by simpa using nonempty, ?_, ?_, ?_⟩
  · simpa using ends.1
  · simpa using ends.2
  · rw [String.toList_ofList]
    exact noComma ∘ Text.mem_of_mem_trimChars

/-! ## Segments -/

/-- The arguments in segments: a segment is blank, or it is one argument between blanks. -/
inductive Laid : List (List Char) → List String → Prop where
  | nil : Laid [] []
  | blank {segment : List Char} {segments : List (List Char)} {arguments : List String} :
      (∀ c ∈ segment, isBlank c = true) → Laid segments arguments →
      Laid (segment :: segments) arguments
  | argument {before after : List Char} {a : String} {segments : List (List Char)}
      {arguments : List String} : (∀ c ∈ before, isBlank c = true) →
      (∀ c ∈ after, isBlank c = true) → IsArgument a → Laid segments arguments →
      Laid ((before ++ a.toList ++ after) :: segments) (a :: arguments)

/-- What is read from segments. -/
def trimmed (segments : List (List Char)) : List String :=
  ((segments.map trimChars).filter (!·.isEmpty)).map String.ofList

theorem trimmed_cons_of_blank (blank : ∀ c ∈ cs, isBlank c = true)
    (segments : List (List Char)) : trimmed (cs :: segments) = trimmed segments := by
  rw [trimmed, List.map_cons, Text.trimChars_eq_nil_iff.2 blank]
  rfl

theorem trimmed_cons_of_ne (nonempty : trimChars cs ≠ []) (segments : List (List Char)) :
    trimmed (cs :: segments) = String.ofList (trimChars cs) :: trimmed segments := by
  rw [trimmed, List.map_cons, List.filter_cons_of_pos (by simpa using nonempty)]
  rfl

/-- What is read from segments is laid in them. -/
theorem laid_trimmed (noComma : ∀ segment ∈ segments, ',' ∉ segment) :
    Laid segments (trimmed segments) := by
  induction segments with
  | nil => exact .nil
  | cons segment segments ih =>
    obtain ⟨here, noComma⟩ := List.forall_mem_cons.1 noComma
    by_cases empty : trimChars segment = []
    · have blank := Text.trimChars_eq_nil_iff.1 empty
      rw [trimmed_cons_of_blank blank]
      exact .blank blank (ih noComma)
    · obtain ⟨before, after, front, back, whole⟩ := Text.exists_around_trimChars segment
      have laid := Laid.argument front back (isArgument_trimChars here empty) (ih noComma)
      rwa [String.toList_ofList, ← whole, ← trimmed_cons_of_ne empty] at laid

/-- What is laid in segments is read from them. -/
theorem Laid.trimmed_eq (laid : Laid segments arguments) : trimmed segments = arguments := by
  induction laid with
  | nil => rfl
  | blank blank _ ih => rw [trimmed_cons_of_blank blank, ih]
  | @argument before after a segments arguments front back isArgument _ ih =>
    have left : trimChars (before ++ a.toList ++ after) = a.toList := by
      rw [Text.trimChars_between front back, isArgument.trimChars_eq]
    rw [trimmed_cons_of_ne, left, ih, String.ofList_toList]
    rw [left]
    simpa using isArgument.nonempty

theorem notMem_of_blank (blank : ∀ c ∈ cs, isBlank c = true) : ',' ∉ cs :=
  fun member => absurd (blank ',' member) (by decide)

theorem Laid.noComma (laid : Laid segments arguments) : ∀ segment ∈ segments, ',' ∉ segment := by
  induction laid with
  | nil => exact List.forall_mem_nil _
  | blank blank _ ih => exact List.forall_mem_cons.2 ⟨notMem_of_blank blank, ih⟩
  | argument front back isArgument _ ih =>
    refine List.forall_mem_cons.2 ⟨?_, ih⟩
    simp [notMem_of_blank front, notMem_of_blank back, isArgument.noComma]

theorem Laid.isArgument (laid : Laid segments arguments) : ∀ a ∈ arguments, IsArgument a := by
  induction laid with
  | nil => exact List.forall_mem_nil _
  | blank _ _ ih => exact ih
  | argument _ _ isArgument _ ih => exact List.forall_mem_cons.2 ⟨isArgument, ih⟩

/-! ## Texts with commas -/

/-- Arguments are written in a text with commas: it is put together of segments, and all arguments
are in them, in their order, with nothing else than blanks. -/
def Written (s : String) (arguments : List String) : Prop :=
  ∃ segments, segments ≠ [] ∧ s.toList = [','].intercalate segments ∧ Laid segments arguments

theorem commaArguments_eq (s : String) : commaArguments s = trimmed (Text.split ',' s.toList) := rfl

/-- The arguments that are written in a text are the ones that are read from it. -/
theorem written_iff : Written s arguments ↔ arguments = commaArguments s := by
  constructor
  · rintro ⟨segments, nonempty, whole, laid⟩
    rw [commaArguments_eq, whole, Text.split_intercalate nonempty laid.noComma, laid.trimmed_eq]
  · rintro rfl
    exact ⟨Text.split ',' s.toList, Text.split_ne_nil ',' s.toList,
      (Text.intercalate_split ',' s.toList).symm, laid_trimmed Text.notMem_of_mem_split⟩

theorem isArgument_of_mem (s : String) : ∀ a ∈ commaArguments s, IsArgument a := by
  obtain ⟨segments, _, _, laid⟩ := written_iff.2 (rfl : commaArguments s = _)
  exact laid.isArgument

/-! ## Joined texts -/

/-- A join with a comma and a blank is one with commas, where a blank is before all but the first. -/
theorem intercalate_blank (w : List Char) (ws : List (List Char)) :
    [',', ' '].intercalate (w :: ws) = [','].intercalate (w :: ws.map (' ' :: ·)) := by
  rw [Text.intercalate_cons, Text.intercalate_cons, List.flatMap_map]
  rfl

theorem laid_blank_before (each : ∀ x ∈ xs, IsArgument x) :
    Laid ((xs.map String.toList).map (' ' :: ·)) xs := by
  induction xs with
  | nil => exact .nil
  | cons x xs ih =>
    obtain ⟨here, each⟩ := List.forall_mem_cons.1 each
    have blank : ∀ c ∈ [' '], isBlank c = true := List.forall_mem_singleton.2 rfl
    simpa using Laid.argument blank (List.forall_mem_nil _) here (ih each)

theorem written_intercalate (each : ∀ x ∈ xs, IsArgument x) : Written (", ".intercalate xs) xs := by
  cases xs with
  | nil => exact ⟨[[]], List.cons_ne_nil _ _, rfl, .blank (List.forall_mem_nil _) .nil⟩
  | cons x xs =>
    obtain ⟨here, each⟩ := List.forall_mem_cons.1 each
    refine ⟨x.toList :: (xs.map String.toList).map (' ' :: ·), List.cons_ne_nil _ _, ?_, ?_⟩
    · rw [String.toList_intercalate, List.map_cons]
      exact intercalate_blank _ _
    · have none : ∀ c ∈ [], isBlank c = true := List.forall_mem_nil _
      simpa using Laid.argument none none here (laid_blank_before each)

/-- The items of a list are read back from their join exactly if they can stand between commas. -/
theorem commaArguments_intercalate_iff (xs : List String) :
    commaArguments (", ".intercalate xs) = xs ↔ ∀ x ∈ xs, IsArgument x := by
  refine ⟨fun same => ?_, fun each => (written_iff.1 (written_intercalate each)).symm⟩
  have each := isArgument_of_mem (", ".intercalate xs)
  rwa [same] at each

/-! ## Type arguments -/

variable {listed joined written : Extensions}

theorem texts_map_str (key entity : String) (xs : List String) :
    texts key entity (xs.map .str) = .ok xs := by
  induction xs with
  | nil => rfl
  | cons x xs ih =>
    rw [List.map_cons, texts, ih]
    rfl

theorem typeArguments_of_list (isList : listed.get? key = some (.arr (xs.map .str)))
    (entity : String) : typeArguments listed key entity = .ok (some xs) := by
  simp only [typeArguments, isList, textList, texts_map_str]
  rfl

theorem typeArguments_of_text (isText : written.get? key = some (.str s)) (entity : String) :
    typeArguments written key entity = .ok (some (commaArguments s)) := by
  simp only [typeArguments, isText]

/-- A list of texts and their join with commas and blanks give the same type arguments exactly if each
text is not empty, has no blank at either end and no comma in it.  Any text gives the arguments that
are written in it.  These are such texts, they are in order, and beside them there are blanks and
commas only. -/
theorem argument_notations_agree_iff (key entity : String) :
    (∀ (xs : List String) (listed joined : Extensions),
      listed.get? key = some (.arr (xs.map .str)) →
      joined.get? key = some (.str (", ".intercalate xs)) →
      typeArguments listed key entity = .ok (some xs) ∧
        (typeArguments listed key entity = typeArguments joined key entity ↔
          ∀ x ∈ xs, IsArgument x)) ∧
    ∀ (s : String) (written : Extensions), written.get? key = some (.str s) →
      ∃ arguments, typeArguments written key entity = .ok (some arguments) ∧
        (∀ a ∈ arguments, IsArgument a) ∧ ∀ others, Written s others ↔ others = arguments := by
  constructor
  · intro xs listed joined isList isText
    refine ⟨typeArguments_of_list isList entity, ?_⟩
    rw [typeArguments_of_list isList, typeArguments_of_text isText,
      ← commaArguments_intercalate_iff, Except.ok.injEq, Option.some.injEq, eq_comm]
  · intro s written isText
    exact ⟨commaArguments s, typeArguments_of_text isText entity, isArgument_of_mem s,
      fun _ => written_iff⟩

/-- An argument that has a comma is two between commas, and a text may have blanks and commas that are
of no account. -/
theorem argument_notations_agree_iff_money :
    let under (v : Json) : Extensions := .ofList [(argumentsKey, v)]
    typeArguments (under (.arr [.str "Money", .str "?"])) argumentsKey "price" =
        typeArguments (under (.str "Money, ?")) argumentsKey "price" ∧
      typeArguments (under (.arr [.str "Money, ?"])) argumentsKey "price" ≠
        typeArguments (under (.str "Money, ?")) argumentsKey "price" ∧
      ∀ others, Written " Money ,, ?," others ↔ others = ["Money", "?"] := by
  intro under
  obtain ⟨agree, read⟩ := argument_notations_agree_iff argumentsKey "price"
  refine ⟨?_, ?_, ?_⟩
  · exact (agree ["Money", "?"] _ _ rfl rfl).2.2 ((commaArguments_intercalate_iff _).1 (by decide))
  · intro same
    have each := (agree ["Money, ?"] _ _ rfl rfl).2.1 same
    exact (each _ List.mem_cons_self).noComma (by decide)
  · obtain ⟨arguments, given, _, decided⟩ := read " Money ,, ?," (under (.str " Money ,, ?,")) rfl
    cases given
    exact decided

end SchemaBinder.Extensions
