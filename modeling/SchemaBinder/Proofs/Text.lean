import Mathlib.Data.List.DropRight
import SchemaBinder.Text.Blank
/-!
# Trimmed and split text

Trimming drops the blanks at the front and then those at the end, so a trimmed text has none at
either end, and trimming it again changes nothing.  Blanks that are put around a text are all that
trimming takes away from it (`trimChars_between`, `exists_around_trimChars`).

Splitting a text at a separator splits what stands before and behind the separator, and no segment
holds it.  So texts without the separator are the segments of what joining them gives
(`segments_eq_iff`), and the segments of a text begin with them if it goes on with the separator
after they are joined (`prefix_segments_iff`).
-/

namespace SchemaBinder.Text

variable {cs before after : List Char}

theorem dropEnd_eq_rdropWhile (p : Char → Bool) (cs : List Char) : dropEnd p cs = cs.rdropWhile p :=
  rfl

/-- No character of the class is left at the end. -/
theorem eq_false_of_getLast?_dropEnd {p : Char → Bool} {c : Char} {cs : List Char}
    (last : (dropEnd p cs).getLast? = some c) : p c = false := by
  have nonempty : dropEnd p cs ≠ [] := by
    intro empty
    rw [empty] at last
    cases last
  rw [List.getLast?_eq_some_getLast nonempty] at last
  rw [← Option.some.inj last]
  exact eq_false_of_ne_true (List.rdropWhile_last_not p cs nonempty)

theorem dropEnd_eq_self {p : Char → Bool} {cs : List Char}
    (kept : ∀ c, cs.getLast? = some c → p c = false) : dropEnd p cs = cs := by
  rw [dropEnd_eq_rdropWhile, List.rdropWhile_eq_self_iff]
  intro nonempty
  rw [kept _ (List.getLast?_eq_some_getLast nonempty)]
  exact Bool.false_ne_true

theorem dropWhile_trimChars (cs : List Char) : (trimChars cs).dropWhile isBlank = trimChars cs := by
  refine List.dropWhile_eq_self_iff.2 fun long => ?_
  -- what the end has lost leaves the front as it was
  have kept : trimChars cs <+: cs.dropWhile isBlank := List.rdropWhile_prefix isBlank _
  have front : (cs.dropWhile isBlank).dropWhile isBlank = cs.dropWhile isBlank :=
    List.dropWhile_idempotent isBlank cs
  rw [kept.getElem long]
  exact List.dropWhile_eq_self_iff.1 front (kept.length_le.trans_lt' long)

theorem trimChars_trimChars (cs : List Char) : trimChars (trimChars cs) = trimChars cs := by
  rw [trimChars, dropWhile_trimChars, dropEnd_eq_rdropWhile]
  exact List.rdropWhile_idempotent isBlank _

/-- Trimming only takes characters away. -/
theorem mem_of_mem_trimChars {c : Char} {cs : List Char} (member : c ∈ trimChars cs) : c ∈ cs :=
  (List.dropWhile_suffix isBlank).subset ((List.rdropWhile_prefix isBlank _).subset member)

/-- Blanks around a text make no difference to what it is trimmed to. -/
theorem trimChars_between (front : ∀ c ∈ before, isBlank c = true)
    (back : ∀ c ∈ after, isBlank c = true) (cs : List Char) :
    trimChars (before ++ cs ++ after) = trimChars cs := by
  rw [trimChars, trimChars, List.append_assoc, List.dropWhile_append_of_pos front,
    List.dropWhile_append]
  by_cases blank : cs.dropWhile isBlank = []
  · rw [blank, List.isEmpty_nil, if_pos rfl, List.dropWhile_eq_nil_iff.2 back]
  · rw [if_neg (by simpa using blank), dropEnd, List.reverse_append,
      List.dropWhile_append_of_pos (by simpa using back), dropEnd]

/-- Trimming takes blanks away at both ends. -/
theorem exists_around_trimChars (cs : List Char) : ∃ before after,
    (∀ c ∈ before, isBlank c = true) ∧ (∀ c ∈ after, isBlank c = true) ∧
      cs = before ++ trimChars cs ++ after := by
  refine ⟨cs.takeWhile isBlank, (cs.dropWhile isBlank).rtakeWhile isBlank,
    fun c => List.mem_takeWhile_imp, fun c => List.mem_rtakeWhile_imp, ?_⟩
  rw [trimChars, dropEnd_eq_rdropWhile, List.append_assoc, List.rdropWhile_append_rtakeWhile,
    List.takeWhile_append_dropWhile]

theorem trimChars_eq_nil_iff : trimChars cs = [] ↔ ∀ c ∈ cs, isBlank c = true := by
  constructor
  · intro empty
    obtain ⟨before, after, front, back, same⟩ := exists_around_trimChars cs
    rw [same, empty, List.append_nil]
    exact fun c member => (List.mem_append.1 member).elim (front c) (back c)
  · intro blank
    have whole : trimChars (cs ++ [] ++ []) = [] :=
      trimChars_between blank (List.forall_mem_nil _) []
    simpa using whole

theorem trimChars_eq_self_iff : trimChars cs = cs ↔
    (∀ c, cs.head? = some c → isBlank c = false) ∧ ∀ c, cs.getLast? = some c → isBlank c = false := by
  constructor
  · intro same
    refine ⟨fun c first => ?_, fun c last => ?_⟩
    · have kept := dropWhile_trimChars cs
      rw [same] at kept
      have stops := List.head?_dropWhile_not isBlank cs
      rw [kept, first] at stops
      simpa using stops
    · rw [← same, trimChars] at last
      exact eq_false_of_getLast?_dropEnd last
  · rintro ⟨front, back⟩
    have kept : cs.dropWhile isBlank = cs := by
      cases cs with
      | nil => rfl
      | cons c cs => exact List.dropWhile_cons_of_neg (by simp [front c rfl])
    rw [trimChars, kept, dropEnd_eq_self back]

theorem hasStart_iff {start s : String} : hasStart start s = true ↔ ∃ rest, s = start ++ rest := by
  simp only [hasStart, Option.isSome_iff_exists, after?_eq_some_iff]
  constructor
  · rintro ⟨cs, same⟩
    refine ⟨String.ofList cs, String.toList_inj.1 ?_⟩
    rw [same, String.toList_append, String.toList_ofList]
  · rintro ⟨rest, rfl⟩
    exact ⟨rest.toList, String.toList_append⟩

theorem dropEnd?_eq_some_iff {ending s front : String} :
    dropEnd? ending s = some front ↔ s = front ++ ending := by
  simp only [dropEnd?, Option.map_eq_some_iff, after?_eq_some_iff, ← String.toList_inj,
    String.toList_append, String.toList_ofList]
  constructor
  · rintro ⟨cs, same, kept⟩
    rw [← kept, ← List.reverse_inj, same, List.reverse_append, List.reverse_reverse]
  · intro same
    exact ⟨front.toList.reverse, by rw [same, List.reverse_append], List.reverse_reverse _⟩

/-! ## Segments -/

variable {sep : Char}

theorem split_cons_of_ne {c : Char} (other : c ≠ sep) {cs w : List Char} {ws : List (List Char)}
    (segments : split sep cs = w :: ws) : split sep (c :: cs) = (c :: w) :: ws := by
  rw [split, if_neg other, segments]

theorem split_append (first rest : List Char) :
    split sep (first ++ sep :: rest) = split sep first ++ split sep rest := by
  induction first with
  | nil => simp [split]
  | cons c first ih =>
    by_cases same : c = sep
    · simp [split, same, ih]
    · cases segments : split sep first with
      | nil => exact absurd segments (split_ne_nil sep first)
      | cons w ws =>
        rw [segments] at ih
        rw [List.cons_append, split_cons_of_ne same ih, split_cons_of_ne same segments]
        rfl

theorem split_of_notMem {cs : List Char} (plain : sep ∉ cs) : split sep cs = [cs] := by
  induction cs with
  | nil => rfl
  | cons c cs ih =>
    obtain ⟨other, plain⟩ := not_or.1 (List.mem_cons.not.1 plain)
    exact split_cons_of_ne (Ne.symm other) (ih plain)

theorem notMem_of_mem_split {cs : List Char} : ∀ w ∈ split sep cs, sep ∉ w := by
  induction cs with
  | nil => simp [split]
  | cons c cs ih =>
    by_cases same : c = sep
    · simpa [split, same] using ih
    · cases segments : split sep cs with
      | nil => exact absurd segments (split_ne_nil sep cs)
      | cons w ws =>
        rw [segments] at ih
        rw [split_cons_of_ne same segments]
        simpa [Ne.symm same] using ih

/-- Lists without the separator are what their join is split into. -/
theorem split_intercalate {ws : List (List Char)} (nonempty : ws ≠ [])
    (plain : ∀ w ∈ ws, sep ∉ w) : split sep ([sep].intercalate ws) = ws := by
  induction ws with
  | nil => exact absurd rfl nonempty
  | cons w rest ih =>
    obtain ⟨here, plain⟩ := List.forall_mem_cons.1 plain
    cases rest with
    | nil => rw [List.intercalate_singleton, split_of_notMem here]
    | cons w' rest =>
      rw [List.intercalate_cons_cons, List.append_assoc, List.singleton_append, split_append,
        split_of_notMem here, ih (List.cons_ne_nil w' rest) plain, List.singleton_append]

theorem intercalate_cons (between w : List Char) (ws : List (List Char)) :
    between.intercalate (w :: ws) = w ++ ws.flatMap (between ++ ·) := by
  induction ws generalizing w with
  | nil => simp
  | cons w' ws ih => simp [List.intercalate_cons_cons, ih]

/-- What is filtered from a join is filtered from its parts if nothing between them is kept. -/
theorem filter_intercalate {p : Char → Bool} {between : List Char} (none : between.filter p = [])
    (ws : List (List Char)) : (between.intercalate ws).filter p = ws.flatten.filter p := by
  induction ws with
  | nil => rfl
  | cons w ws ih =>
    cases ws with
    | nil => simp
    | cons w' ws =>
      rw [List.intercalate_cons_cons, List.filter_append, List.filter_append, none, ih,
        List.append_nil]
      exact (List.filter_append ..).symm

/-- Splitting only takes separators away. -/
theorem mem_of_mem_split {c : Char} {w : List Char} (member : w ∈ split sep cs) (inside : c ∈ w) :
    c ∈ cs := by
  rw [← intercalate_split sep cs]
  cases segments : split sep cs with
  | nil => exact absurd segments (split_ne_nil sep cs)
  | cons w' ws =>
    rw [segments] at member
    rw [intercalate_cons, List.mem_append, List.mem_flatMap]
    rcases List.mem_cons.1 member with rfl | later
    · exact .inl inside
    · exact .inr ⟨w, later, List.mem_cons_of_mem sep inside⟩

/-- The first segment is empty if a separator is at the front. -/
theorem head?_split_eq_nil_iff :
    (split sep cs).head? = some [] ↔ cs = [] ∨ cs.head? = some sep := by
  cases cs with
  | nil => simp [split]
  | cons c cs =>
    by_cases same : c = sep
    · simp [split, same]
    · cases segments : split sep cs with
      | nil => exact absurd segments (split_ne_nil sep cs)
      | cons w ws => simp [split_cons_of_ne same segments, same]

/-- A later segment is empty if a separator is at the end, or two are together. -/
theorem nil_mem_tail_split_iff :
    [] ∈ (split sep cs).tail ↔ cs.getLast? = some sep ∨ [sep, sep] <:+: cs := by
  induction cs with
  | nil => simp [split]
  | cons c cs ih =>
    have first : (split sep cs).head? = some [] ↔ _ := head?_split_eq_nil_iff
    cases segments : split sep cs with
    | nil => exact absurd segments (split_ne_nil sep cs)
    | cons w ws =>
      rw [segments, List.head?_cons, Option.some.injEq] at first
      rw [segments, List.tail_cons] at ih
      rw [List.infix_cons_iff, List.cons_prefix_cons]
      by_cases same : c = sep
      · rw [split, if_pos same, List.tail_cons, segments, List.mem_cons, ih, eq_comm, first]
        cases cs with
        | nil => simp [same]
        | cons d cs => simp [same, List.cons_prefix_cons, eq_comm, or_left_comm]
      · rw [split_cons_of_ne same segments, List.tail_cons, ih]
        cases cs with
        | nil => simp [same, Ne.symm same]
        | cons d cs => simp [Ne.symm same]

/-- A segment is empty if the text is, or if a separator is at one of its ends or beside another one. -/
theorem nil_mem_split_iff : [] ∈ split sep cs ↔
    (cs = [] ∨ cs.head? = some sep) ∨ cs.getLast? = some sep ∨ [sep, sep] <:+: cs := by
  rw [← head?_split_eq_nil_iff, ← nil_mem_tail_split_iff]
  cases split sep cs with
  | nil => simp
  | cons w ws => simp [eq_comm]

theorem splitLast_eq {cs front back : List Char} (found : splitLast sep cs = some (front, back)) :
    cs = front ++ sep :: back := by
  induction cs generalizing front with
  | nil => cases found
  | cons c cs ih =>
    rw [splitLast] at found
    split at found
    · next later =>
      cases found
      rw [ih later, List.cons_append]
    · split at found
      · next same =>
        cases found
        rw [same, List.nil_append]
      · cases found

/-- The separator does not come again after its last occurrence. -/
theorem notMem_of_splitLast {cs front back : List Char}
    (found : splitLast sep cs = some (front, back)) : sep ∉ back := by
  induction cs generalizing front with
  | nil => cases found
  | cons c cs ih =>
    rw [splitLast] at found
    split at found
    · next later =>
      cases found
      exact ih later
    · next later =>
      split at found
      · cases found
        exact (splitLast_eq_none_iff sep _).1 later
      · cases found

theorem splitLast_eq_some_iff {cs front back : List Char} :
    splitLast sep cs = some (front, back) ↔ cs = front ++ sep :: back ∧ sep ∉ back := by
  refine ⟨fun found => ⟨splitLast_eq found, notMem_of_splitLast found⟩, ?_⟩
  rintro ⟨rfl, plain⟩
  induction front with
  | nil => rw [List.nil_append, splitLast, (splitLast_eq_none_iff sep back).2 plain, if_pos rfl]
  | cons c front ih => rw [List.cons_append, splitLast, ih]

/-- What stands after the last separator is the last segment. -/
theorem getLast?_split_of_splitLast {cs front back : List Char}
    (found : splitLast sep cs = some (front, back)) : (split sep cs).getLast? = some back := by
  rw [splitLast_eq found, split_append, split_of_notMem (notMem_of_splitLast found),
    List.getLast?_concat]

/-! ## Segments of texts -/

section Segments

variable {s : String} {words : List String}

theorem intercalate_segments (sep : Char) (s : String) :
    (String.singleton sep).intercalate (segments sep s) = s := by
  rw [← String.toList_inj, String.toList_intercalate, String.toList_singleton, segments,
    List.map_map]
  simp [Function.comp_def, intercalate_split]

theorem segments_append (front back : String) :
    segments sep (front ++ String.singleton sep ++ back) = segments sep front ++ segments sep back := by
  rw [segments, String.toList_append, String.toList_append, String.toList_singleton,
    List.append_assoc, List.singleton_append, split_append, List.map_append]
  rfl

/-- Texts without the separator are the segments of their join, and of no other text. -/
theorem segments_eq_iff (nonempty : words ≠ []) (plain : ∀ w ∈ words, sep ∉ w.toList) :
    segments sep s = words ↔ s = (String.singleton sep).intercalate words := by
  constructor
  · rintro rfl
    exact (intercalate_segments sep s).symm
  · rintro rfl
    have chars : split sep ([sep].intercalate (words.map String.toList)) =
        words.map String.toList :=
      split_intercalate (by simpa using nonempty) (by simpa using plain)
    rw [segments, String.toList_intercalate, String.toList_singleton, chars, List.map_map]
    simp [Function.comp_def]

/-- The segments of a text begin with others if it is their join, or goes on after it with the
separator. -/
theorem prefix_segments_iff (nonempty : words ≠ []) (plain : ∀ w ∈ words, sep ∉ w.toList) :
    words <+: segments sep s ↔ s = (String.singleton sep).intercalate words ∨
      ∃ rest, s = (String.singleton sep).intercalate words ++ String.singleton sep ++ rest := by
  constructor
  · rintro ⟨more, same⟩
    have whole := intercalate_segments sep s
    rw [← same] at whole
    by_cases last : more = []
    · rw [last, List.append_nil] at whole
      exact .inl whole.symm
    · rw [String.intercalate_append_of_ne_nil nonempty last] at whole
      exact .inr ⟨_, whole.symm⟩
  · rintro (same | ⟨rest, rfl⟩)
    · exact ⟨[], by rw [List.append_nil, (segments_eq_iff nonempty plain).2 same]⟩
    · rw [segments_append, (segments_eq_iff nonempty plain).2 rfl]
      exact List.prefix_append words _

end Segments

end SchemaBinder.Text
