/-!
# Blanks, words and segments

The small operations on text that the rest of the library is written with: trimming, splitting
at a separator, and cutting at the last separator.  Each is defined by structural recursion on
the characters, and wrapped for `String`.

`split_ne_nil`, `intercalate_split` and `splitLast_eq_none_iff` say what splitting does,
and `after?_eq_some_iff` what a beginning is.
-/

namespace SchemaBinder.Text

/-! ## Blanks -/

/-- The characters of the `White_Space` property. -/
def isBlank (c : Char) : Bool :=
  let n := c.toNat
  (9 ≤ n && n ≤ 13) || n == 0x20 || n == 0x85 || n == 0xA0 || n == 0x1680
    || (0x2000 ≤ n && n ≤ 0x200A) || n == 0x2028 || n == 0x2029 || n == 0x202F || n == 0x205F
    || n == 0x3000

/-- Characters without the ones of a class at their end. -/
def dropEnd (p : Char → Bool) (cs : List Char) : List Char :=
  (cs.reverse.dropWhile p).reverse

/-- Characters without blanks at either end. -/
def trimChars (cs : List Char) : List Char :=
  dropEnd isBlank (cs.dropWhile isBlank)

/-- A text without blanks at either end. -/
def trim (s : String) : String :=
  String.ofList (trimChars s.toList)

/-- The trimmed text, unless nothing is left of it. -/
def nonBlank? (s : String) : Option String :=
  let t := trim s
  if t = "" then none else some t

/-! ## Segments -/

/-- The segments between the occurrences of a separator.  There is always one more than there
are separators. -/
def split (sep : Char) : List Char → List (List Char)
  | [] => [[]]
  | c :: cs =>
    if c = sep then [] :: split sep cs
    else
      match split sep cs with
      | [] => [[c]]
      | w :: ws => (c :: w) :: ws

/-- The segments of a text. -/
def segments (sep : Char) (s : String) : List String :=
  (split sep s.toList).map String.ofList

/-- What stands before and after the last occurrence of a separator. -/
def splitLast (sep : Char) : List Char → Option (List Char × List Char)
  | [] => none
  | c :: cs =>
    match splitLast sep cs with
    | some (a, b) => some (c :: a, b)
    | none => if c = sep then some ([], cs) else none

/-- What stands before and after the first occurrence of a separator. -/
def splitFirst (sep : Char) : List Char → Option (List Char × List Char)
  | [] => none
  | c :: cs => if c = sep then some ([], cs) else (splitFirst sep cs).map fun p => (c :: p.1, p.2)

/-- The rest after a given beginning. -/
def after? : List Char → List Char → Option (List Char)
  | [], cs => some cs
  | _ :: _, [] => none
  | p :: ps, c :: cs => if p = c then after? ps cs else none

/-- Does a text start with another? -/
def hasStart (start s : String) : Bool :=
  (after? start.toList s.toList).isSome

/-- The text after a given beginning. -/
def dropStart? (start s : String) : Option String :=
  (after? start.toList s.toList).map String.ofList

/-- The text before a given end. -/
def dropEnd? (ending s : String) : Option String :=
  (after? ending.toList.reverse s.toList.reverse).map fun cs => String.ofList cs.reverse

/-- Equality that does not tell ASCII capitals from small letters. -/
def sameIgnoringCase (s t : String) : Bool :=
  s.toList.map Char.toLower == t.toList.map Char.toLower

/-! ## Laws -/

theorem split_ne_nil (sep : Char) (cs : List Char) : split sep cs ≠ [] := by
  cases cs with
  | nil => simp [split]
  | cons c cs =>
    unfold split
    split
    · simp
    · split <;> simp

/-- Joining the segments with the separator gives the text back. -/
theorem intercalate_split (sep : Char) (cs : List Char) :
    [sep].intercalate (split sep cs) = cs := by
  induction cs with
  | nil => simp [split, List.intercalate]
  | cons c cs ih =>
    unfold split
    have hne := split_ne_nil sep cs
    split
    · subst_vars
      cases h : split c cs with
      | nil => exact absurd h hne
      | cons w ws => rw [h] at ih; simp_all [List.intercalate, List.intersperse]
    · split
      · contradiction
      · rename_i w ws h
        rw [h] at ih
        cases ws <;> simp_all [List.intercalate, List.intersperse]

/-- A text has no last separator when it has none. -/
theorem splitLast_eq_none_iff (sep : Char) (cs : List Char) :
    splitLast sep cs = none ↔ sep ∉ cs := by
  induction cs with
  | nil => simp [splitLast]
  | cons c cs ih =>
    unfold splitLast
    split
    · rename_i a b h
      simp only [reduceCtorEq, false_iff, Decidable.not_not]
      have : ¬ sep ∉ cs := by rw [← ih, h]; simp
      simp_all
    · rename_i h
      rw [ih] at h
      by_cases hc : c = sep
      · simp [hc]
      · simp [hc, h, Ne.symm hc]

theorem after?_eq_some_iff {start cs rest : List Char} :
    after? start cs = some rest ↔ cs = start ++ rest := by
  induction start generalizing cs with
  | nil => simp [after?]
  | cons p ps ih =>
    cases cs with
    | nil => simp [after?]
    | cons c cs =>
      by_cases same : p = c
      · simp [after?, same, ih]
      · simp [after?, same, Ne.symm same]

theorem dropStart?_eq_some_iff {start s rest : String} :
    dropStart? start s = some rest ↔ s = start ++ rest := by
  rw [← String.toList_inj, String.toList_append, ← after?_eq_some_iff, dropStart?,
    Option.map_eq_some_iff]
  constructor
  · rintro ⟨cs, found, rfl⟩
    rwa [String.toList_ofList]
  · intro found
    exact ⟨rest.toList, found, String.ofList_toList⟩

theorem nonBlank?_eq_some_iff {s t : String} : nonBlank? s = some t ↔ trim s = t ∧ t ≠ "" := by
  by_cases blank : trim s = ""
  · simp only [nonBlank?, blank, if_true, reduceCtorEq, false_iff]
    rintro ⟨rfl, nonempty⟩
    exact nonempty rfl
  · simp only [nonBlank?, blank, if_false, Option.some.injEq]
    constructor
    · rintro rfl
      exact ⟨rfl, blank⟩
    · exact And.left

end SchemaBinder.Text
