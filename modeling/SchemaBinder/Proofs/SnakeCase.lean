import SchemaBinder.Proofs.Naming
import SchemaBinder.Proofs.Text
/-!
# Snake case

The snake case of a text are its words, joined with underscores.  The words are not empty and have
small letters and digits only, so there is no underscore at either end, and never two together
(`isSnakeCase_snake`).  A text like that is cut into words at its underscores only, so it is its own
snake case (`snake_of_isSnakeCase`).

Where the underscores are depends on two neighbours at a time.  When a letter or digit has been read,
what comes of the rest depends on whether it is a small letter, and on nothing before it
(`exists_snakeFrom_append`).  So a text can be cut behind any letter or digit, and its snake case is
that of both parts with a gap between them (`snake_append`).
-/

namespace SchemaBinder.Naming

variable {c : Char} {cs w word : List Char} {ws : List (List Char)}

/-! ## Words -/

/-- A word that ends with a small letter has this letter, so no word is empty. -/
theorem ne_nil_of_mem_wordsFrom {word : List Char} {afterSmall : Bool}
    (small : afterSmall = true → word ≠ []) : ∀ w ∈ wordsFrom word afterSmall cs, w ≠ [] := by
  have never (word : List Char) : false = true → word ≠ [] := fun same =>
    absurd same Bool.false_ne_true
  induction cs generalizing word afterSmall with
  | nil =>
    rw [wordsFrom]
    split
    · exact List.forall_mem_nil _
    · next nonempty => simpa using nonempty
  | cons c cs ih =>
    rw [wordsFrom]
    split
    · split
      · next isSmall => exact List.forall_mem_cons.2 ⟨small isSmall, ih (never _)⟩
      · exact ih (never _)
    · split
      · exact ih fun _ => by simp
      · split
        · exact ih (never _)
        · next nonempty => exact List.forall_mem_cons.2 ⟨by simpa using nonempty, ih (never _)⟩

/-- A small letter or a digit. -/
def IsPlain (c : Char) : Prop := c.isLower = true ∨ c.isDigit = true

instance (c : Char) : Decidable (IsPlain c) := inferInstanceAs (Decidable (_ ∨ _))

theorem IsPlain.isAlphanum (plain : IsPlain c) : c.isAlphanum = true := by
  rcases plain with lower | digit
  · exact Text.alphanumeric_iff.2 (.inl (Text.letter_iff.2 (.inr lower)))
  · exact Text.alphanumeric_iff.2 (.inr digit)

theorem IsPlain.not_isUpper (plain : IsPlain c) : ¬ c.isUpper = true :=
  of_ascii (fun c => IsPlain c → ¬ c.isUpper = true) (by decide)
    (lt_of_isAlphanum plain.isAlphanum) plain

theorem isPlain_toLower (isWord : c.isAlphanum = true) : IsPlain c.toLower :=
  of_ascii (fun c => c.isAlphanum = true → IsPlain c.toLower) (by decide)
    (lt_of_isAlphanum isWord) isWord

theorem isPlain_of_mem_bare (member : c ∈ bare cs) : IsPlain c := by
  obtain ⟨d, kept, rfl⟩ := List.mem_map.1 member
  exact isPlain_toLower (List.mem_filter.1 kept).2

/-- The words of a text: none is empty, and all are of small letters and digits. -/
structure IsWords (ws : List (List Char)) : Prop where
  nonempty : ∀ w ∈ ws, w ≠ []
  plain : ∀ w ∈ ws, ∀ c ∈ w, IsPlain c

theorem isWords_wordsFrom (ascii : ∀ c ∈ cs, c.toNat < 0x80) : IsWords (wordsFrom [] false cs) where
  nonempty := ne_nil_of_mem_wordsFrom fun same => absurd same Bool.false_ne_true
  plain w member c inside := by
    have kept : c ∈ (wordsFrom [] false cs).flatten := List.mem_flatten.2 ⟨w, member, inside⟩
    rw [flatten_wordsFrom ascii] at kept
    exact isPlain_of_mem_bare kept

theorem IsWords.noUnderscore (isWords : IsWords ws) : ∀ w ∈ ws, '_' ∉ w := by
  intro w member inside
  rcases isWords.plain w member '_' inside with lower | digit
  · cases lower
  · cases digit

/-! ## Words that are joined -/

/-- The snake case of characters. -/
def snake (cs : List Char) : List Char := ['_'].intercalate (wordsFrom [] false cs)

theorem toList_snakeCase (s : String) : (snakeCase s).toList = snake s.toList :=
  String.toList_ofList

/-- A text in snake case: small letters, digits and underscores, with no underscore at either end and
no two together. -/
structure IsSnakeCase (cs : List Char) : Prop where
  chars : ∀ c ∈ cs, IsPlain c ∨ c = '_'
  front : cs.head? ≠ some '_'
  back : cs.getLast? ≠ some '_'
  single : ¬ ['_', '_'] <:+: cs

/-- Words that are joined are in snake case. -/
theorem IsWords.isSnakeCase (isWords : IsWords ws) : IsSnakeCase (['_'].intercalate ws) := by
  cases ws with
  | nil => exact ⟨List.forall_mem_nil _, nofun, nofun, by decide⟩
  | cons w ws =>
    have segments : Text.split '_' (['_'].intercalate (w :: ws)) = w :: ws :=
      Text.split_intercalate (List.cons_ne_nil w ws) isWords.noUnderscore
    have whole : [] ∉ Text.split '_' (['_'].intercalate (w :: ws)) := by
      rw [segments]
      exact fun member => isWords.nonempty _ member rfl
    rw [Text.nil_mem_split_iff, not_or, not_or, not_or] at whole
    refine ⟨fun c member => ?_, whole.1.2, whole.2.1, whole.2.2⟩
    rw [Text.intercalate_cons, List.mem_append, List.mem_flatMap] at member
    rcases member with inside | ⟨w', later, inside⟩
    · exact .inl (isWords.plain w List.mem_cons_self c inside)
    · rcases List.mem_cons.1 inside with rfl | inside
      · exact .inr rfl
      · exact .inl (isWords.plain w' (List.mem_cons_of_mem w later) c inside)

theorem isSnakeCase_snake (ascii : ∀ c ∈ cs, c.toNat < 0x80) : IsSnakeCase (snake cs) :=
  (isWords_wordsFrom ascii).isSnakeCase

/-- Small letters and digits are read into a word, whatever comes behind them. -/
theorem exists_wordsFrom_append (plain : ∀ c ∈ w, IsPlain c) (word : List Char)
    (afterSmall : Bool) : ∃ small, ∀ rest,
      wordsFrom word afterSmall (w ++ rest) = wordsFrom (word ++ w) small rest := by
  induction w generalizing word afterSmall with
  | nil => exact ⟨afterSmall, fun rest => by rw [List.nil_append, List.append_nil]⟩
  | cons c w ih =>
    obtain ⟨here, plain⟩ := List.forall_mem_cons.1 plain
    have ascii := lt_of_isAlphanum here.isAlphanum
    obtain ⟨small, later⟩ := ih plain (word ++ [c]) (Text.isLower c)
    refine ⟨small, fun rest => ?_⟩
    rw [List.cons_append, wordsFrom, Text.isUpper_ascii ascii, if_neg here.not_isUpper,
      Text.isWord_ascii ascii, if_pos here.isAlphanum, later, List.append_assoc]
    rfl

/-- Words are what their join is cut into. -/
theorem IsWords.wordsFrom_intercalate (isWords : IsWords ws) :
    wordsFrom [] false (['_'].intercalate ws) = ws := by
  induction ws with
  | nil => rfl
  | cons w ws ih =>
    obtain ⟨nonempty, later⟩ := List.forall_mem_cons.1 isWords.nonempty
    obtain ⟨plain, plain'⟩ := List.forall_mem_cons.1 isWords.plain
    obtain ⟨small, reads⟩ := exists_wordsFrom_append plain [] false
    cases ws with
    | nil =>
      have alone := reads []
      rw [List.append_nil, List.nil_append, wordsFrom, if_neg (by simpa using nonempty)] at alone
      rw [List.intercalate_singleton, alone]
    | cons w' ws =>
      rw [List.intercalate_cons_cons, List.append_assoc, reads, List.nil_append,
        List.singleton_append, wordsFrom, if_neg (by decide), if_neg (by decide),
        if_neg (by simpa using nonempty), ih ⟨later, plain'⟩]

/-- A text in snake case is its own snake case. -/
theorem snake_of_isSnakeCase (isSnakeCase : IsSnakeCase cs) : snake cs = cs := by
  by_cases empty : cs = []
  · rw [empty]
    rfl
  · have isWords : IsWords (Text.split '_' cs) := by
      refine ⟨fun w member none => ?_, fun w member c inside => ?_⟩
      · rw [none, Text.nil_mem_split_iff] at member
        rcases member with (none | front) | back | double
        · exact empty none
        · exact isSnakeCase.front front
        · exact isSnakeCase.back back
        · exact isSnakeCase.single double
      · refine (isSnakeCase.chars c (Text.mem_of_mem_split member inside)).resolve_right ?_
        rintro rfl
        exact Text.notMem_of_mem_split w member inside
    have words := isWords.wordsFrom_intercalate
    rw [Text.intercalate_split] at words
    rw [snake, words, Text.intercalate_split]

/-! ## What follows a word -/

/-- The snake case of characters that come after a word and what was read last. -/
def snakeFrom (word : List Char) (afterSmall : Bool) (cs : List Char) : List Char :=
  ['_'].intercalate (wordsFrom word afterSmall cs)

theorem snake_eq (cs : List Char) : snake cs = snakeFrom [] false cs := rfl

theorem snakeFrom_nil (c : Char) (afterSmall : Bool) : snakeFrom [c] afterSmall [] = [c] := rfl

/-- What follows a word does not depend on it. -/
theorem exists_snakeFrom (afterSmall : Bool) (cs : List Char) :
    ∃ later, ∀ word ≠ [], snakeFrom word afterSmall cs = word ++ later := by
  induction cs generalizing afterSmall with
  | nil =>
    refine ⟨[], fun word nonempty => ?_⟩
    simp [snakeFrom, wordsFrom, nonempty]
  | cons c cs ih =>
    by_cases capital : Text.isUpper c = true
    · by_cases small : afterSmall = true
      · refine ⟨(wordsFrom (Text.toLower c) false cs).flatMap (['_'] ++ ·), fun word _ => ?_⟩
        rw [snakeFrom, wordsFrom, if_pos capital, if_pos small, Text.intercalate_cons]
      · obtain ⟨later, follows⟩ := ih false
        refine ⟨Text.toLower c ++ later, fun word nonempty => ?_⟩
        rw [snakeFrom, wordsFrom, if_pos capital, if_neg small, ← List.append_assoc]
        exact follows _ (by simp [nonempty])
    · by_cases isWord : Text.isWord c = true
      · obtain ⟨later, follows⟩ := ih (Text.isLower c)
        refine ⟨c :: later, fun word nonempty => ?_⟩
        have joined := follows (word ++ [c]) (by simp)
        rw [snakeFrom, wordsFrom, if_neg capital, if_pos isWord]
        rwa [List.append_assoc] at joined
      · refine ⟨(wordsFrom [] false cs).flatMap (['_'] ++ ·), fun word nonempty => ?_⟩
        rw [snakeFrom, wordsFrom, if_neg capital, if_neg isWord, if_neg (by simpa using nonempty),
          Text.intercalate_cons]

theorem snakeFrom_append (nonempty : w ≠ []) (word : List Char) (afterSmall : Bool)
    (cs : List Char) : snakeFrom (word ++ w) afterSmall cs = word ++ snakeFrom w afterSmall cs := by
  obtain ⟨later, follows⟩ := exists_snakeFrom afterSmall cs
  rw [follows w nonempty, follows (word ++ w) (by simp [nonempty]), List.append_assoc]

theorem snakeFrom_ne_nil (nonempty : word ≠ []) (afterSmall : Bool) (cs : List Char) :
    snakeFrom word afterSmall cs ≠ [] := by
  obtain ⟨later, follows⟩ := exists_snakeFrom afterSmall cs
  rw [follows word nonempty]
  simp [nonempty]

theorem wordsFrom_ne_nil (nonempty : word ≠ []) (afterSmall : Bool) (cs : List Char) :
    wordsFrom word afterSmall cs ≠ [] := by
  intro none
  apply snakeFrom_ne_nil nonempty afterSmall cs
  rw [snakeFrom, none, List.intercalate_nil]

/-- A word that is ended is followed by an underscore if other words follow. -/
theorem intercalate_cons_of_ne_nil (some : ws ≠ []) (word : List Char) :
    ['_'].intercalate (word :: ws) = word ++ ['_'] ++ ['_'].intercalate ws := by
  cases ws with
  | nil => exact absurd rfl some
  | cons w ws => rw [List.intercalate_cons_cons]

/-- A letter or digit is a capital letter, or plain. -/
theorem isUpper_or_isPlain (isWord : c.isAlphanum = true) : c.isUpper = true ∨ IsPlain c := by
  rw [Text.alphanumeric_iff, Text.letter_iff] at isWord
  rcases isWord with (capital | lower) | digit
  · exact .inl capital
  · exact .inr (.inl lower)
  · exact .inr (.inr digit)

/-- A letter or digit is put to what was read before, and only whether it is a small letter counts for
what follows. -/
theorem snakeFrom_cons (isWord : c.isAlphanum = true) (word : List Char) (afterSmall : Bool)
    (cs : List Char) : snakeFrom word afterSmall (c :: cs) =
      word ++ (if afterSmall = true ∧ c.isUpper = true then ['_'] else []) ++
        snakeFrom [c.toLower] c.isLower cs := by
  have ascii := lt_of_isAlphanum isWord
  rcases isUpper_or_isPlain isWord with capital | plain
  · have large : ¬ c.isLower = true := fun small => IsPlain.not_isUpper (.inl small) capital
    rw [snakeFrom, wordsFrom, Text.isUpper_ascii ascii, if_pos capital, Text.toLower_ascii ascii,
      eq_false_of_ne_true large]
    by_cases small : afterSmall = true
    · have more := wordsFrom_ne_nil (List.cons_ne_nil c.toLower []) false cs
      rw [if_pos small, if_pos ⟨small, capital⟩, intercalate_cons_of_ne_nil more]
      rfl
    · rw [if_neg small, if_neg (small ∘ And.left), List.append_nil,
        ← snakeFrom_append (List.cons_ne_nil _ _)]
      rfl
  · have small := plain.not_isUpper
    rw [if_neg (small ∘ And.right), List.append_nil, ← snakeFrom_append (List.cons_ne_nil _ _),
      toLower_of_not_isUpper small, snakeFrom, wordsFrom, Text.isUpper_ascii ascii,
      if_neg small, Text.isWord_ascii ascii, if_pos isWord, Text.isLower_ascii ascii]
    rfl

theorem snake_cons (isWord : c.isAlphanum = true) (cs : List Char) :
    snake (c :: cs) = snakeFrom [c.toLower] c.isLower cs := by
  rw [snake_eq, snakeFrom_cons isWord, if_neg (by simp)]
  rfl

theorem snake_cons_ne_nil (isWord : c.isAlphanum = true) (cs : List Char) :
    snake (c :: cs) ≠ [] := by
  rw [snake_cons isWord]
  exact snakeFrom_ne_nil (List.cons_ne_nil _ _) _ _

/-- A character that is no letter and no digit ends a word. -/
theorem snakeFrom_cons_of_other (ascii : c.toNat < 0x80) (other : c.isAlphanum = false)
    (word : List Char) (afterSmall : Bool) (more : snake cs ≠ []) :
    snakeFrom word afterSmall (c :: cs) =
      word ++ (if word = [] then [] else ['_']) ++ snake cs := by
  have small : ¬ c.isUpper = true := by
    intro capital
    rw [isAlphanum_of_isUpper capital] at other
    cases other
  have others : wordsFrom [] false cs ≠ [] := by
    intro none
    rw [snake, none] at more
    exact more rfl
  rw [snakeFrom, wordsFrom, Text.isUpper_ascii ascii, if_neg small, Text.isWord_ascii ascii, other,
    if_neg Bool.false_ne_true]
  by_cases empty : word = []
  · rw [if_pos (by simpa using empty), if_pos empty, empty]
    rfl
  · rw [if_neg (by simpa using empty), if_neg empty, intercalate_cons_of_ne_nil others]
    rfl

/-- After some characters and a letter or digit, only whether this is a small letter counts for what
follows. -/
theorem exists_snakeFrom_append {a : Char} {front : List Char}
    (ascii : ∀ c ∈ front, c.toNat < 0x80) (isWord : a.isAlphanum = true) (word : List Char)
    (afterSmall : Bool) : ∃ first, ∀ rest, snakeFrom word afterSmall (front ++ a :: rest) =
      first ++ snakeFrom [a.toLower] a.isLower rest := by
  induction front generalizing word afterSmall with
  | nil => exact ⟨_, fun rest => snakeFrom_cons isWord word afterSmall rest⟩
  | cons c front ih =>
    obtain ⟨here, ascii⟩ := List.forall_mem_cons.1 ascii
    by_cases kept : c.isAlphanum = true
    · obtain ⟨first, reads⟩ := ih ascii [c.toLower] c.isLower
      refine ⟨word ++ (if afterSmall = true ∧ c.isUpper = true then ['_'] else []) ++ first,
        fun rest => ?_⟩
      rw [List.cons_append, snakeFrom_cons kept, reads, ← List.append_assoc]
    · obtain ⟨first, reads⟩ := ih ascii [] false
      refine ⟨word ++ (if word = [] then [] else ['_']) ++ first, fun rest => ?_⟩
      have more : snake (front ++ a :: rest) ≠ [] := by
        rw [snake_eq, reads]
        simp [snakeFrom_ne_nil]
      rw [List.cons_append, snakeFrom_cons_of_other here (eq_false_of_ne_true kept) _ _ more,
        snake_eq, reads, ← List.append_assoc]

/-! ## Two neighbours -/

/-- What stands between two letters or digits of a text, by what is between them in the text: an
underscore if there is something else between them, or if a capital letter follows a small one. -/
def gap (a : Char) (between : List Char) (b : Char) : List Char :=
  if between ≠ [] ∨ a.isLower = true ∧ b.isUpper = true then ['_'] else []

section Between

variable {a b : Char} {front between : List Char} (ascii : ∀ c ∈ between, c.toNat < 0x80)
  (others : ∀ c ∈ between, c.isAlphanum = false) (isWord : b.isAlphanum = true)
include ascii others isWord

/-- What is no letter and no digit is left out at the front. -/
theorem snake_append_of_others (back : List Char) :
    snake (between ++ b :: back) = snake (b :: back) := by
  induction between with
  | nil => rfl
  | cons c between ih =>
    obtain ⟨here, ascii⟩ := List.forall_mem_cons.1 ascii
    obtain ⟨other, others⟩ := List.forall_mem_cons.1 others
    have rest := ih ascii others
    have more : snake (between ++ b :: back) ≠ [] := rest ▸ snake_cons_ne_nil isWord back
    rw [List.cons_append, snake_eq, snakeFrom_cons_of_other here other _ _ more, if_pos rfl, rest]
    rfl

/-- Between two letters or digits there is a gap. -/
theorem snakeFrom_between (a : Char) (back : List Char) :
    snakeFrom [a.toLower] a.isLower (between ++ b :: back) =
      a.toLower :: (gap a between b ++ snake (b :: back)) := by
  cases between with
  | nil =>
    rw [List.nil_append, snakeFrom_cons isWord, ← snake_cons isWord, gap]
    simp
  | cons c between =>
    obtain ⟨here, ascii⟩ := List.forall_mem_cons.1 ascii
    obtain ⟨other, others⟩ := List.forall_mem_cons.1 others
    have rest := snake_append_of_others ascii others isWord back
    have more : snake (between ++ b :: back) ≠ [] := rest ▸ snake_cons_ne_nil isWord back
    rw [List.cons_append, snakeFrom_cons_of_other here other _ _ more, rest, gap]
    simp

/-- The snake case of a text is that of two parts, with a gap between them, wherever a letter or digit
ends the first one and the next letter or digit begins the second one. -/
theorem snake_append (asciiFront : ∀ c ∈ front, c.toNat < 0x80) (isWord' : a.isAlphanum = true)
    (back : List Char) : snake (front ++ a :: (between ++ b :: back)) =
      snake (front ++ [a]) ++ gap a between b ++ snake (b :: back) := by
  obtain ⟨first, reads⟩ := exists_snakeFrom_append asciiFront isWord' [] false
  rw [snake_eq, snake_eq (front ++ [a]), reads, reads, snakeFrom_nil,
    snakeFrom_between ascii others isWord]
  simp

end Between

/-! ## Letters and digits -/

theorem bare_append (front back : List Char) : bare (front ++ back) = bare front ++ bare back := by
  simp [bare]

theorem ne_underscore (isWord : c.isAlphanum = true) : c ≠ '_' := by
  rintro rfl
  cases isWord

theorem filter_cons_toLower (isWord : c.isAlphanum = true) (cs : List Char) :
    (c.toLower :: cs).filter (· ≠ '_') = c.toLower :: cs.filter (· ≠ '_') := by
  have kept : c.toLower ≠ '_' := ne_underscore (by rw [isAlphanum_toLower, isWord])
  exact List.filter_cons_of_pos (decide_eq_true kept)

/-- All but the underscores are the letters and digits of the text, as small letters. -/
theorem filter_snake (ascii : ∀ c ∈ cs, c.toNat < 0x80) :
    (snake cs).filter (· ≠ '_') = bare cs := by
  have all : (wordsFrom [] false cs).flatten = bare cs := flatten_wordsFrom ascii [] false
  rw [snake, Text.filter_intercalate (by decide), all, List.filter_eq_self]
  exact fun c member => decide_eq_true (ne_underscore (isAlphanum_of_mem_bare member))

/-- How two letters or digits stand in the snake case that have nothing else of this kind between them
in the text. -/
structure Neighbours (front : List Char) (a : Char) (between : List Char) (b : Char)
    (back out : List Char) : Prop where
  /-- Nothing or one underscore is between them, and around them stands what stands around them in the
  text. -/
  apart : ∃ first later, out = first ++ a.toLower :: (gap a between b ++ b.toLower :: later) ∧
    first.filter (· ≠ '_') = bare front ∧ later.filter (· ≠ '_') = bare back
  /-- What is before the gap is the snake case of what is before it in the text, and so after it. -/
  parts : out = snake (front ++ [a]) ++ gap a between b ++ snake (b :: back)

/-- The letters and digits of a text stand in its snake case as its neighbours in the text decide. -/
theorem neighbours_snake {front between back : List Char} {a b : Char}
    (ascii : ∀ c ∈ front ++ a :: (between ++ b :: back), c.toNat < 0x80)
    (isWord : a.isAlphanum = true) (isWord' : b.isAlphanum = true)
    (others : ∀ c ∈ between, c.isAlphanum = false) :
    Neighbours front a between b back (snake (front ++ a :: (between ++ b :: back))) := by
  simp only [List.forall_mem_append, List.forall_mem_cons] at ascii
  obtain ⟨asciiFront, asciiA, asciiBetween, asciiB, asciiBack⟩ := ascii
  have parts := snake_append asciiBetween others isWord' asciiFront isWord back
  refine ⟨?_, parts⟩
  obtain ⟨first, reads⟩ := exists_snakeFrom_append asciiFront isWord [] false
  obtain ⟨later, follows⟩ := exists_snakeFrom b.isLower back
  have before : snake (front ++ [a]) = first ++ [a.toLower] := by
    rw [snake_eq, reads, snakeFrom_nil]
  have behind : snake (b :: back) = b.toLower :: later := by
    rw [snake_cons isWord', follows _ (List.cons_ne_nil _ _), List.singleton_append]
  have all : (snake (front ++ [a])).filter (· ≠ '_') = bare (front ++ [a]) :=
    filter_snake (List.forall_mem_append.2 ⟨asciiFront, by simpa using asciiA⟩)
  have all' : (snake (b :: back)).filter (· ≠ '_') = bare (b :: back) :=
    filter_snake (List.forall_mem_cons.2 ⟨asciiB, asciiBack⟩)
  refine ⟨first, later, by rw [parts, before, behind]; simp, ?_, ?_⟩
  · rw [before, List.filter_append, filter_cons_toLower isWord, bare_append,
      bare_cons_of_isAlphanum isWord] at all
    exact List.append_cancel_right all
  · rw [behind, filter_cons_toLower isWord', bare_cons_of_isAlphanum isWord'] at all'
    exact (List.cons.inj all').2

/-! ## The snake case of a text -/

/-- The snake case of a text of ASCII has small letters and digits, and underscores that are neither at
an end nor together; so exactly the texts like that are their own snake case.  It keeps the letters
and digits of the text.  Between two of them that have no other one between them there is an
underscore exactly if there is something else between them, or if a capital letter follows a small
one. -/
theorem snake_case_parts_words (s : String) (ascii : ∀ c ∈ s.toList, c.toNat < 0x80) :
    IsSnakeCase (snakeCase s).toList ∧ snakeCase (snakeCase s) = snakeCase s ∧
    (snakeCase s = s ↔ IsSnakeCase s.toList) ∧
    (snakeCase s).toList.filter (· ≠ '_') = bare s.toList ∧
    ∀ front a between b back, s.toList = front ++ a :: (between ++ b :: back) →
      a.isAlphanum = true → b.isAlphanum = true → (∀ c ∈ between, c.isAlphanum = false) →
      Neighbours front a between b back (snakeCase s).toList := by
  have shape : IsSnakeCase (snakeCase s).toList := by
    rw [toList_snakeCase]
    exact isSnakeCase_snake ascii
  have own {t : String} (isSnakeCase : IsSnakeCase t.toList) : snakeCase t = t := by
    rw [← String.toList_inj, toList_snakeCase, snake_of_isSnakeCase isSnakeCase]
  refine ⟨shape, own shape, ⟨fun same => same ▸ shape, own⟩, ?_, ?_⟩
  · rw [toList_snakeCase, filter_snake ascii]
  · intro front a between b back whole isWord isWord' others
    rw [toList_snakeCase, whole]
    exact neighbours_snake (whole ▸ ascii) isWord isWord' others

/-- A capital letter behind a small one, and one behind a digit. -/
theorem snake_case_parts_words_orders :
    snakeCase "--getV2Orders" = "get_v2orders" ∧
      (∀ c ∈ "--getV2Orders".toList, c.toNat < 0x80) ∧
      snakeCase "get_v2orders" = "get_v2orders" ∧
      Neighbours "--ge".toList 't' [] 'V' "2Orders".toList "get_v2orders".toList ∧
      gap 't' [] 'V' = ['_'] ∧
      Neighbours "--getV".toList '2' [] 'O' "rders".toList "get_v2orders".toList ∧
      gap '2' [] 'O' = [] := by
  have ascii : ∀ c ∈ "--getV2Orders".toList, c.toNat < 0x80 := by simp
  obtain ⟨_, again, _, _, neighbours⟩ := snake_case_parts_words "--getV2Orders" ascii
  have words : snakeCase "--getV2Orders" = "get_v2orders" := by decide
  rw [words] at again neighbours
  have first : "--getV2Orders".toList = "--ge".toList ++ 't' :: ([] ++ 'V' :: "2Orders".toList) := rfl
  have later : "--getV2Orders".toList = "--getV".toList ++ '2' :: ([] ++ 'O' :: "rders".toList) := rfl
  exact ⟨words, ascii, again, neighbours _ _ _ _ _ first rfl rfl (List.forall_mem_nil _), rfl,
    neighbours _ _ _ _ _ later rfl rfl (List.forall_mem_nil _), rfl⟩

end SchemaBinder.Naming
