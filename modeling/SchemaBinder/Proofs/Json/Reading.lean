import Mathlib.Data.List.TakeWhile
import SchemaBinder.Json.Reader
import SchemaBinder.Proofs.Json.Numbers
import SchemaBinder.Proofs.Json.WellFormed
/-!
# Reading what is written

The text of a value is read back, with all fields in their order, if the value is nested no deeper than
the reader allows.  Numbers of double precision can change in their last place.  So what is read is the
value that is `Json.rounded` (`read?_render_rounded`), and that is the value itself if all its numbers are
integers (`read?_render`).

The proof goes by tokens.  `Json.tokens` lists the tokens of a value.  Scanning the text of a value
gives its tokens (`scanned`), where the text must be followed by something that cannot belong to
its last token.  Reading the tokens gives the value (`reread`); there the keys of an
object must be distinct, since a repeated key would take the place of the first.
-/

namespace SchemaBinder.Json

/-! ## Texts -/

namespace Token

theorem hexValue?_hexDigit : ∀ n < 16, hexValue? (hexDigit n) = some n := by decide

/-- A control character is the one whose code is written. -/
theorem hex4?_hexDigit {n : Nat} (small : n < 32) :
    hex4? '0' '0' (hexDigit (n / 16)) (hexDigit (n % 16)) = some n := by
  have high := hexValue?_hexDigit (n / 16) (by omega)
  have low := hexValue?_hexDigit (n % 16) (by omega)
  have zero : hexValue? '0' = some 0 := by decide
  simp only [hex4?, zero, high, low, Option.bind_eq_bind, Option.bind_some, Option.pure_def,
    Option.some.injEq]
  omega

/-- A character is written by its letter, by its code, or as it is. -/
theorem escaped_cases (c : Char) :
    (∃ letter, escaped c = ['\\', letter] ∧ letter ≠ 'u' ∧ escape? letter = some c) ∨
      (c.toNat < 32 ∧ escaped c =
        ['\\', 'u', '0', '0', hexDigit (c.toNat / 16), hexDigit (c.toNat % 16)]) ∨
      (escaped c = [c] ∧ c ≠ '"' ∧ c ≠ '\\' ∧ ¬c.toNat < 32) := by
  by_cases named : c ∈ ['"', '\\', '\x08', '\x0c', '\n', '\r', '\t']
  · left
    simp only [List.mem_cons, List.not_mem_nil, or_false] at named
    rcases named with rfl | rfl | rfl | rfl | rfl | rfl | rfl <;>
      exact ⟨_, rfl, by decide, rfl⟩
  · right
    simp only [List.mem_cons, List.not_mem_nil, or_false, not_or] at named
    obtain ⟨quote, backslash, bell, feed, line, carriage, tab⟩ := named
    simp only [escaped, quote, backslash, bell, feed, line, carriage, tab, if_false]
    by_cases control : c.toNat < 32
    · exact .inl ⟨control, if_pos control⟩
    · exact .inr ⟨if_neg control, quote, backslash, control⟩

/-- A written character is read back. -/
theorem scanText?_escaped (c : Char) (rest : List Char) :
    scanText? (escaped c ++ rest) = (scanText? rest).map fun p => (c :: p.1, p.2) := by
  rcases escaped_cases c with ⟨letter, written, other, named⟩ | ⟨control, written⟩ |
    ⟨written, quote, backslash, printed⟩
  · rw [written, List.cons_append, List.cons_append, List.nil_append, scanText?]
    · rw [named]
    · simp [other]
  · have noPair : ¬(0xD800 ≤ c.toNat ∧ c.toNat < 0xDC00) := by omega
    have noHalf : ¬(0xDC00 ≤ c.toNat ∧ c.toNat < 0xE000) := by omega
    rw [written]
    simp only [List.cons_append, List.nil_append, scanText?, hex4?_hexDigit control, noPair,
      noHalf, if_false, Char.ofNat_toNat]
  · rw [written, List.cons_append, List.nil_append, scanText?, if_neg printed]
    all_goals simp [quote, backslash]

theorem scanText?_flatMap_escaped (s rest : List Char) :
    scanText? (s.flatMap escaped ++ '"' :: rest) = some (s, rest) := by
  induction s with
  | nil => rw [List.flatMap_nil, List.nil_append, scanText?]
  | cons c s ih => rw [List.flatMap_cons, List.append_assoc, scanText?_escaped, ih]; rfl

end Token

/-! ## Rounding -/

mutual

/-- A value with every number of double precision as its text is read. -/
def rounded : Json → Json
  | arr items => arr (roundedItems items)
  | obj fields => obj (roundedFields fields)
  | float x => (Number.ofChars? x.render.toList).getD (float x)
  | v => v

/-- The items of a list, rounded. -/
def roundedItems : List Json → List Json
  | [] => []
  | v :: rest => rounded v :: roundedItems rest

/-- The fields of an object with their values rounded. -/
def roundedFields : List (String × Json) → List (String × Json)
  | [] => []
  | (k, v) :: rest => (k, rounded v) :: roundedFields rest

end

theorem Integral.inRange {v : Json} (integral : v.Integral) : v.InRange := by
  intro w part
  have other := integral w part
  cases w with
  | float x => cases other
  | _ => trivial

theorem roundedItems_eq (items : List Json) : roundedItems items = items.map rounded := by
  induction items with
  | nil => rfl
  | cons v rest ih => rw [roundedItems, ih, List.map_cons]

theorem roundedFields_eq (fields : List (String × Json)) :
    roundedFields fields = fields.map fun field => (field.1, field.2.rounded) := by
  induction fields with
  | nil => rfl
  | cons field rest ih => rw [roundedFields, ih, List.map_cons]

theorem rounded_float {x : Double} (inRange : x.InRange) : ∃ y, (float x).rounded = float y := by
  obtain ⟨y, read⟩ := inRange.exists_ofChars?_render
  exact ⟨y, by rw [rounded, read, Option.getD_some]⟩

theorem rounded_of_integral {v : Json} (integral : v.Integral) : v.rounded = v := by
  induction v using induct with
  | float x => exact absurd (integral _ (self_mem_parts _)) (by simp [isFloat])
  | arr items ih =>
    have each : ∀ v ∈ items, v.rounded = v := fun v member =>
      ih v member (integral.of_mem (mem_parts_of_item member))
    rw [rounded, roundedItems_eq, List.map_congr_left each, List.map_id']
  | obj fields ih =>
    have each : ∀ field ∈ fields, (field.1, field.2.rounded) = field := fun field member => by
      rw [ih field member (integral.of_mem (mem_parts_of_field member))]
    rw [rounded, roundedFields_eq, List.map_congr_left each, List.map_id']
  | _ => rfl

theorem wellFormed_rounded {v : Json} (wellFormed : v.WellFormed) (inRange : v.InRange) :
    v.rounded.WellFormed := by
  induction v using induct with
  | float x =>
    obtain ⟨y, same⟩ := rounded_float (inRange _ (self_mem_parts _))
    rw [same]
    exact List.forall_mem_singleton.2 trivial
  | arr items ih =>
    rw [rounded, roundedItems_eq, wellFormed_arr_iff, List.forall_mem_map]
    exact fun v member => ih v member (wellFormed.of_mem (mem_parts_of_item member))
      (inRange.of_mem (mem_parts_of_item member))
  | obj fields ih =>
    rw [rounded, roundedFields_eq, wellFormed_obj_iff, List.map_map, List.forall_mem_map]
    exact ⟨(wellFormed_obj_iff.1 wellFormed).1, fun field member =>
      ih field member (wellFormed.of_mem (mem_parts_of_field member))
        (inRange.of_mem (mem_parts_of_field member))⟩
  | _ => exact wellFormed

theorem depthItems_rounded {items : List Json} (each : ∀ v ∈ items, v.rounded.depth = v.depth) :
    depthItems (roundedItems items) = depthItems items := by
  induction items with
  | nil => rfl
  | cons v rest ih =>
    obtain ⟨here, later⟩ := List.forall_mem_cons.1 each
    rw [roundedItems, depthItems, depthItems, here, ih later]

theorem depthFields_rounded {fields : List (String × Json)}
    (each : ∀ field ∈ fields, field.2.rounded.depth = field.2.depth) :
    depthFields (roundedFields fields) = depthFields fields := by
  induction fields with
  | nil => rfl
  | cons field rest ih =>
    obtain ⟨here, later⟩ := List.forall_mem_cons.1 each
    rw [roundedFields, depthFields, depthFields, here, ih later]

theorem depth_rounded {v : Json} (inRange : v.InRange) : v.rounded.depth = v.depth := by
  induction v using induct with
  | float x =>
    obtain ⟨y, same⟩ := rounded_float (inRange _ (self_mem_parts _))
    rw [same]
    rfl
  | arr items ih =>
    have each : ∀ v ∈ items, v.rounded.depth = v.depth := fun v member =>
      ih v member (inRange.of_mem (mem_parts_of_item member))
    rw [rounded, depth, depth, depthItems_rounded each]
  | obj fields ih =>
    have each : ∀ field ∈ fields, field.2.rounded.depth = field.2.depth := fun field member =>
      ih field member (inRange.of_mem (mem_parts_of_field member))
    rw [rounded, depth, depth, depthFields_rounded each]
  | _ => rfl

/-! ## Tokens -/

mutual

/-- The tokens of a value. -/
def tokens : Json → List Token
  | arr items => .openList :: tokensItems items
  | obj fields => .openObject :: tokensFields fields
  | v => [.scalar v]

/-- The tokens of the items of a list and of its end. -/
def tokensItems : List Json → List Token
  | [] => [.closeList]
  | [v] => tokens v ++ [.closeList]
  | v :: rest => tokens v ++ .comma :: tokensItems rest

/-- The tokens of the fields of an object and of its end. -/
def tokensFields : List (String × Json) → List Token
  | [] => [.closeObject]
  | [(k, v)] => .scalar (.str k) :: .colon :: tokens v ++ [.closeObject]
  | (k, v) :: rest => .scalar (.str k) :: .colon :: tokens v ++ .comma :: tokensFields rest

end

namespace Token

/-- Characters that can follow a value: they start with a mark that is part of no number and no
word. -/
def Apart (rest : List Char) : Prop :=
  ∀ c ∈ rest.head?, c = ',' ∨ c = ']' ∨ c = '}'

variable {rest : List Char} {v : Json}

/-- A token ends where the text goes on with something apart. -/
theorem Apart.takeWhile_append {p : Char → Bool} (apart : Apart rest)
    (marks : p ',' = false ∧ p ']' = false ∧ p '}' = false) {w : List Char}
    (all : ∀ c ∈ w, p c = true) :
    (w ++ rest).takeWhile p = w ∧ (w ++ rest).dropWhile p = rest := by
  refine Number.split_append all fun c first => ?_
  rcases apart c first with rfl | rfl | rfl
  · exact marks.1
  · exact marks.2.1
  · exact marks.2.2

theorem scan?_mark {c : Char} {t : Token} (mark : ofMark? c = some t) :
    scan? (c :: rest) = (scan? rest).map (t :: ·) := by
  have other : isSpace c = false ∧ c ≠ '"' := by
    unfold ofMark? at mark
    split at mark
    case h_7 => cases mark
    all_goals exact ⟨by decide, by decide⟩
  rw [scan?]
  simp [other, mark]

theorem scan?_quoted (s : String) (rest : List Char) :
    scan? (quoted s ++ rest) = (scan? rest).map (scalar (.str s) :: ·) := by
  have text := scanText?_flatMap_escaped s.toList rest
  have space : isSpace '"' = false := by decide
  rw [quoted, List.cons_append, List.append_assoc, List.singleton_append, scan?]
  simp only [space, Bool.false_eq_true, if_false, if_true]
  split
  · next none => cases none.symm.trans text
  · next found =>
    cases found.symm.trans text
    rw [String.ofList_toList]

theorem scan?_word {c : Char} {w : List Char} (apart : Apart rest)
    (first : isSpace c = false ∧ c ≠ '"' ∧ ofMark? c = none)
    (all : ∀ d ∈ c :: w, d.isAlpha = true) (named : ofWord? (c :: w) = some v) :
    scan? (c :: w ++ rest) = (scan? rest).map (scalar v :: ·) := by
  obtain ⟨space, quote, mark⟩ := first
  obtain ⟨alpha, all⟩ := List.forall_mem_cons.1 all
  obtain ⟨word, after⟩ := apart.takeWhile_append (by decide) all
  rw [List.cons_append, scan?]
  simp [space, quote, mark, alpha, word, after, named]

theorem scan?_number {c : Char} {w : List Char} (apart : Apart rest)
    (first : isSpace c = false ∧ c ≠ '"' ∧ ofMark? c = none ∧ c.isAlpha = false)
    (all : ∀ d ∈ w, Number.isPart d = true) (number : Number.ofChars? (c :: w) = some v) :
    scan? (c :: w ++ rest) = (scan? rest).map (scalar v :: ·) := by
  obtain ⟨space, quote, mark, alpha⟩ := first
  obtain ⟨text, after⟩ := apart.takeWhile_append (by decide) all
  rw [List.cons_append, scan?]
  simp [space, quote, mark, alpha, text, after, number]

theorem first_of_isDigit {c : Char} (digit : c.isDigit = true) :
    isSpace c = false ∧ c ≠ '"' ∧ ofMark? c = none ∧ c.isAlpha = false := by
  have codes : ∀ n < 58, 48 ≤ n → isSpace (Char.ofNat n) = false ∧ Char.ofNat n ≠ '"' ∧
      (ofMark? (Char.ofNat n)).isNone ∧ (Char.ofNat n).isAlpha = false := by decide
  simp only [Char.isDigit, ge_iff_le, Bool.and_eq_true, decide_eq_true_eq, UInt32.le_iff_toNat_le]
    at digit
  have known := codes c.toNat (Nat.lt_succ_of_le digit.2) digit.1
  simpa only [Char.ofNat_toNat, Option.isNone_iff_eq_none] using known

theorem scan?_intText {n : Int}
    (fits : Decimal.fitsSigned 63 n = true ∨ Decimal.fitsUnsigned 64 n = true)
    (apart : Apart rest) :
    scan? (intText n ++ rest) = (scan? rest).map (scalar (.int n) :: ·) := by
  have number := Number.ofChars?_intText fits
  have digits : ∀ c ∈ Nat.toDigits 10 n.natAbs, Number.isPart c = true := by
    intro c member
    simp [Number.isPart, Number.isDigit_toDigits n.natAbs c member]
  by_cases negative : n < 0
  · rw [intText, if_pos negative] at number ⊢
    exact scan?_number apart (by decide) digits number
  · rw [intText, if_neg negative] at number ⊢
    cases written : Nat.toDigits 10 n.natAbs with
    | nil => exact absurd written Nat.toDigits_ne_nil
    | cons c w =>
      have digit : c.isDigit = true :=
        Number.isDigit_toDigits n.natAbs c (by rw [written]; exact List.mem_cons_self)
      rw [written] at number digits
      exact scan?_number apart (first_of_isDigit digit)
        (List.forall_mem_cons.1 digits).2 number

theorem scan?_render {x : Double} (inRange : x.InRange) (apart : Apart rest) :
    scan? (x.render.toList ++ rest) = (scan? rest).map (scalar (float x).rounded :: ·) := by
  obtain ⟨y, number⟩ := inRange.exists_ofChars?_render
  obtain ⟨⟨c, first, digit⟩, all⟩ := x.magnitude_chars
  rw [rounded, number, Option.getD_some]
  rw [Double.render_toList] at number ⊢
  split at number
  · next sign =>
    rw [if_pos sign]
    exact scan?_number apart (by decide) all number
  · next sign =>
    rw [if_neg sign, List.nil_append]
    obtain ⟨w, written⟩ : ∃ w, x.magnitude = c :: w := List.head?_eq_some_iff.1 first
    rw [List.nil_append, written] at number
    rw [written] at all ⊢
    exact scan?_number apart (first_of_isDigit digit) (List.forall_mem_cons.1 all).2 number

end Token

open Token

variable {v : Json}

/-- Scanning the text of a value gives its tokens, whatever comes after it. -/
def Scanned (v : Json) : Prop :=
  ∀ rest, Apart rest → scan? (chars v ++ rest) = (scan? rest).map (tokens v.rounded ++ ·)

theorem scanned_null : Scanned null :=
  fun _ apart => scan?_word apart (by decide) (List.all_eq_true.1 rfl) rfl

theorem scanned_bool (b : Bool) : Scanned (bool b) := by
  intro rest apart
  cases b with
  | true => exact scan?_word apart (by decide) (List.all_eq_true.1 rfl) rfl
  | false => exact scan?_word apart (by decide) (List.all_eq_true.1 rfl) rfl

theorem scan?_charsItems {items : List Json} (each : ∀ v ∈ items, Scanned v) (rest : List Char) :
    scan? (charsItems items ++ rest) =
      (scan? rest).map (tokensItems (roundedItems items) ++ ·) := by
  induction items with
  | nil => exact scan?_mark rfl
  | cons v items ih =>
    obtain ⟨here, later⟩ := List.forall_mem_cons.1 each
    cases items with
    | nil =>
      have last := here (']' :: rest) (by simp [Apart])
      have mark : scan? (']' :: rest) = (scan? rest).map (Token.closeList :: ·) := scan?_mark rfl
      simp [charsItems, roundedItems, tokensItems, last, mark, Function.comp_def]
    | cons w items =>
      have next := here (',' :: (charsItems (w :: items) ++ rest)) (by simp [Apart])
      have mark : scan? (',' :: (charsItems (w :: items) ++ rest)) =
          (scan? (charsItems (w :: items) ++ rest)).map (Token.comma :: ·) := scan?_mark rfl
      have tokens : tokensItems (roundedItems (v :: w :: items)) =
          v.rounded.tokens ++ .comma :: tokensItems (roundedItems (w :: items)) := rfl
      rw [charsItems, tokens, List.append_assoc, List.cons_append, next, mark, ih later]
      · simp [Function.comp_def]
      · simp

theorem scan?_field (k : String) (value : Scanned v) (rest : List Char) (apart : Apart rest) :
    scan? (quoted k ++ ':' :: (chars v ++ rest)) =
      (scan? rest).map (.scalar (.str k) :: .colon :: tokens v.rounded ++ ·) := by
  have mark : scan? (':' :: (chars v ++ rest)) = (scan? (chars v ++ rest)).map (Token.colon :: ·) :=
    scan?_mark rfl
  rw [scan?_quoted, mark, value rest apart]
  simp [Function.comp_def]

theorem scan?_charsFields {fields : List (String × Json)} (each : ∀ field ∈ fields, Scanned field.2)
    (rest : List Char) :
    scan? (charsFields fields ++ rest) =
      (scan? rest).map (tokensFields (roundedFields fields) ++ ·) := by
  induction fields with
  | nil => exact scan?_mark rfl
  | cons field fields ih =>
    obtain ⟨k, v⟩ := field
    obtain ⟨here, later⟩ := List.forall_mem_cons.1 each
    cases fields with
    | nil =>
      have last := scan?_field k here ('}' :: rest) (by simp [Apart])
      have mark : scan? ('}' :: rest) = (scan? rest).map (Token.closeObject :: ·) := scan?_mark rfl
      simp [charsFields, roundedFields, tokensFields, last, mark, Function.comp_def]
    | cons next fields =>
      have first := scan?_field k here (',' :: (charsFields (next :: fields) ++ rest))
        (by simp [Apart])
      have mark : scan? (',' :: (charsFields (next :: fields) ++ rest)) =
          (scan? (charsFields (next :: fields) ++ rest)).map (Token.comma :: ·) := scan?_mark rfl
      have tokens : tokensFields (roundedFields ((k, v) :: next :: fields)) =
          .scalar (.str k) :: .colon :: v.rounded.tokens ++
            .comma :: tokensFields (roundedFields (next :: fields)) := rfl
      rw [charsFields, tokens]
      · simp only [List.append_assoc, List.cons_append, first, mark, ih later]
        simp [Function.comp_def]
      · simp

/-- Scanning the text of a value gives its tokens. -/
theorem scanned (v : Json) (wellFormed : v.WellFormed) (inRange : v.InRange) : Scanned v := by
  induction v using induct with
  | null => exact scanned_null
  | bool b => exact scanned_bool b
  | int n => exact fun _ apart => scan?_intText (wellFormed _ (self_mem_parts _)) apart
  | float x =>
    have finite : x.InRange := inRange _ (self_mem_parts _)
    obtain ⟨y, same⟩ := rounded_float finite
    intro rest apart
    show scan? (x.render.toList ++ rest) = _
    rw [scan?_render finite apart, same]
    rfl
  | str s => exact fun rest _ => scan?_quoted s rest
  | arr items ih =>
    have each : ∀ v ∈ items, Scanned v := fun v member =>
      ih v member (wellFormed.of_mem (mem_parts_of_item member))
        (inRange.of_mem (mem_parts_of_item member))
    intro rest _
    have mark : scan? ('[' :: (charsItems items ++ rest)) =
        (scan? (charsItems items ++ rest)).map (Token.openList :: ·) := scan?_mark rfl
    rw [chars, rounded, tokens, List.cons_append, mark, scan?_charsItems each]
    simp [Function.comp_def]
  | obj fields ih =>
    have each : ∀ field ∈ fields, Scanned field.2 := fun field member =>
      ih field member (wellFormed.of_mem (mem_parts_of_field member))
        (inRange.of_mem (mem_parts_of_field member))
    intro rest _
    have mark : scan? ('{' :: (charsFields fields ++ rest)) =
        (scan? (charsFields fields ++ rest)).map (Token.openObject :: ·) := scan?_mark rfl
    rw [chars, rounded, tokens, List.cons_append, mark, scan?_charsFields each]
    simp [Function.comp_def]

/-! ## Values -/

theorem set_of_notMem {key : String} {v : Json} {fields : List (String × Json)}
    (fresh : key ∉ fields.map (·.1)) : Assoc.set key v fields = fields ++ [(key, v)] := by
  induction fields with
  | nil => rfl
  | cons field rest ih =>
    simp only [List.map_cons, List.mem_cons, not_or] at fresh
    rw [Assoc.set, if_neg (Ne.symm fresh.1), ih fresh.2, List.cons_append]

open Stage

/-- A stage in which a value can come. -/
def Stage.Ready (stage : Stage) : Prop :=
  stage = value ∨ stage = firstItem

variable {stage stage' : Stage} {os os' : List Open} {t : Token} {ts : List Token}

/-- The first item of a list is read like any other value. -/
theorem Stage.Ready.step (ready : stage.Ready) (item : t ≠ .closeList) :
    stage.step os t = value.step os t := by
  rcases ready with rfl | rfl
  · rfl
  · cases t with
    | closeList => exact absurd rfl item
    | _ => cases os with
      | nil => rfl
      | cons o os => cases o <;> rfl

theorem ofTokensFrom?_step (step : stage.step os t = some (stage', os')) :
    ofTokensFrom? stage os (t :: ts) = ofTokensFrom? stage' os' ts := by
  rw [ofTokensFrom?, step]

/-- Reading the tokens of a value gives the value, wherever it stands. -/
def Reread (v : Json) : Prop :=
  ∀ stage os ts, Ready stage → os.length + v.depth ≤ maxOpen →
    ofTokensFrom? stage os (tokens v ++ ts) = ofTokensFrom? (.done v) os ts

theorem reread_scalar (single : tokens v = [.scalar v]) : Reread v := by
  intro stage os ts ready _
  rw [single, List.singleton_append]
  exact ofTokensFrom?_step (ready.step (by simp))

/-- Reading the items of a list that is open closes it. -/
theorem ofTokensFrom?_tokensItems {items done : List Json} (each : ∀ v ∈ items, Reread v)
    (nonempty : items ≠ []) (ready : stage.Ready)
    (bounded : os.length + 1 + depthItems items ≤ maxOpen) :
    ofTokensFrom? stage (.list done :: os) (tokensItems items ++ ts) =
      ofTokensFrom? (.done (.arr (done.reverse ++ items))) os ts := by
  induction items generalizing done stage with
  | nil => exact absurd rfl nonempty
  | cons v items ih =>
    obtain ⟨here, later⟩ := List.forall_mem_cons.1 each
    rw [depthItems] at bounded
    have inside : (Open.list done :: os).length + v.depth ≤ maxOpen := by
      rw [List.length_cons]
      omega
    cases items with
    | nil =>
      have last := here stage (.list done :: os) (.closeList :: ts) ready inside
      rw [tokensItems, List.append_assoc, List.singleton_append, last]
      refine (ofTokensFrom?_step rfl).trans ?_
      rw [List.reverse_cons]
    | cons w items =>
      have first := here stage (.list done :: os) (.comma :: (tokensItems (w :: items) ++ ts)) ready
        inside
      rw [tokensItems, List.append_assoc, List.cons_append, first]
      · refine (ofTokensFrom?_step rfl).trans ?_
        rw [ih later (by simp) (.inl rfl) (by omega), List.reverse_cons, List.append_assoc,
          List.singleton_append]
      · simp

/-- A stage in which a key of an object with these fields can come. -/
def Stage.Keyed (fields : List (String × Json)) (stage : Stage) : Prop :=
  stage = key fields ∨ (fields = [] ∧ stage = firstKey)

/-- Reading the fields of an object that is open closes it. -/
theorem ofTokensFrom?_tokensFields {fields done : List (String × Json)}
    (each : ∀ field ∈ fields, Reread field.2) (nonempty : fields ≠ []) (keyed : stage.Keyed done)
    (distinct : ((done ++ fields).map (·.1)).Nodup)
    (bounded : os.length + 1 + depthFields fields ≤ maxOpen) :
    ofTokensFrom? stage os (tokensFields fields ++ ts) =
      ofTokensFrom? (.done (.obj (done ++ fields))) os ts := by
  induction fields generalizing done stage with
  | nil => exact absurd rfl nonempty
  | cons field fields ih =>
    obtain ⟨k, v⟩ := field
    obtain ⟨here, later⟩ := List.forall_mem_cons.1 each
    rw [depthFields] at bounded
    have opened : ∀ ts, ofTokensFrom? stage os (.scalar (.str k) :: .colon :: ts) =
        ofTokensFrom? value (.field done k :: os) ts := by
      intro ts
      have named : stage.step os (.scalar (.str k)) = some (Stage.colon, .field done k :: os) := by
        rcases keyed with rfl | ⟨rfl, rfl⟩ <;> rfl
      exact (ofTokensFrom?_step named).trans (ofTokensFrom?_step rfl)
    have inside : (Open.field done k :: os).length + v.depth ≤ maxOpen := by
      rw [List.length_cons]
      omega
    have fresh : Assoc.set k v done = done ++ [(k, v)] := by
      refine set_of_notMem fun member => ?_
      rw [List.map_append, List.nodup_append] at distinct
      exact distinct.2.2 k member k (by simp) rfl
    cases fields with
    | nil =>
      have last := here value (.field done k :: os) (.closeObject :: ts) (.inl rfl) inside
      simp only [tokensFields, List.cons_append, List.append_assoc, List.nil_append, opened, last]
      refine (ofTokensFrom?_step rfl).trans ?_
      rw [fresh]
    | cons next fields =>
      have first := here value (.field done k :: os) (.comma :: (tokensFields (next :: fields) ++ ts))
        (.inl rfl) inside
      rw [tokensFields]
      · simp only [List.cons_append, List.append_assoc, opened, first]
        refine (ofTokensFrom?_step rfl).trans ?_
        rw [fresh, ih later (by simp) (.inl rfl) (by simpa using distinct) (by omega),
          List.append_assoc, List.singleton_append]
      · simp

/-- Reading the tokens of a value gives the value. -/
theorem reread (v : Json) (wellFormed : v.WellFormed) : Reread v := by
  induction v using induct with
  | arr items ih =>
    intro stage os ts ready bounded
    rw [depth] at bounded
    have each : ∀ v ∈ items, Reread v := fun v member =>
      ih v member (wellFormed.of_mem (mem_parts_of_item member))
    have room : os.length < maxOpen := by omega
    have opened : stage.step os .openList = some (firstItem, .list [] :: os) :=
      (ready.step (by simp)).trans (if_pos room)
    rw [tokens, List.cons_append, ofTokensFrom?_step opened]
    cases items with
    | nil => exact ofTokensFrom?_step rfl
    | cons v items =>
      exact ofTokensFrom?_tokensItems each (by simp) (.inr rfl) (by omega)
  | obj fields ih =>
    intro stage os ts ready bounded
    rw [depth] at bounded
    have each : ∀ field ∈ fields, Reread field.2 := fun field member =>
      ih field member (wellFormed.of_mem (mem_parts_of_field member))
    have distinct : (fields.map (·.1)).Nodup := wellFormed _ (self_mem_parts _)
    have room : os.length < maxOpen := by omega
    have opened : stage.step os .openObject = some (firstKey, os) :=
      (ready.step (by simp)).trans (if_pos room)
    rw [tokens, List.cons_append, ofTokensFrom?_step opened]
    cases fields with
    | nil => exact ofTokensFrom?_step rfl
    | cons field fields =>
      exact ofTokensFrom?_tokensFields each (by simp) (.inr ⟨rfl, rfl⟩) distinct (by omega)
  | _ => exact reread_scalar rfl

/-- The tokens of a value, rounded, are what is read from its text. -/
theorem read?_render_eq {v : Json} (wellFormed : v.WellFormed) (inRange : v.InRange) :
    read? v.render = ofTokens? (tokens v.rounded) := by
  have text := scanned v wellFormed inRange [] (by simp [Apart])
  rw [List.append_nil] at text
  have none : scan? [] = some [] := by rw [scan?]
  rw [read?, render, String.toList_ofList, text, none]
  simp only [Option.map_some, List.append_nil, Option.bind_some]

/-- What is written is read back, rounded. -/
theorem read?_render_rounded {v : Json} (wellFormed : v.WellFormed) (inRange : v.InRange)
    (bounded : v.depth ≤ maxOpen) : read? v.render = some v.rounded := by
  have value := reread v.rounded (wellFormed_rounded wellFormed inRange) value [] [] (.inl rfl)
    (by simpa [depth_rounded inRange] using bounded)
  rw [List.append_nil] at value
  rw [read?_render_eq wellFormed inRange, ofTokens?, value]
  rfl

/-- What is written without numbers of double precision is read back. -/
theorem read?_render {v : Json} (wellFormed : v.WellFormed) (integral : v.Integral)
    (bounded : v.depth ≤ maxOpen) : read? v.render = some v := by
  rw [read?_render_rounded wellFormed integral.inRange bounded, rounded_of_integral integral]

end SchemaBinder.Json
