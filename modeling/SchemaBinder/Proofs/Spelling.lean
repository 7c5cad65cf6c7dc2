import Mathlib.Data.List.Nodup
import Mathlib.Data.List.Perm.Basic
import Mathlib.Data.Set.List
import SchemaBinder.Proofs.Codec
import SchemaBinder.Proofs.Lists
import SchemaBinder.Setting.Reader
/-!
# Spelled settings

A notation gives a setting back as it can be told from its text: a text, a truth value or a whole
number may stand without quotes, and the fields of a table may be in another order.  `Spells` says
that a value is another one but for that.

The readers do not see the difference, and a record is read from its fields in any order
(`readInto_of_fields`).
-/

namespace SchemaBinder.Setting

/-! ## Plain texts -/

namespace Plain

variable {s t : String} {b : Bool}

theorem notAbsent_of_bool? (word : bool? s = some b) : isAbsent s = false := by
  unfold bool? at word
  split at word
  · next member =>
    simp only [List.contains_iff_mem, List.mem_cons, List.not_mem_nil, or_false] at member
    rcases member with rfl | rfl | rfl <;> rfl
  · split at word
    · next member =>
      simp only [List.contains_iff_mem, List.mem_cons, List.not_mem_nil, or_false] at member
      rcases member with rfl | rfl | rfl <;> rfl
    · cases word

theorem settle_of_isAbsent (absent : isAbsent s = true) : settle s = null := by
  rw [settle]
  exact if_pos absent

theorem notAbsent_of_settle (settled : settle s = .text t) : isAbsent s = false := by
  cases absent : isAbsent s with
  | false => rfl
  | true => rw [settle_of_isAbsent absent] at settled; cases settled

theorem settle_of_bool? (word : bool? s = some b) : settle s = .bool b := by
  have there : ¬ (s = "" || isNull s) = true := by
    rw [Bool.not_eq_true]
    exact notAbsent_of_bool? word
  rw [settle, if_neg there, word]

end Plain

/-! ## Spelling -/

/-- The first value is the second one, as a notation may give it back. -/
inductive Spells : Setting → Setting → Prop where
  | bool (b : Bool) : Spells (bool b) (bool b)
  | int (n : Int) : Spells (int n) (int n)
  | text (s : String) : Spells (text s) (text s)
  /-- A truth value without quotes. -/
  | plainBool {s : String} {b : Bool} : Plain.bool? s = some b → Spells (plain s) (bool b)
  /-- A whole number without quotes, with a minus sign only if it is negative. -/
  | plainInt {s : String} {n : Int} : Plain.whole? s = some n →
      (s.toList.head? = some '-' → n < 0) → Spells (plain s) (int n)
  /-- A text without quotes that is no other value. -/
  | plainText {s : String} : Plain.settle s = .text s → Spells (plain s) (text s)
  | list {items written : List Setting} : List.Forall₂ Spells items written →
      Spells (list items) (list written)
  /-- A table with its fields in any order. -/
  | table {fields placed written : List (String × Setting)} :
      fields.map (·.1) = placed.map (·.1) →
      List.Forall₂ Spells (fields.map (·.2)) (placed.map (·.2)) → placed.Perm written →
      Spells (table fields) (table written)

variable {v : Setting} {s : String} {b : Bool} {texts : List String}

theorem readText_of_spells (spelled : Spells v (.text s)) : v.readText = .ok s := by
  cases spelled <;> rfl

theorem isAbsent_of_spells (spelled : Spells v (.text s)) : v.isAbsent = false := by
  cases spelled with
  | text => rfl
  | plainText settled => exact Plain.notAbsent_of_settle settled

theorem readText?_of_spells (spelled : Spells v (.text s)) : v.readText? = .ok (some s) := by
  rw [readText?, isAbsent_of_spells spelled, readText_of_spells spelled]
  rfl

theorem settle_of_spells_text (spelled : Spells v (.text s)) : v.settle = .text s := by
  cases spelled with
  | text => rfl
  | plainText settled => exact settled

theorem settle_of_spells_bool (spelled : Spells v (.bool b)) : v.settle = .bool b := by
  cases spelled with
  | bool => rfl
  | plainBool word => exact Plain.settle_of_bool? word

theorem readTextSettled?_of_spells (spelled : Spells v (.text s)) :
    v.readTextSettled? = .ok (some s) := by
  rw [readTextSettled?, settle_of_spells_text spelled]

theorem readCase_of_spells {α : Type} {cases : List (String × α)} {a : α}
    (known : Assoc.get? s cases = some a) (spelled : Spells v (.text s)) :
    v.readCase cases = .ok a := by
  rw [readCase, settle_of_spells_text spelled]
  exact congrArg orWrongShape known

theorem readBoolSettled_of_spells (spelled : Spells v (.bool b)) :
    v.readBoolSettled = .ok b := by
  rw [readBoolSettled, settle_of_spells_bool spelled]

theorem readBool_of_spells (spelled : Spells v (.bool b)) : v.readBool = .ok b := by
  cases spelled with
  | bool => rfl
  | plainBool word =>
    show orWrongShape (Plain.bool? _) = .ok b
    rw [word]
    rfl

theorem word?_toNat (n : UInt64) : Decimal.word? n.toNat = some n := by
  have fits : Decimal.fitsUnsigned 64 n.toNat = true :=
    Decimal.fitsUnsigned_iff.2 ⟨Int.natCast_nonneg _, by exact_mod_cast n.toNat_lt⟩
  rw [Decimal.word?, if_pos fits, Int.toNat_natCast, UInt64.ofNat_toNat]

theorem readWord_of_spells {n : UInt64} (spelled : Spells v (.int n.toNat)) :
    v.readWord = .ok n := by
  cases spelled with
  | int =>
    show orWrongShape (Decimal.word? _) = .ok n
    rw [word?_toNat]
    rfl
  | plainInt whole sign =>
    have natural : (0 : Int) ≤ n.toNat := Int.natCast_nonneg _
    show orWrongShape (Plain.word? _) = .ok n
    rw [Plain.word?, if_neg fun minus => absurd (sign minus) (Int.not_lt.2 natural), whole,
      Option.bind_some, word?_toNat]
    rfl

/-- Texts and truth values have a JSON form. -/
theorem toJson?_of_spells_text (spelled : Spells v (.text s)) : v.toJson?.isSome := by
  cases spelled with
  | text => rfl
  | plainText settled =>
    rw [toJson?, toJsonWithin?, settled]
    rfl

theorem toJson?_of_spells_bool (spelled : Spells v (.bool b)) : v.toJson?.isSome := by
  cases spelled with
  | bool => rfl
  | plainBool word =>
    rw [toJson?, toJsonWithin?, Plain.settle_of_bool? word]
    rfl

/-! ## Lists -/

theorem exists_items_of_spells (spelled : Spells v (.list (texts.map .text))) :
    ∃ items, v = .list items ∧ List.Forall₂ (fun v s => Spells v (.text s)) items texts := by
  generalize same : Setting.list (texts.map .text) = written at spelled
  cases spelled with
  | list items =>
    cases same
    exact ⟨_, rfl, List.forall₂_map_right_iff.1 items⟩
  | _ => cases same

theorem readTexts_of_spells (spelled : Spells v (.list (texts.map .text))) :
    v.readTexts = .ok texts := by
  obtain ⟨items, rfl, each⟩ := exists_items_of_spells spelled
  exact mapM_of_forall₂ (each.imp fun _ _ => readText_of_spells)

theorem distinctTexts_of_spells {items : List Setting} {more : List String}
    (each : List.Forall₂ (fun v s => Spells v (.text s)) items more)
    (distinct : (texts ++ more).Nodup) : distinctTexts texts items = .ok (texts ++ more) := by
  induction each generalizing texts with
  | nil => rw [List.append_nil]; rfl
  | @cons v s items more here _ ih =>
    have fresh : texts.contains s = false := by
      rw [← Bool.not_eq_true, List.contains_iff_mem]
      exact fun member => List.disjoint_of_nodup_append distinct member List.mem_cons_self
    have same : texts ++ s :: more = texts ++ [s] ++ more := by
      rw [List.append_assoc, List.singleton_append]
    rw [same] at distinct ⊢
    rw [distinctTexts, settle_of_spells_text here]
    simp only [fresh, Bool.false_eq_true, if_false]
    exact ih distinct

/-- A list of texts is read as it is if no text comes twice. -/
theorem readTextOrTexts_of_spells (distinct : texts.Nodup)
    (spelled : Spells v (.list (texts.map .text))) : v.readTextOrTexts = .ok texts := by
  obtain ⟨items, rfl, each⟩ := exists_items_of_spells spelled
  exact distinctTexts_of_spells each distinct

/-! ## Tables -/

theorem exists_placed_of_spells {written : List (String × Setting)}
    (spelled : Spells v (.table written)) : ∃ fields placed, v = .table fields ∧
      placed.Perm written ∧
      List.Forall₂ (fun p q => p.1 = q.1 ∧ Spells p.2 q.2) fields placed := by
  cases spelled with
  | @table fields placed _ keys values order =>
    refine ⟨fields, placed, rfl, order, ?_⟩
    clear order
    induction fields generalizing placed with
    | nil =>
      obtain rfl := List.map_eq_nil_iff.1 keys.symm
      exact .nil
    | cons p fields ih =>
      cases placed with
      | nil => cases keys
      | cons q placed =>
        cases values with
        | cons here later =>
          obtain ⟨key, keys⟩ := List.cons.inj keys
          exact .cons ⟨key, here⟩ (ih keys later)

/-- A table of texts is read as it is, in whichever order its fields are. -/
theorem readTextTable_of_spells {table : SortedTable String}
    (spelled : Spells v (.table (table.entries.map fun p => (p.1, .text p.2)))) :
    v.readTextTable = .ok table := by
  obtain ⟨fields, placed, rfl, order, each⟩ := exists_placed_of_spells spelled
  obtain ⟨pairs, rfl⟩ : placed ∈ Set.range (List.map fun p : String × String =>
      (p.1, Setting.text p.2)) := by
    rw [Set.range_list_map]
    intro p member
    obtain ⟨pair, _, same⟩ := List.mem_map.1 (order.mem_iff.1 member)
    exact ⟨pair, same⟩
  have same : pairs.Perm table.entries := by
    refine (List.map_perm_map_iff ?_).1 order
    rintro ⟨k, s⟩ ⟨k', s'⟩ ⟨⟩
    rfl
  have read : fields.mapM (fun p => do return (p.1, ← readText p.2)) = Except.ok pairs := by
    refine mapM_of_forall₂ ((List.forall₂_map_right_iff.1 each).imp ?_)
    rintro ⟨k, v⟩ ⟨_, s⟩ ⟨rfl, spelled⟩
    show (do return (k, ← readText v) : Reading (String × String)) = _
    rw [readText_of_spells spelled]
    rfl
  show (fields.mapM (m := Reading) _ >>= _) = _
  rw [read]
  exact congrArg Except.ok (SortedTable.ofList_of_perm same)

/-! ## Records -/

/-- A record whose field is read. -/
theorem return_of_ok {α β : Type} {read : Reading α} {a : α} {f : α → β} {b : β}
    (reads : read = .ok a) (makes : f a = b) : (do return f (← read)) = Except.ok b := by
  rw [reads, ← makes]
  rfl

theorem repeats_of_nodup (names : List String) {keys : List String} (once : keys.Nodup) :
    repeats names keys = false := by
  rw [repeats, List.any_eq_false]
  intro name _
  simpa using List.nodup_iff_count_le_one.1 once name

/-- The fields of a table have the keys of the fields they stand for. -/
theorem exists_fields_of_spells {written : List (String × Setting)}
    (spelled : Spells v (.table written)) : ∃ fields, v = .table fields ∧
      (fields.map (·.1)).Perm (written.map (·.1)) ∧
      ∀ p ∈ fields, ∃ w, (p.1, w) ∈ written ∧ Spells p.2 w := by
  obtain ⟨fields, placed, rfl, order, each⟩ := exists_placed_of_spells spelled
  have found : fields.map (·.1) = placed.map (·.1) ∧
      ∀ p ∈ fields, ∃ w, (p.1, w) ∈ placed ∧ Spells p.2 w := by
    clear order spelled
    induction each with
    | nil => exact ⟨rfl, List.forall_mem_nil _⟩
    | @cons p q fields placed same _ ih =>
      obtain ⟨keys, later⟩ := ih
      refine ⟨List.cons_eq_cons.2 ⟨same.1, keys⟩, List.forall_mem_cons.2 ⟨?_, ?_⟩⟩
      · exact ⟨q.2, same.1 ▸ List.mem_cons_self, same.2⟩
      · intro p' member
        obtain ⟨w, there, spelled⟩ := later p' member
        exact ⟨w, List.mem_cons_of_mem q there, spelled⟩
  refine ⟨fields, rfl, found.1 ▸ order.map (·.1), fun p member => ?_⟩
  obtain ⟨w, there, spelled⟩ := found.2 p member
  exact ⟨w, order.mem_iff.1 there, spelled⟩

/-- `only keys` is a record of which the fields with these keys are read.  If each field adds its
key, then reading all fields adds all keys. -/
theorem readInto_of_fields {ρ : Type} (names : List String)
    {readField : ρ → String → Setting → Reading ρ} {only : List String → ρ}
    {fields : List (String × Setting)} (once : (fields.map (·.1)).Nodup)
    (each : ∀ p ∈ fields, ∀ keys, readField (only keys) p.1 p.2 = .ok (only (p.1 :: keys))) :
    readInto names readField (only []) fields = .ok (only (fields.map (·.1)).reverse) := by
  have run : ∀ keys, fields.foldlM (fun record p => readField record p.1 p.2) (only keys) =
      .ok (only ((fields.map (·.1)).reverse ++ keys)) := by
    clear once
    induction fields with
    | nil => exact fun keys => rfl
    | cons p fields ih =>
      obtain ⟨here, later⟩ := List.forall_mem_cons.1 each
      intro keys
      rw [List.foldlM_cons]
      show (readField (only keys) p.1 p.2 >>= _) = _
      rw [here keys]
      show fields.foldlM _ (only (p.1 :: keys)) = _
      rw [ih later, List.map_cons, List.reverse_cons, List.append_assoc, List.singleton_append]
  rw [readInto, repeats_of_nodup names once, if_neg Bool.false_ne_true]
  exact (run []).trans (by rw [List.append_nil])

/-- So the whole record is read from fields that stand for all of its fields. -/
theorem readInto_of_complete {ρ : Type} (names : List String)
    {readField : ρ → String → Setting → Reading ρ} {only : List String → ρ} {whole : ρ}
    {fields written : List (String × Setting)} (once : (written.map (·.1)).Nodup)
    (keys : (fields.map (·.1)).Perm (written.map (·.1)))
    (each : ∀ p ∈ fields, ∀ keys, readField (only keys) p.1 p.2 = .ok (only (p.1 :: keys)))
    (complete : ∀ keys, (∀ field ∈ written, field.1 ∈ keys) → only keys = whole) :
    readInto names readField (only []) fields = .ok whole := by
  rw [readInto_of_fields names (keys.nodup_iff.2 once) each, complete]
  intro field member
  rw [List.mem_reverse, keys.mem_iff]
  exact List.mem_map_of_mem member

/-! ## Checking a spelling -/

mutual

/-- Does the first value spell the second one, the fields of its tables in the same order? -/
def spellsInOrder : Setting → Setting → Bool
  | .bool b, .bool b' => b == b'
  | .int n, .int n' => n == n'
  | .text s, .text s' => s == s'
  | .plain s, .bool b => Plain.bool? s == some b
  | .plain s, .int n => Plain.whole? s == some n && (s.toList.head? != some '-' || decide (n < 0))
  | .plain s, .text s' => s == s' && (match Plain.settle s with | .text t => t == s | _ => false)
  | .list items, .list written => itemsInOrder items written
  | .table fields, .table written => fieldsInOrder fields written
  | _, _ => false

/-- Do some values spell others? -/
def itemsInOrder : List Setting → List Setting → Bool
  | [], [] => true
  | v :: items, w :: written => spellsInOrder v w && itemsInOrder items written
  | _, _ => false

/-- Do the values of some fields spell those of others under the same keys? -/
def fieldsInOrder : List (String × Setting) → List (String × Setting) → Bool
  | [], [] => true
  | (k, v) :: fields, (k', w) :: written =>
    k == k' && spellsInOrder v w && fieldsInOrder fields written
  | _, _ => false

end

mutual

theorem spells_of_inOrder : ∀ {v w : Setting}, spellsInOrder v w = true → Spells v w
  | .bool b, .bool _, h => by
    rw [spellsInOrder, beq_iff_eq] at h
    exact h ▸ .bool b
  | .int n, .int _, h => by
    rw [spellsInOrder, beq_iff_eq] at h
    exact h ▸ .int n
  | .text s, .text _, h => by
    rw [spellsInOrder, beq_iff_eq] at h
    exact h ▸ .text s
  | .plain s, .bool b, h => by
    rw [spellsInOrder, beq_iff_eq] at h
    exact .plainBool h
  | .plain s, .int n, h => by
    simp only [spellsInOrder, Bool.and_eq_true, beq_iff_eq, Bool.or_eq_true, bne_iff_ne,
      decide_eq_true_eq] at h
    exact .plainInt h.1 fun minus => h.2.resolve_left (not_not_intro minus)
  | .plain s, .text s', h => by
    simp only [spellsInOrder, Bool.and_eq_true, beq_iff_eq] at h
    obtain ⟨rfl, h⟩ := h
    split at h
    · next settled => exact .plainText (settled.trans (congrArg _ (beq_iff_eq.1 h)))
    · cases h
  | .list items, .list written, h => .list (items_of_inOrder h)
  | .table fields, .table written, h =>
    have ⟨keys, values⟩ := fields_of_inOrder h
    .table keys values (.refl _)

theorem items_of_inOrder : ∀ {items written : List Setting}, itemsInOrder items written = true →
    List.Forall₂ Spells items written
  | [], [], _ => .nil
  | _ :: _, _ :: _, h =>
    have ⟨here, later⟩ := Bool.and_eq_true_iff.1 h
    .cons (spells_of_inOrder here) (items_of_inOrder later)

theorem fields_of_inOrder : ∀ {fields written : List (String × Setting)},
    fieldsInOrder fields written = true → fields.map (·.1) = written.map (·.1) ∧
      List.Forall₂ Spells (fields.map (·.2)) (written.map (·.2))
  | [], [], _ => ⟨rfl, .nil⟩
  | (k, v) :: fields, (k', w) :: written, h => by
    simp only [fieldsInOrder, Bool.and_eq_true, beq_iff_eq] at h
    obtain ⟨⟨rfl, here⟩, later⟩ := h
    have ⟨keys, values⟩ := fields_of_inOrder later
    exact ⟨congrArg (k :: ·) keys, .cons (spells_of_inOrder here) values⟩

end

/-! ## What reading makes -/

theorem nodup_of_distinctTexts {items : List Setting} {found : List String}
    (distinct : texts.Nodup) (read : distinctTexts texts items = .ok found) : found.Nodup := by
  induction items generalizing texts with
  | nil =>
    cases read
    exact distinct
  | cons v items ih =>
    unfold distinctTexts at read
    split at read
    · next s _ =>
      refine ih ?_ read
      split
      · exact distinct
      · next fresh =>
        rw [List.contains_iff_mem] at fresh
        exact List.nodup_append.2 ⟨distinct, List.nodup_singleton s, fun t member u single same =>
          fresh (List.mem_singleton.1 single ▸ same ▸ member)⟩
    · cases read

theorem nodup_of_readTextOrTexts (read : v.readTextOrTexts = .ok texts) : texts.Nodup := by
  unfold readTextOrTexts at read
  split at read
  · cases read
    exact List.nodup_nil
  · cases read
    exact List.nodup_singleton _
  · exact nodup_of_distinctTexts List.nodup_nil read
  · cases read

/-- What holds of the defaults and is kept by each field holds of a record that is read. -/
theorem of_readInto {ρ : Type} {names : List String}
    {readField : ρ → String → Setting → Reading ρ} {motive : ρ → Prop} {start whole : ρ}
    {fields : List (String × Setting)} (first : motive start)
    (kept : ∀ record key v next, motive record → readField record key v = .ok next → motive next)
    (read : readInto names readField start fields = .ok whole) : motive whole := by
  unfold readInto at read
  split at read
  · cases read
  · next once =>
    clear once
    induction fields generalizing start with
    | nil =>
      cases read
      exact first
    | cons p fields ih =>
      rw [List.foldlM_cons] at read
      obtain ⟨next, here, later⟩ := bind_eq_ok_iff.1 read
      exact ih (kept start p.1 p.2 next first here) later

end SchemaBinder.Setting
