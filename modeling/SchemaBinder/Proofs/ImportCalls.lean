import Mathlib.Data.List.Induction
import Mathlib.Data.List.Nodup
import SchemaBinder.ImportSet
/-!
# Import lists after any calls

Names are added to an import list by calls that bring one name or several.  However the names are
divided between calls, the list is what comes of adding them one after the other
(`after_eq_extend`).

So its law is that of one sequence of names, by induction from the end: the last name is appended
exactly if neither the list at the start nor the names before hold it (`names_extend_new`).  A list
that is read from elsewhere may repeat names, and those repetitions stay.  There are no others
(`nodup_extend`).
-/

namespace SchemaBinder.ImportSet

/-! ## Calls -/

/-- A call that adds names to a list. -/
inductive Call where
  /-- One name.  The call answers whether it was added. -/
  | insert (name : String)
  /-- Several names.  The call has no answer. -/
  | extend (names : List String)

namespace Call

/-- The names that a call brings. -/
def names : Call → List String
  | .insert name => [name]
  | .extend names => names

/-- The answer of a call, and the list after it. -/
def perform (s : ImportSet) : Call → Option Bool × ImportSet
  | .insert name => ((s.add name).1, (s.add name).2)
  | .extend names => (none, s.extend names)

/-- A call adds its names one after the other. -/
theorem perform_snd (s : ImportSet) (call : Call) : (call.perform s).2 = s.extend call.names := by
  cases call with
  | insert name => rfl
  | extend names => rfl

end Call

/-- The answers of calls made one after the other. -/
def answers (s : ImportSet) : List Call → List (Option Bool)
  | [] => []
  | call :: rest => (call.perform s).1 :: (call.perform s).2.answers rest

/-- The list after calls made one after the other. -/
def after (s : ImportSet) : List Call → ImportSet
  | [] => s
  | call :: rest => (call.perform s).2.after rest

variable {s : ImportSet} {calls before later : List Call} {names more : List String} {name : String}

/-- It makes no difference how the names are divided between calls. -/
theorem after_eq_extend (s : ImportSet) (calls : List Call) :
    s.after calls = s.extend (calls.flatMap Call.names) := by
  induction calls generalizing s with
  | nil => rfl
  | cons call rest ih => rw [after, ih, Call.perform_snd, List.flatMap_cons, extend_append]

theorem length_answers (s : ImportSet) (calls : List Call) :
    (s.answers calls).length = calls.length := by
  induction calls generalizing s with
  | nil => rfl
  | cons call rest ih => simp [answers, ih]

theorem answers_append (s : ImportSet) (before later : List Call) :
    s.answers (before ++ later) = s.answers before ++ (s.after before).answers later := by
  induction before generalizing s with
  | nil => rfl
  | cons call rest ih => rw [List.cons_append, answers, answers, ih, after, List.cons_append]

/-! ## New names -/

/-- The names of a sequence that are new where they come: neither a known list nor the sequence
before this place holds them. -/
def newNames (known names : List String) : List String :=
  (names.zipIdx.filter fun p => p.1 ∉ known ∧ p.1 ∉ names.take p.2).map (·.1)

theorem newNames_concat (known names : List String) (name : String) :
    newNames known (names ++ [name]) =
      newNames known names ++ if name ∉ known ∧ name ∉ names then [name] else [] := by
  -- the places before the last one have the same names before them
  have same : ∀ p ∈ names.zipIdx, (names ++ [name]).take p.2 = names.take p.2 := by
    intro p member
    exact List.take_append_of_le_length (Nat.le_of_lt (List.snd_lt_of_mem_zipIdx member))
  have earlier : (names.zipIdx.filter fun p => p.1 ∉ known ∧ p.1 ∉ (names ++ [name]).take p.2) =
      names.zipIdx.filter fun p => p.1 ∉ known ∧ p.1 ∉ names.take p.2 := by
    refine List.filter_congr fun p member => ?_
    rw [same p member]
  rw [newNames, List.zipIdx_append, List.filter_append, List.map_append, earlier, newNames]
  by_cases new : name ∉ known ∧ name ∉ names <;> simp [new]

/-- A list is followed by the names that are new where they come. -/
theorem names_extend_new (s : ImportSet) (names : List String) :
    (s.extend names).names = s.names ++ newNames s.names names := by
  induction names using List.reverseRecOn with
  | nil => exact (List.append_nil s.names).symm
  | append_singleton names name ih =>
    have last : s.extend (names ++ [name]) = (s.extend names).insert name :=
      extend_append s names [name]
    rw [last, names_insert, newNames_concat]
    by_cases known : name ∈ (s.extend names).names
    · have old : ¬ (name ∉ s.names ∧ name ∉ names) := fun new => not_or.2 new (mem_extend.1 known)
      rw [if_pos known, if_neg old, List.append_nil, ih]
    · have new : name ∉ s.names ∧ name ∉ names := not_or.1 (known ∘ mem_extend.2)
      rw [if_neg known, if_pos new, ih, List.append_assoc]

/-! ## Answers -/

theorem add_fst (s : ImportSet) (name : String) : (s.add name).1 = decide (name ∉ s.names) := by
  by_cases known : name ∈ s.names <;> simp [add, contains, known]

/-- A call for one name answers that it was added if it is new. -/
theorem answer_insert (s : ImportSet) (before later : List Call) (name : String) :
    (s.answers (before ++ .insert name :: later))[before.length]? =
      some (some (decide (name ∉ s.names ∧ name ∉ before.flatMap Call.names))) := by
  have here : ((s.after before).add name).1 =
      decide (name ∉ s.names ∧ name ∉ before.flatMap Call.names) := by
    rw [add_fst, after_eq_extend, decide_eq_decide, mem_extend, not_or]
  have place := length_answers s before
  rw [answers_append, List.getElem?_append_right (Nat.le_of_eq place), place, Nat.sub_self, ← here]
  rfl

/-! ## Repetitions -/

theorem nodup_insert (distinct : s.names.Nodup) (name : String) : (s.insert name).names.Nodup := by
  rw [names_insert]
  split
  · exact distinct
  · next new => exact List.concat_eq_append ▸ distinct.concat new

theorem nodup_extend (distinct : s.names.Nodup) (names : List String) :
    (s.extend names).names.Nodup := by
  induction names generalizing s with
  | nil => exact distinct
  | cons name rest ih => exact ih (nodup_insert distinct name)

/-! ## Any calls -/

/-- After any calls, a list that may repeat names is followed by the names of the calls that it lacks,
each where it first comes, and exactly for these a call for one name answers that it was added.
Extending a list twice is extending it once by both sequences.  What has no repetition gets none. -/
theorem calls_append_new_names (s : ImportSet) (calls : List Call) :
    (s.after calls).names = s.names ++ newNames s.names (calls.flatMap Call.names) ∧
    (∀ before name later, calls = before ++ .insert name :: later →
      (s.answers calls)[before.length]? =
        some (some (decide (name ∉ s.names ∧ name ∉ before.flatMap Call.names)))) ∧
    (∀ names more, (s.extend names).extend more = s.extend (names ++ more)) ∧
    (s.names.Nodup → (s.after calls).names.Nodup) := by
  rw [after_eq_extend]
  refine ⟨names_extend_new s _, ?_, ?_, fun distinct => nodup_extend distinct _⟩
  · rintro before name later rfl
    exact answer_insert s before later name
  · intro names more
    exact (extend_append s names more).symm

/-- Names that are read twice stay, and nothing comes twice after them. -/
theorem calls_append_new_names_repeated :
    let s : ImportSet := ⟨["java.util.List", "java.util.List"]⟩
    let calls : List Call :=
      [.extend ["java.util.Map", "java.util.List", "java.util.Map"], .insert "java.util.Map",
        .insert "java.util.Set"]
    (s.after calls).names = ["java.util.List", "java.util.List", "java.util.Map", "java.util.Set"] ∧
      (s.answers calls)[1]? = some (some false) ∧ (s.answers calls)[2]? = some (some true) ∧
      (empty.after calls).names.Nodup := by
  intro s calls
  obtain ⟨names, answer, _⟩ := calls_append_new_names s calls
  refine ⟨names, answer [_] _ [_] rfl, answer [_, _] _ [] rfl, ?_⟩
  exact (calls_append_new_names empty calls).2.2.2 List.nodup_nil

end SchemaBinder.ImportSet
