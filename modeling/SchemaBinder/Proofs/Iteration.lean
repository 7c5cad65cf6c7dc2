import Mathlib.Data.PFun
import SchemaBinder.Iteration
/-!
# Repetitions that end

`Option` is the monad in which it can be seen whether a repetition ends: the repetition of steps
that succeed is `none` if and only if it never does.  What comes out of a repetition has been
reached by finitely many steps, so that induction applies (`iterate_induct`).

A state that every step keeps can be left away (`run_iterate_of_kept`).
-/

namespace SchemaBinder

variable {σ α ε : Type}

/-- A step that may fail as a partial function. -/
def partialStep (step : σ → Option (σ ⊕ α)) : σ →. α ⊕ σ :=
  fun s => Part.ofOption ((step s).map Sum.swap)

@[simp] theorem inr_mem_partialStep {step : σ → Option (σ ⊕ α)} {s t : σ} :
    .inr t ∈ partialStep step s ↔ step s = some (.inl t) := by
  cases taken : step s with
  | none => simp [partialStep, taken]
  | some next => cases next <;> simp [partialStep, taken, eq_comm]

@[simp] theorem inl_mem_partialStep {step : σ → Option (σ ⊕ α)} {s : σ} {a : α} :
    .inl a ∈ partialStep step s ↔ step s = some (.inr a) := by
  cases taken : step s with
  | none => simp [partialStep, taken]
  | some next => cases next <;> simp [partialStep, taken, eq_comm]

open Classical in
noncomputable instance : Iterates Option where
  iterate step start := ((partialStep step).fix start).toOption

theorem iterate_eq_some_iff [Nonempty α] {step : σ → Option (σ ⊕ α)} {s : σ} {a : α} :
    iterate step s = some a ↔ a ∈ (partialStep step).fix s := by
  classical exact Part.toOption_eq_some_iff

instance : LawfulIterates Option where
  iterate_eq step s := by
    refine Option.ext fun a => ?_
    rw [iterate_eq_some_iff, PFun.mem_fix_iff]
    simp only [inl_mem_partialStep, inr_mem_partialStep]
    cases step s with
    | none => simp
    | some next =>
      cases next with
      | inl t => simp [iterate_eq_some_iff]
      | inr b => simp

/-- What every last step establishes, and what every other step carries back from the next state,
holds of every repetition that gives a result. -/
theorem iterate_induct [Nonempty α] (step : σ → Option (σ ⊕ α)) {motive : σ → α → Prop}
    (last : ∀ s a, step s = some (.inr a) → motive s a)
    (next : ∀ s t a, step s = some (.inl t) → motive t a → motive s a)
    {s : σ} {a : α} (result : iterate step s = some a) : motive s a := by
  rw [iterate_eq_some_iff] at result
  refine PFun.fixInduction' (C := fun s => motive s a) result ?_ ?_
  · intro s stops
    exact last s a (inl_mem_partialStep.1 stops)
  · intro s t _ continues known
    exact next s t a (inr_mem_partialStep.1 continues) known

/-- `iterate_induct` for a step with exceptions, which may also be the last one by an exception. -/
theorem iterate_induct_except [Nonempty α] (step : σ → ExceptT ε Option (σ ⊕ α))
    {motive : σ → Except ε α → Prop}
    (fails : ∀ s e, (step s).run = some (.error e) → motive s (.error e))
    (last : ∀ s a, (step s).run = some (.ok (.inr a)) → motive s (.ok a))
    (next : ∀ s t r, (step s).run = some (.ok (.inl t)) → motive t r → motive s r)
    {s : σ} {r : Except ε α} (result : (iterate step s).run = some r) : motive s r := by
  have run : ∀ s, catchStep step s = (step s).run.map caught := by
    intro s
    cases taken : (step s).run <;> simp [catchStep, taken]
  refine iterate_induct (catchStep step) ?_ ?_ result
  · intro s r taken
    rw [run, Option.map_eq_some_iff] at taken
    obtain ⟨e | t | a, taken, same⟩ := taken
    · cases same
      exact fails s e taken
    · cases same
    · cases same
      exact last s a taken
  · intro s t r taken known
    rw [run, Option.map_eq_some_iff] at taken
    obtain ⟨e | t | a, taken, same⟩ := taken
    · cases same
    · cases same
      exact next s t r taken known
    · cases same

/-! ## States that are kept -/

section Kept

variable {τ : Type} {t : τ}

/-- A step on a pair keeps the state, as the step does that it is made from. -/
theorem pairStep_of_kept {step : σ → StateT τ Option (σ ⊕ α)} {alone : σ → Option (σ ⊕ α)}
    (kept : ∀ s, (step s).run t = (alone s).map (·, t)) (s : σ) :
    pairStep step (s, t) = (alone s).map (Sum.map (·, t) (·, t)) := by
  rw [pairStep, kept]
  rcases alone s with _ | _ | _ <;> rfl

/-- A repetition of steps that keep the state comes to what it comes to without the state. -/
theorem run_iterate_of_kept [Nonempty α] {step : σ → StateT τ Option (σ ⊕ α)}
    {alone : σ → Option (σ ⊕ α)} (kept : ∀ s, (step s).run t = (alone s).map (·, t)) (s : σ) :
    (iterate step s).run t = (iterate alone s).map (·, t) := by
  have : Nonempty τ := ⟨t⟩
  show iterate (pairStep step) (s, t) = _
  have forth {p : σ × τ} {r : α × τ} (result : iterate (pairStep step) p = some r) :
      p.2 = t → ∃ a, iterate alone p.1 = some a ∧ (a, t) = r := by
    refine iterate_induct (motive := fun p r =>
      p.2 = t → ∃ a, iterate alone p.1 = some a ∧ (a, t) = r) _ ?_ ?_ result
    · rintro ⟨s, _⟩ r taken rfl
      rw [pairStep_of_kept kept, Option.map_eq_some_iff] at taken
      obtain ⟨_ | a, taken, ⟨⟩⟩ := taken
      exact ⟨a, by rw [iterate_eq, taken]; rfl, rfl⟩
    · rintro ⟨s, _⟩ next r taken known rfl
      rw [pairStep_of_kept kept, Option.map_eq_some_iff] at taken
      obtain ⟨next | _, taken, ⟨⟩⟩ := taken
      obtain ⟨a, result, same⟩ := known rfl
      exact ⟨a, by rw [iterate_eq, taken]; exact result, same⟩
  have back {a : α} (result : iterate alone s = some a) :
      iterate (pairStep step) (s, t) = some (a, t) := by
    refine iterate_induct (motive := fun s a => iterate (pairStep step) (s, t) = some (a, t))
      _ ?_ ?_ result
    · intro s a taken
      rw [iterate_eq, pairStep_of_kept kept, taken]
      rfl
    · intro s next a taken known
      rw [iterate_eq, pairStep_of_kept kept, taken]
      exact known
  refine Option.ext fun r => ?_
  rw [Option.map_eq_some_iff]
  constructor
  · intro result
    exact forth result rfl
  · rintro ⟨a, result, rfl⟩
    exact back result

/-- `run_iterate_of_kept` for steps with exceptions. -/
theorem run_iterate_except_of_kept [Nonempty α] {step : σ → ExceptT ε (StateT τ Option) (σ ⊕ α)}
    {alone : σ → ExceptT ε Option (σ ⊕ α)}
    (kept : ∀ s, StateT.run (step s).run t = (alone s).run.map (·, t)) (s : σ) :
    StateT.run (iterate step s).run t = (iterate alone s).run.map (·, t) := by
  show StateT.run (iterate (catchStep step) s) t = (iterate (catchStep alone) s).map (·, t)
  refine run_iterate_of_kept (fun s => ?_) s
  rw [catchStep, StateT.run_bind, kept, catchStep]
  cases (alone s).run <;> rfl

end Kept

end SchemaBinder
