/-!
# Repeating a step

A *step* takes a state to a next state or to a result.  `Iterates m` says that a step in the monad
`m` can be repeated until it gives a result, with no bound on the number of repetitions.

A repetition that never ends has a value in these monads too, of which nothing is known.
`LawfulIterates` says what is known of every repetition: it unfolds step by step.
-/

namespace SchemaBinder

/-- A monad in which a step can be repeated until it gives a result. -/
class Iterates (m : Type → Type) where
  /-- Repeats a step from a state on until it gives a result. -/
  iterate {σ α : Type} [Nonempty α] (step : σ → m (σ ⊕ α)) (start : σ) : m α

export Iterates (iterate)

/-- The repetition of a step is its first step and the repetition of the others. -/
class LawfulIterates (m : Type → Type) [Monad m] [Iterates m] : Prop where
  /-- A repetition unfolds. -/
  iterate_eq {σ α : Type} [Nonempty α] (step : σ → m (σ ⊕ α)) (s : σ) :
    iterate step s = do
      match ← step s with
      | .inl t => iterate step t
      | .inr a => pure a

export LawfulIterates (iterate_eq)

variable {σ α : Type}

/-! ## Without effects -/

instance : Iterates Id where
  iterate step start := repeatM step start

instance : LawfulIterates Id where
  iterate_eq _ s := repeatM_eq_of_monadTail s

/-! ## With exceptions, with a state and with something to read -/

variable {m : Type → Type} [Monad m] [Iterates m] {ε τ ρ : Type}

/-- What a step comes to, with an exception as a result. -/
def caught : Except ε (σ ⊕ α) → σ ⊕ Except ε α
  | .error e => .inr (.error e)
  | .ok (.inl t) => .inl t
  | .ok (.inr a) => .inr (.ok a)

/-- A step with exceptions as a step without. -/
def catchStep (step : σ → ExceptT ε m (σ ⊕ α)) (s : σ) : m (σ ⊕ Except ε α) := do
  return caught (← (step s).run)

instance : Iterates (ExceptT ε m) where
  iterate step start := ExceptT.mk (iterate (catchStep step) start)

/-- A step with a state as a step without: the state is a part of what is repeated. -/
def pairStep (step : σ → StateT τ m (σ ⊕ α)) (p : σ × τ) : m ((σ × τ) ⊕ (α × τ)) := do
  match ← (step p.1).run p.2 with
  | (.inl s, t) => return .inl (s, t)
  | (.inr a, t) => return .inr (a, t)

instance : Iterates (StateT τ m) where
  iterate step start t :=
    haveI : Nonempty τ := ⟨t⟩
    iterate (pairStep step) (start, t)

instance : Iterates (ReaderT ρ m) where
  iterate step start r := iterate (fun s => (step s).run r) start

variable [LawfulMonad m] [LawfulIterates m]

instance : LawfulIterates (ExceptT ε m) where
  iterate_eq step s := by
    apply ExceptT.ext
    show iterate (catchStep step) s = _
    rw [iterate_eq, ExceptT.run_bind, catchStep, bind_assoc]
    refine bind_congr fun next => ?_
    match next with
    | .error e => simp [caught]
    | .ok (.inl t) => simp only [pure_bind, caught]; rfl
    | .ok (.inr a) => simp [caught]

instance : LawfulIterates (StateT τ m) where
  iterate_eq step s := by
    apply StateT.ext
    intro t
    have : Nonempty τ := ⟨t⟩
    show iterate (pairStep step) (s, t) = _
    rw [iterate_eq, StateT.run_bind, pairStep, bind_assoc]
    refine bind_congr fun next => ?_
    match next with
    | (.inl s, t) => simp only [pure_bind]; rfl
    | (.inr a, t) => simp

instance : LawfulIterates (ReaderT ρ m) where
  iterate_eq step s := by
    apply ReaderT.ext
    intro r
    show iterate (fun s => (step s).run r) s = _
    rw [iterate_eq, ReaderT.run_bind]
    refine bind_congr fun next => ?_
    match next with
    | .inl t => rfl
    | .inr a => rfl

end SchemaBinder
