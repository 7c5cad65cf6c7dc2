import SchemaBinder.Fault
/-!
# Binding a list of elements

Models and operations are bound in place, one after the other.  The first failure ends the run:
the elements before are bound, the later ones are not reached, and the one that failed is as its
own binding has left it.
-/

namespace SchemaBinder

/-- What changes an element in place and may fail at any point. -/
abbrev Change (α : Type) := ExceptT Fault (StateM α)

/-- The outcome of a change of an element, and the element after it. -/
def Change.on {α β : Type} (change : Change α β) (a : α) : Except Fault β × α :=
  (ExceptT.run change).run a

namespace Change

variable {α β γ : Type} (a : α)

theorem on_get : on get a = (.ok a, a) := rfl

theorem on_lift (x : Except Fault β) : on (ExceptT.mk (pure x)) a = (x, a) := rfl

theorem on_bind (change : Change α β) (next : β → Change α γ) :
    on (change >>= next) a =
      match on change a with
      | (.ok b, a) => on (next b) a
      | (.error e, a) => (.error e, a) := by
  unfold on ExceptT.run StateT.run
  simp only [bind, ExceptT.bind, ExceptT.mk, StateT.bind]
  match change a with
  | (.ok b, a) => rfl
  | (.error e, a) => rfl

end Change

/-- How far a list has been bound. -/
structure Progress (α : Type) where
  /-- The elements, bound as far as it went. -/
  elements : List α
  /-- Why it stopped, if it did. -/
  fault : Option Fault

namespace Progress

variable {α : Type}

/-- Changes the elements of a list up to the first that fails. -/
def ofEach (change : Change α Unit) : List α → Progress α
  | [] => ⟨[], none⟩
  | a :: rest =>
    match Change.on change a with
    | (.error e, a) => ⟨a :: rest, some e⟩
    | (.ok (), a) =>
      let p := ofEach change rest
      ⟨a :: p.elements, p.fault⟩

/-- The elements if all are bound, or the fault. -/
def result (p : Progress α) : Except Fault (List α) :=
  match p.fault with
  | none => .ok p.elements
  | some e => .error e

end Progress

end SchemaBinder
