import Mathlib.Data.List.Forall2
import SchemaBinder.Fault
/-!
# Lists that are related element by element

A list that is read, made or bound element by element is related to its results by `List.Forall₂`.
What follows for such lists whatever the elements are is stated here.
-/

namespace SchemaBinder

variable {α β γ ε : Type} {R : α → β → Prop} {as : List α} {bs : List β}

/-! ## Elements -/

theorem exists_of_mem_left (each : List.Forall₂ R as bs) : ∀ a ∈ as, ∃ b ∈ bs, R a b := by
  induction each with
  | nil => exact List.forall_mem_nil _
  | @cons a b _ _ here _ ih =>
    refine List.forall_mem_cons.2 ⟨⟨b, List.mem_cons_self, here⟩, fun a member => ?_⟩
    obtain ⟨b', there, related⟩ := ih a member
    exact ⟨b', List.mem_cons_of_mem b there, related⟩

theorem exists_of_mem_right (each : List.Forall₂ R as bs) : ∀ b ∈ bs, ∃ a ∈ as, R a b :=
  exists_of_mem_left each.flip

/-- Two relations between lists, one after the other. -/
theorem forall₂_comp {S : β → γ → Prop} {cs : List γ} (first : List.Forall₂ R as bs)
    (second : List.Forall₂ S bs cs) : List.Forall₂ (fun a c => ∃ b, R a b ∧ S b c) as cs := by
  induction first generalizing cs with
  | nil =>
    cases second
    exact .nil
  | @cons a b _ _ here _ ih =>
    cases second with
    | cons next later => exact .cons ⟨b, here, next⟩ (ih later)

/-! ## Traversals -/

theorem mapM_of_forall₂ {f : α → Except ε β}
    (each : List.Forall₂ (fun a b => f a = .ok b) as bs) : as.mapM f = .ok bs := by
  induction each with
  | nil => rfl
  | cons here _ ih =>
    rw [List.mapM_cons, here, ih]
    rfl

/-- Elements for which a step comes to the same are traversed to the same. -/
theorem mapM_congr_of_forall₂ {f : α → Except ε γ} {g : β → Except ε γ}
    (same : List.Forall₂ (fun a b => f a = g b) as bs) : as.mapM f = bs.mapM g := by
  induction same with
  | nil => rfl
  | cons here _ ih => rw [List.mapM_cons, List.mapM_cons, here, ih]

/-! ## Search -/

/-- What is looked for by its code is found in both lists or in none. -/
theorem rel_find? {code : α → String} {code' : β → String} (each : List.Forall₂ R as bs)
    (coded : ∀ a b, R a b → code' b = code a) (wanted : String → Bool) :
    Option.Rel R (as.find? fun a => wanted (code a)) (bs.find? fun b => wanted (code' b)) := by
  induction each with
  | nil => exact .none
  | @cons a b _ _ here _ ih =>
    rw [List.find?_cons, List.find?_cons, coded a b here]
    cases wanted (code a) with
    | true => exact .some here
    | false => exact ih

theorem rel_or {a a' : Option α} {b b' : Option β} (first : Option.Rel R a b)
    (second : Option.Rel R a' b') : Option.Rel R (a.or a') (b.or b') := by
  cases first with
  | some here => exact .some here
  | none => exact second

end SchemaBinder
