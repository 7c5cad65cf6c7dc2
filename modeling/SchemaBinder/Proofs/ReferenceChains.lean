import SchemaBinder.Document
/-!
# Chains of references

A reference leads to another value of its document, which may be a reference again.  `Follows` says
that so many references lead from one value to another, and `Stuck` that a reference leads nowhere:
it points out of the document, or to a place where there is nothing.

`Document.resolve` follows a chain reference by reference, and its bound is spent on values rather
than on references: the value at the end of a chain takes up one step of its own.  So a chain is
resolved if it has fewer references than the bound, and one with just as many is refused
(`Document.reference_chains_resolve`, `Document.chain_at_bound_refused`).
-/

namespace SchemaBinder.Document

variable {doc : Document} {start u v w : Json} {m n limit : Nat} {cause : SchemaFault}
  {outcome : Except Fault Json}

/-! ## Following references -/

/-- The value is a reference to a place in the document, and another value stands there. -/
def RefersTo (doc : Document) (v w : Json) : Prop :=
  ∃ pointer, v.getStr? "$ref" = some ("#" ++ pointer) ∧ doc.root.pointer? pointer = some w

/-- The value is a reference that leads nowhere, which is a fault. -/
inductive Stuck (doc : Document) (v : Json) : SchemaFault → Prop where
  /-- It points out of the document. -/
  | external {reference : String} : v.getStr? "$ref" = some reference →
      (∀ pointer, reference ≠ "#" ++ pointer) → Stuck doc v (.externalReference reference)
  /-- Nothing stands where it points to. -/
  | dangling {pointer : String} : v.getStr? "$ref" = some ("#" ++ pointer) →
      doc.root.pointer? pointer = none → Stuck doc v (.danglingReference ("#" ++ pointer))

/-- So many references, one after the other, lead from a value to another one. -/
inductive Follows (doc : Document) : Nat → Json → Json → Prop where
  | refl (v : Json) : Follows doc 0 v v
  | step {n : Nat} {v u w : Json} : doc.RefersTo v u → Follows doc n u w → Follows doc (n + 1) v w

/-- The chain that starts at the value comes to a value a second time. -/
def Loops (doc : Document) (v : Json) : Prop :=
  ∃ u m n, doc.Follows m v u ∧ doc.Follows (n + 1) u u

theorem Follows.trans (first : doc.Follows m v u) (second : doc.Follows n u w) :
    doc.Follows (m + n) v w := by
  induction first with
  | refl => rwa [Nat.zero_add]
  | @step m v t u leads _ ih =>
    rw [Nat.add_right_comm]
    exact .step leads (ih second)

/-- A chain passes through values at every distance up to its length. -/
theorem Follows.exists_of_le (follows : doc.Follows n v w) (le : m ≤ n) :
    ∃ u, doc.Follows m v u := by
  induction follows generalizing m with
  | refl v => exact ⟨v, Nat.le_zero.1 le ▸ .refl v⟩
  | @step n v t w leads _ ih =>
    cases m with
    | zero => exact ⟨v, .refl v⟩
    | succ m =>
      obtain ⟨u, later⟩ := ih (Nat.le_of_succ_le_succ le)
      exact ⟨u, .step leads later⟩

theorem Follows.iterate (loop : doc.Follows n u u) (m : Nat) : doc.Follows (m * n) u u := by
  induction m with
  | zero => rw [Nat.zero_mul]; exact .refl u
  | succ m ih => rw [Nat.succ_mul]; exact ih.trans loop

/-- A chain that loops has references without end. -/
theorem Loops.exists_follows (loops : doc.Loops v) (m : Nat) : ∃ w, doc.Follows m v w := by
  obtain ⟨u, first, n, leads, loop⟩ := loops
  refine (leads.trans (loop.iterate m)).exists_of_le ?_
  calc
    m ≤ m * (n + 1) := Nat.le_mul_of_pos_right m n.succ_pos
    _ ≤ first + m * (n + 1) := Nat.le_add_left _ _

/-! ## One value of a chain -/

theorem resolveFrom_of_plain (plain : v.getStr? "$ref" = none) :
    doc.resolveFrom start (limit + 1) v = .ok v := by
  rw [resolveFrom, plain]

theorem resolveFrom_of_refersTo (leads : doc.RefersTo v w) :
    doc.resolveFrom start (limit + 1) v = doc.resolveFrom start limit w := by
  obtain ⟨pointer, refers, found⟩ := leads
  have there : doc.target ("#" ++ pointer) = .ok w := by
    rw [target, Text.dropStart?_eq_some_iff.2 rfl]
    dsimp only
    rw [found]
  rw [resolveFrom, refers]
  dsimp only
  rw [there]

theorem resolveFrom_of_stuck (stuck : doc.Stuck v cause) :
    doc.resolveFrom start (limit + 1) v = .error (.schema cause) := by
  rw [resolveFrom]
  cases stuck with
  | @external reference refers outside =>
    have none : Text.dropStart? "#" reference = none := by
      rw [Option.eq_none_iff_forall_ne_some]
      exact fun pointer within => outside pointer (Text.dropStart?_eq_some_iff.1 within)
    rw [refers]
    dsimp only
    rw [target, none]
  | dangling refers missing =>
    rw [refers]
    dsimp only
    rw [target, Text.dropStart?_eq_some_iff.2 rfl]
    dsimp only
    rw [missing]

/-- A value is no reference, or it leads to another value, or it leads nowhere. -/
theorem plain_or_refersTo_or_stuck (doc : Document) (v : Json) :
    v.getStr? "$ref" = none ∨ (∃ w, doc.RefersTo v w) ∨ ∃ cause, doc.Stuck v cause := by
  cases refers : v.getStr? "$ref" with
  | none => exact .inl rfl
  | some reference =>
    refine .inr ?_
    cases within : Text.dropStart? "#" reference with
    | none =>
      refine .inr ⟨_, .external refers fun pointer same => ?_⟩
      rw [Text.dropStart?_eq_some_iff.2 same] at within
      cases within
    | some pointer =>
      obtain rfl := Text.dropStart?_eq_some_iff.1 within
      cases found : doc.root.pointer? pointer with
      | none => exact .inr ⟨_, .dangling refers found⟩
      | some w => exact .inl ⟨w, pointer, refers, found⟩

/-! ## Whole chains -/

/-- Each reference of a chain takes one from the limit. -/
theorem resolveFrom_of_follows (follows : doc.Follows n v w) :
    doc.resolveFrom start (n + limit) v = doc.resolveFrom start limit w := by
  induction follows with
  | refl => rw [Nat.zero_add]
  | step leads _ ih => rw [Nat.add_right_comm, resolveFrom_of_refersTo leads, ih]

/-- What following references up to a limit comes to. -/
inductive ChainEnds (doc : Document) (start : Json) (limit : Nat) (v : Json) :
    Except Fault Json → Prop where
  | value {n : Nat} {w : Json} : n < limit → doc.Follows n v w → w.getStr? "$ref" = none →
      ChainEnds doc start limit v (.ok w)
  | stuck {n : Nat} {u : Json} {cause : SchemaFault} : n < limit → doc.Follows n v u →
      doc.Stuck u cause → ChainEnds doc start limit v (.error (.schema cause))
  | deep {u : Json} : doc.Follows limit v u →
      ChainEnds doc start limit v (.error (.schema (.deepReference maxReferences start)))

theorem ChainEnds.step (leads : doc.RefersTo v w) (ends : doc.ChainEnds start limit w outcome) :
    doc.ChainEnds start (limit + 1) v outcome := by
  cases ends with
  | value within follows plain => exact .value (Nat.succ_lt_succ within) (.step leads follows) plain
  | stuck within follows stuck => exact .stuck (Nat.succ_lt_succ within) (.step leads follows) stuck
  | deep follows => exact .deep (.step leads follows)

theorem chainEnds_resolveFrom (doc : Document) (start : Json) (limit : Nat) (v : Json) :
    doc.ChainEnds start limit v (doc.resolveFrom start limit v) := by
  induction limit generalizing v with
  | zero => exact .deep (.refl v)
  | succ limit ih =>
    rcases doc.plain_or_refersTo_or_stuck v with plain | ⟨w, leads⟩ | ⟨cause, stuck⟩
    · rw [resolveFrom_of_plain plain]
      exact .value limit.succ_pos (.refl v) plain
    · rw [resolveFrom_of_refersTo leads]
      exact (ih w).step leads
    · rw [resolveFrom_of_stuck stuck]
      exact .stuck limit.succ_pos (.refl v) stuck

theorem resolveFrom_eq_iff_chainEnds :
    doc.resolveFrom start limit v = outcome ↔ doc.ChainEnds start limit v outcome := by
  constructor
  · rintro rfl
    exact doc.chainEnds_resolveFrom start limit v
  · intro ends
    cases ends with
    | value within follows plain =>
      obtain ⟨rest, rfl⟩ := Nat.exists_eq_add_of_lt within
      rw [Nat.add_assoc, resolveFrom_of_follows follows, resolveFrom_of_plain plain]
    | stuck within follows stuck =>
      obtain ⟨rest, rfl⟩ := Nat.exists_eq_add_of_lt within
      rw [Nat.add_assoc, resolveFrom_of_follows follows, resolveFrom_of_stuck stuck]
    | @deep u follows =>
      show doc.resolveFrom start (limit + 0) v = doc.resolveFrom start 0 u
      exact resolveFrom_of_follows follows

/-- Resolving a value ends at the value that its chain of references ends at, if the chain has fewer
references than the bound.  It fails at the first reference that leads nowhere, if fewer than the
bound come before it.  Every other chain, in particular one that loops, is too deep. -/
theorem reference_chains_resolve (doc : Document) (v : Json) :
    (∀ w, doc.resolve v = .ok w ↔
      w.getStr? "$ref" = none ∧ ∃ n < maxReferences, doc.Follows n v w) ∧
    (∀ fault, doc.resolve v = .error fault ↔
      (∃ n < maxReferences, ∃ u cause, doc.Follows n v u ∧ doc.Stuck u cause ∧
        fault = .schema cause) ∨
      (∃ u, doc.Follows maxReferences v u) ∧
        fault = .schema (.deepReference maxReferences v)) ∧
    (doc.Loops v → doc.resolve v = .error (.schema (.deepReference maxReferences v))) := by
  refine ⟨fun w => resolveFrom_eq_iff_chainEnds.trans ⟨fun ends => ?_, ?_⟩,
    fun fault => resolveFrom_eq_iff_chainEnds.trans ⟨fun ends => ?_, ?_⟩, fun loops => ?_⟩
  · cases ends with
    | value within follows plain => exact ⟨plain, _, within, follows⟩
  · rintro ⟨plain, n, within, follows⟩
    exact .value within follows plain
  · cases ends with
    | stuck within follows stuck => exact .inl ⟨_, within, _, _, follows, stuck, rfl⟩
    | deep follows => exact .inr ⟨⟨_, follows⟩, rfl⟩
  · rintro (⟨n, within, u, cause, follows, stuck, rfl⟩ | ⟨⟨u, follows⟩, rfl⟩)
    · exact .stuck within follows stuck
    · exact .deep follows
  · obtain ⟨u, follows⟩ := loops.exists_follows maxReferences
    exact resolveFrom_eq_iff_chainEnds.2 (.deep follows)

/-! ## Chains in a list -/

/-- A reference to a place in the document. -/
def placeReference (place : String) : Json := .obj [("$ref", .str ("#/" ++ place))]

/-- A reference to an item of the list of a chain. -/
def itemReference (n : Nat) : Json := placeReference ("chain/" ++ toString n)

/-- The object at the end of a chain. -/
def chainEnd : Json := .obj [("name", .str "id"), ("in", .str "query")]

/-- A document with a list of so many references, each to the next item, with an object behind them,
and with two references to each other. -/
def chained (n : Nat) : Document :=
  ⟨.obj [("chain", .arr ((List.range n).map (itemReference <| · + 1) ++ [chainEnd])),
    ("a", placeReference "b"), ("b", placeReference "a")]⟩

theorem reference_chains_resolve_chained :
    (chained 30).resolve (itemReference 0) = .ok chainEnd ∧
      (∃ n < maxReferences, (chained 30).Follows n (itemReference 0) chainEnd) ∧
      (chained 30).Loops (placeReference "a") ∧
      (chained 30).resolve (placeReference "a") =
        .error (.schema (.deepReference maxReferences (placeReference "a"))) := by
  have resolved : (chained 30).resolve (itemReference 0) = .ok chainEnd := rfl
  have loops : (chained 30).Loops (placeReference "a") :=
    ⟨_, 0, 1, .refl _, .step ⟨"/a", rfl, rfl⟩ (.step ⟨"/b", rfl, rfl⟩ (.refl _))⟩
  obtain ⟨_, follows⟩ := ((reference_chains_resolve _ _).1 chainEnd).1 resolved
  exact ⟨resolved, follows, loops, (reference_chains_resolve _ _).2.2 loops⟩

/-- A chain with just as many references as the bound ends at an object, and is refused. -/
theorem chain_at_bound_refused :
    (chained 31).Follows maxReferences (itemReference 0) chainEnd ∧
      chainEnd.getStr? "$ref" = none ∧
      (chained 31).resolve (itemReference 0) =
        .error (.schema (.deepReference maxReferences (itemReference 0))) := by
  have refused : (chained 31).resolve (itemReference 0) =
      .error (.schema (.deepReference maxReferences (itemReference 0))) := rfl
  -- one step more is enough, so the chain has no more references than the bound
  have further : (chained 31).resolveFrom (itemReference 0) (maxReferences + 1) (itemReference 0) =
      .ok chainEnd := rfl
  refine ⟨?_, rfl, refused⟩
  cases resolveFrom_eq_iff_chainEnds.1 further with
  | @value n _ within follows plain =>
    rcases Nat.lt_succ_iff_lt_or_eq.1 within with shorter | rfl
    · have resolved : (chained 31).resolve (itemReference 0) = .ok chainEnd :=
        resolveFrom_eq_iff_chainEnds.2 (.value shorter follows plain)
      cases refused.symm.trans resolved
    · exact follows

end SchemaBinder.Document
