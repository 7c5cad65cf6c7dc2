import SchemaBinder.Fault
import SchemaBinder.Network.Access
import SchemaBinder.Proofs.Iteration
/-!
# Programs on a machine

A program on a machine changes a file tree, and reads a network that answers alike as long as the
program runs.  `runOn` is what comes of it.  Two programs one after the other are run on the same
network, and the second one on the tree that the first one leaves.

`ComesTo` is about programs that may fail and may never end: such a program comes to a result or a
fault, and to a tree, or to nothing.  A program that accesses nothing but files runs on a tree alone
(`Ends`).
-/

namespace SchemaBinder

/-- Programs that change a file tree and read a network. -/
abbrev Machine (m : Type → Type) := ReaderT Network (StateT FileTree m)

section RunOn

variable {m : Type → Type} [Monad m] {α β : Type} (network : Network) (tree : FileTree)

/-- What comes of a program with a network on a file tree, and the tree after that. -/
def runOn (program : Machine m α) : m (α × FileTree) := StateT.run (program.run network) tree

theorem runOn_bind (program : Machine m α) (next : α → Machine m β) :
    runOn network tree (program >>= next) =
      runOn network tree program >>= fun (a, tree) => runOn network tree (next a) := by
  rw [runOn, ReaderT.run_bind, StateT.run_bind]
  rfl

theorem runOn_pure (a : α) : runOn network tree (pure a : Machine m α) = pure (a, tree) := rfl

/-- A program that may fail ends at its first fault. -/
theorem runOn_except_bind (program : ExceptT Fault (Machine m) α)
    (next : α → ExceptT Fault (Machine m) β) :
    runOn network tree (program >>= next).run = runOn network tree program.run >>= fun
      | (.ok a, tree) => runOn network tree (next a).run
      | (.error e, tree) => pure (.error e, tree) := by
  rw [ExceptT.run_bind, runOn_bind]
  refine bind_congr fun (outcome, middle) => ?_
  cases outcome <;> rfl

/-- A part that cannot fail comes to a result. -/
theorem runOn_lift [LawfulMonad m] (program : Machine m α) :
    runOn network tree (liftM program : ExceptT Fault (Machine m) α).run =
      (fun p => (.ok p.1, p.2)) <$> runOn network tree program := by
  show runOn network tree (program >>= fun a => pure (Except.ok a)) = _
  rw [runOn_bind, map_eq_pure_bind]
  rfl

theorem runOn_readText (path : String) :
    runOn (m := m) network tree (FileAccess.readText path) = pure (tree.readText path, tree) :=
  rfl

/-- Writing a file changes the tree if it succeeds. -/
theorem runOn_writeText (path text : String) :
    runOn (m := m) network tree (FileAccess.writeText path text) =
      pure (match tree.writeText path text with
        | .ok next => (.ok (), next)
        | .error e => (.error e, tree)) := by
  show (match tree.writeText path text with
    | .ok next => pure (Except.ok (), next)
    | .error e => pure (Except.error e, tree)) = _
  cases tree.writeText path text <;> rfl

theorem runOn_makeDirectories (path : String) :
    runOn (m := m) network tree (FileAccess.makeDirectories path) =
      pure (tree.makeDirectories path) :=
  rfl

theorem runOn_requestWithin (seconds : UInt64) (url : String) :
    runOn (m := m) network tree (NetworkAccess.requestWithin seconds url) =
      pure (network.replyWithin seconds url, tree) :=
  rfl

end RunOn

/-- A repetition of steps that keep the tree comes to what it comes to without a machine. -/
theorem runOn_iterate_of_kept {network : Network} {tree : FileTree} {ε σ α : Type} [Nonempty α]
    {step : σ → ExceptT ε (Machine Option) (σ ⊕ α)} {alone : σ → ExceptT ε Option (σ ⊕ α)}
    (kept : ∀ s, runOn network tree (step s).run = (alone s).run.map (·, tree)) (s : σ) :
    runOn network tree (iterate step s).run = (iterate alone s).run.map (·, tree) :=
  @run_iterate_except_of_kept σ α ε FileTree tree _
    (fun s => ExceptT.mk ((step s).run.run network)) alone kept s

/-! ## Programs that may fail and may never end -/

section ComesTo

variable {α β : Type} {network : Network} {tree tree' : FileTree} {a : α} {outcome : Except Fault α}

/-- A program on a machine comes to a result or a fault, and to a tree. -/
def ComesTo (network : Network) (program : ExceptT Fault (Machine Option) α) (tree : FileTree)
    (outcome : Except Fault α) (tree' : FileTree) : Prop :=
  runOn network tree program.run = some (outcome, tree')

/-- A program fails if its first part does or what follows it. -/
theorem comesTo_bind_iff {program : ExceptT Fault (Machine Option) α}
    {next : α → ExceptT Fault (Machine Option) β} {last : Except Fault β} :
    ComesTo network (program >>= next) tree last tree' ↔
      (∃ e, ComesTo network program tree (.error e) tree' ∧ last = .error e) ∨
        ∃ a middle, ComesTo network program tree (.ok a) middle ∧
          ComesTo network (next a) middle last tree' := by
  simp only [ComesTo]
  rw [runOn_except_bind]
  cases runOn network tree program.run with
  | none => simp
  | some first =>
    obtain ⟨e | a, middle⟩ := first
    · show some (Except.error e, middle) = some (last, tree') ↔ _
      rw [Option.some.injEq, Prod.mk.injEq, and_comm]
      simp [eq_comm, and_assoc]
    · simp [and_assoc]

/-- A program that keeps the tree comes to one thing. -/
theorem comesTo_iff_of_runOn {program : ExceptT Fault (Machine Option) α} {x : Except Fault α}
    (ran : runOn network tree program.run = some (x, tree)) :
    ComesTo network program tree outcome tree' ↔ outcome = x ∧ tree' = tree := by
  rw [ComesTo, ran]
  simp [eq_comm]

theorem comesTo_pure_iff : ComesTo network (pure a) tree outcome tree' ↔
    outcome = .ok a ∧ tree' = tree :=
  comesTo_iff_of_runOn rfl

theorem comesTo_throw_iff {e : Fault} : ComesTo network (throw e) tree outcome tree' ↔
    outcome = .error e ∧ tree' = tree :=
  comesTo_iff_of_runOn rfl

end ComesTo

/-! ## Programs on a tree alone -/

section Ends

variable {α β : Type} {tree tree' : FileTree}

/-- A program on a tree that may fail comes to a result and a tree. -/
def Ends (program : ExceptT Fault (StateT FileTree Id) α) (tree : FileTree) (a : α)
    (tree' : FileTree) : Prop :=
  StateT.run (m := Id) program.run tree = (.ok a, tree')

theorem ends_bind_iff {program : ExceptT Fault (StateT FileTree Id) α}
    {next : α → ExceptT Fault (StateT FileTree Id) β} {b : β} :
    Ends (program >>= next) tree b tree' ↔
      ∃ a middle, Ends program tree a middle ∧ Ends (next a) middle b tree' := by
  rw [Ends, ExceptT.run_bind, StateT.run_bind]
  constructor
  · intro ended
    cases first : StateT.run program.run tree with
    | mk outcome middle =>
      rw [first] at ended
      cases outcome with
      | ok a => exact ⟨a, middle, first, ended⟩
      | error e => cases ended
  · rintro ⟨a, middle, first, rest⟩
    rw [Ends] at first
    rw [first]
    exact rest

theorem ends_pure_iff {a b : α} : Ends (pure a) tree b tree' ↔ b = a ∧ tree' = tree := by
  constructor
  · rintro ⟨⟩
    exact ⟨rfl, rfl⟩
  · rintro ⟨rfl, rfl⟩
    rfl

theorem ends_mk_iff {x : Except Fault α} {a : α} :
    Ends (ExceptT.mk (pure x)) tree a tree' ↔ x = .ok a ∧ tree' = tree := by
  constructor
  · rintro ⟨⟩
    exact ⟨rfl, rfl⟩
  · rintro ⟨rfl, rfl⟩
    rfl

theorem ends_lift_iff {program : StateT FileTree Id α} {a : α} :
    Ends (liftM program) tree a tree' ↔ StateT.run (m := Id) program tree = (a, tree') := by
  show StateT.run (m := Id) (program >>= fun a => pure (Except.ok a)) tree = _ ↔ _
  rw [StateT.run_bind]
  constructor
  · rintro ⟨⟩
    rfl
  · intro ended
    rw [ended]
    rfl

theorem run_writeText_eq_ok_iff {path text : String} :
    StateT.run (m := Id) (FileAccess.writeText path text) tree = (.ok (), tree') ↔
      tree.writeText path text = .ok tree' := by
  cases written : tree.writeText path text with
  | ok made =>
    have ran : StateT.run (m := Id) (FileAccess.writeText path text) tree = (.ok (), made) := by
      simp only [StateT.run, FileAccess.writeText, written]
      rfl
    rw [ran]
    constructor <;> rintro ⟨⟩ <;> rfl
  | error e =>
    have ran : StateT.run (m := Id) (FileAccess.writeText path text) tree = (.error e, tree) := by
      simp only [StateT.run, FileAccess.writeText, written]
      rfl
    rw [ran]
    constructor <;> rintro ⟨⟩

end Ends

end SchemaBinder
