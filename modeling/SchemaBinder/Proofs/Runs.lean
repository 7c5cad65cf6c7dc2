import SchemaBinder.Proofs.Mapping.Files
import SchemaBinder.Proofs.Mapping.Precedence
import SchemaBinder.Proofs.Session
import SchemaBinder.Url.PlainNames
/-!
# Runs of a session

A session is asked for its registry or for a hand-off document, again and again, and between two
requests the files may become any others, and the network may answer in any other way.

One run of a session without a registry tries to build one from the files and the network as they are
(`on_of_unbuilt`), and one of a session with a registry reads nothing (`on_of_registry`).  By
induction over the runs, the answers are those of failed builds up to the first build that
succeeds, and those of its registry from then on (`answers_of_build`).
-/

namespace SchemaBinder.Session

/-- What a session is asked for. -/
inductive Request where
  /-- The registry. -/
  | registry
  /-- The hand-off document of a schema document. -/
  | process (doc : Document) (target : Target)

/-- A request, and the network and the files as they are when it is made. -/
structure Run where
  /-- The network. -/
  network : Network
  /-- The files. -/
  files : FileTree
  /-- The request. -/
  request : Request

/-- What comes of a request. -/
inductive Answer where
  /-- To a request for the registry. -/
  | registry (found : Except Fault TypeRegistry)
  /-- To a request for a hand-off document. -/
  | handOff (made : Except Fault HandOff)

section Runs

variable [DomainNames]

namespace Request

variable {m : Type → Type} [Monad m] [Iterates m] [FileAccess m] [NetworkAccess m]

/-- What comes of a request to a session, and the session after that. -/
def perform (request : Request) (s : Session) : m (Answer × Session) :=
  match request with
  | .registry => return (← s.getRegistry).map .registry id
  | .process doc target => return (← s.process doc target).map .handOff id

/-- What comes of a request if this is known of the registry. -/
def answer (request : Request) (config : Config) (found : Except Fault TypeRegistry) : Answer :=
  match request with
  | .registry => .registry found
  | .process doc target => .handOff (found.bind fun r => HandOff.ofDocument config r doc target)

/-- The request fails. -/
def failed (request : Request) (e : Fault) : Answer :=
  match request with
  | .registry => .registry (.error e)
  | .process _ _ => .handOff (.error e)

theorem answer_error (request : Request) (config : Config) (e : Fault) :
    request.answer config (.error e) = request.failed e := by
  cases request <;> rfl

end Request

/-! ## One run -/

/-- What a session builds from the network and the files as they are. -/
def builtOn (s : Session) (network : Network) (files : FileTree) : Except Fault TypeRegistry :=
  (runOn (m := Id) network files s.build.run).1

/-- What comes of a run, and the session after that. -/
def on (s : Session) (run : Run) : Answer × Session :=
  (runOn (m := Id) run.network run.files (run.request.perform s)).1

variable {s : Session} {r : TypeRegistry} {e : Fault} {k : Nat}

/-- A session with a registry answers with it, whatever there is to be read, and stays what it is. -/
theorem on_of_registry (known : s.registry = some r) (run : Run) :
    s.on run = (run.request.answer s.config (.ok r), s) := by
  obtain ⟨network, files, request⟩ := run
  cases request with
  | registry =>
    show (runOn (m := Id) network files (s.getRegistry >>= _)).1 = _
    rw [runOn_bind, getRegistry_of_registry known]
    rfl
  | process doc target =>
    show (runOn (m := Id) network files (s.process doc target >>= _)).1 = _
    rw [runOn_bind, process_of_registry known]
    rfl

/-- A session without a registry builds one from the network and the files as they are, and keeps what
it gets. -/
theorem getRegistry_of_unbuilt (unbuilt : s.registry = none) (network : Network)
    (files : FileTree) :
    (runOn (m := Id) network files s.getRegistry).1 =
      (s.builtOn network files, { s with registry := (s.builtOn network files).toOption }) := by
  obtain ⟨config, manifest, registry⟩ := s
  cases unbuilt
  unfold getRegistry builtOn
  dsimp only
  rw [runOn_bind]
  generalize runOn (m := Id) network files (build _).run = built
  obtain ⟨outcome, after⟩ := built
  cases outcome <;> rfl

/-- A run of a session without a registry builds one. -/
theorem on_of_unbuilt (unbuilt : s.registry = none) (run : Run) :
    s.on run = (run.request.answer s.config (s.builtOn run.network run.files),
      { s with registry := (s.builtOn run.network run.files).toOption }) := by
  obtain ⟨network, files, request⟩ := run
  have looked := getRegistry_of_unbuilt unbuilt network files
  generalize first : runOn (m := Id) network files s.getRegistry = found at looked
  obtain ⟨_, after⟩ := found
  cases looked
  cases request with
  | registry =>
    show (runOn (m := Id) network files (s.getRegistry >>= _)).1 = _
    rw [runOn_bind, first]
    rfl
  | process doc target =>
    show (runOn (m := Id) network files ((s.getRegistry >>= _) >>= _)).1 = _
    rw [runOn_bind, runOn_bind, first]
    rfl

/-! ## All runs -/

/-- What comes of runs made one after the other. -/
def answers : Session → List Run → List Answer
  | _, [] => []
  | s, run :: runs => (s.on run).1 :: (s.on run).2.answers runs

/-- The session after some runs. -/
def afterwards : Session → List Run → Session
  | s, [] => s
  | s, run :: runs => (s.on run).2.afterwards runs

theorem answers_append (s : Session) (first later : List Run) :
    s.answers (first ++ later) = s.answers first ++ (s.afterwards first).answers later := by
  induction first generalizing s with
  | nil => rfl
  | cons run first ih => exact congrArg ((s.on run).1 :: ·) (ih (s.on run).2)

theorem afterwards_append (s : Session) (first later : List Run) :
    s.afterwards (first ++ later) = (s.afterwards first).afterwards later := by
  induction first generalizing s with
  | nil => rfl
  | cons run first ih => exact ih (s.on run).2

/-- A session with a registry answers every run alone. -/
theorem answers_of_registry (known : s.registry = some r) (runs : List Run) :
    s.answers runs = runs.map (·.request.answer s.config (.ok r)) ∧ s.afterwards runs = s := by
  induction runs with
  | nil => exact ⟨rfl, rfl⟩
  | cons run runs ih =>
    simp only [answers, afterwards, on_of_registry known run, ih, List.map_cons, and_self]

/-- As long as no registry can be built, each run answers with the network and the files as they are
then, and the session stays what it is. -/
theorem answers_of_unbuilt (unbuilt : s.registry = none) {runs : List Run}
    (fails : ∀ run ∈ runs, ∃ e, s.builtOn run.network run.files = .error e) :
    s.answers runs = runs.map (fun run =>
        run.request.answer s.config (s.builtOn run.network run.files)) ∧
      s.afterwards runs = s := by
  induction runs with
  | nil => exact ⟨rfl, rfl⟩
  | cons run runs ih =>
    obtain ⟨⟨e, failed⟩, later⟩ := List.forall_mem_cons.1 fails
    obtain ⟨same, stays⟩ := ih later
    have unchanged : (s.on run).2 = s := by
      rw [on_of_unbuilt unbuilt run, failed]
      cases s
      cases unbuilt
      rfl
    refine ⟨?_, ?_⟩
    · rw [answers, unchanged, same, on_of_unbuilt unbuilt run, List.map_cons]
    · rw [afterwards, unchanged, stays]

/-- Up to the first build that succeeds the answers are those of failed builds, and from then on
those of its registry, which the session keeps. -/
theorem answers_of_build {earlier later : List Run} {run : Run} (unbuilt : s.registry = none)
    (fails : ∀ run ∈ earlier, ∃ e, s.builtOn run.network run.files = .error e)
    (built : s.builtOn run.network run.files = .ok r) :
    s.answers (earlier ++ run :: later) =
        earlier.map (fun run => run.request.answer s.config (s.builtOn run.network run.files)) ++
          (run :: later).map (·.request.answer s.config (.ok r)) ∧
      s.afterwards (earlier ++ run :: later) = { s with registry := some r } := by
  obtain ⟨before, stays⟩ := answers_of_unbuilt unbuilt fails
  have first : s.on run = (run.request.answer s.config (.ok r), { s with registry := some r }) := by
    rw [on_of_unbuilt unbuilt run, built]
    rfl
  obtain ⟨after, kept⟩ :=
    answers_of_registry (s := { s with registry := some r }) rfl later
  refine ⟨?_, ?_⟩
  · rw [answers_append, before, stays, answers, first, after, List.map_cons]
  · rw [afterwards_append, stays, afterwards, first, kept]

/-- The first of some runs at which the registry can be built, and the registry. -/
structure FirstBuild (s : Session) (runs : List Run) (k : Nat) (r : TypeRegistry) : Prop where
  built : ∃ run, runs[k]? = some run ∧ s.builtOn run.network run.files = .ok r
  before : ∀ i run, i < k → runs[i]? = some run → ∃ e, s.builtOn run.network run.files = .error e

/-- The first build parts the runs. -/
theorem FirstBuild.split {runs : List Run} (first : FirstBuild s runs k r) :
    ∃ earlier run later, runs = earlier ++ run :: later ∧ earlier.length = k ∧
      (∀ run ∈ earlier, ∃ e, s.builtOn run.network run.files = .error e) ∧
      s.builtOn run.network run.files = .ok r := by
  obtain ⟨⟨run, here, built⟩, before⟩ := first
  obtain ⟨within, rfl⟩ := List.getElem?_eq_some_iff.1 here
  refine ⟨runs.take k, runs[k], runs.drop (k + 1), ?_, ?_, ?_, built⟩
  · rw [← List.drop_eq_getElem_cons, List.take_append_drop]
  · rw [List.length_take, Nat.min_eq_left within.le]
  · intro run member
    obtain ⟨i, found⟩ := List.getElem?_of_mem member
    rw [List.getElem?_take] at found
    split at found
    · next below => exact before i run below found
    · cases found

/-- Each request is answered on its own.  Before the first build that succeeds it fails as the build
from the network and the files at that time does.  From then on the session keeps the registry of that
build, and each answer is what a fresh session that holds this registry gives to that request alone,
whatever there is to be read. -/
theorem first_registry_kept (config : Config) (manifest : Manifest) (runs : List Run) (k : Nat)
    (r : TypeRegistry) (first : FirstBuild (ofManifest config manifest) runs k r) :
    ((ofManifest config manifest).answers runs).length = runs.length ∧
      ∀ i run, runs[i]? = some run →
        (i < k → ∃ e, (ofManifest config manifest).builtOn run.network run.files = .error e ∧
          ((ofManifest config manifest).answers runs)[i]? = some (run.request.failed e)) ∧
        (k ≤ i →
          ((ofManifest config manifest).afterwards (runs.take (i + 1))).registry = some r ∧
          ∀ network files, ((ofManifest config manifest).answers runs)[i]? =
            some ((Session.mk config manifest (some r)).on ⟨network, files, run.request⟩).1) := by
  obtain ⟨earlier, opener, later, rfl, rfl, fails, built⟩ := first.split
  rw [(answers_of_build rfl fails built).1]
  refine ⟨by simp, fun i run here => ⟨fun before => ?_, fun after => ⟨?_, fun network files => ?_⟩⟩⟩
  · rw [List.getElem?_append_left before] at here
    obtain ⟨e, failed⟩ := fails run (List.mem_of_getElem? here)
    refine ⟨e, failed, ?_⟩
    rw [List.getElem?_append_left (by simpa using before), List.getElem?_map, here,
      Option.map_some, failed, Request.answer_error]
  · obtain ⟨n, rfl⟩ := Nat.exists_eq_add_of_le after
    rw [Nat.add_assoc, List.take_length_add_append, List.take_succ_cons,
      (answers_of_build rfl fails built).2]
  · rw [List.getElem?_append_right after] at here
    rw [List.getElem?_append_right (by simpa using after), List.length_map, List.getElem?_map, here,
      on_of_registry rfl]
    rfl

end Runs

/-! ## A mapping document that comes and goes -/

/-- The URL of a mapping document. -/
def remoteUrl : Url := ⟨"http".toList, some ⟨[], "h".toList, none⟩, .segments ["x".toList], none, none⟩

/-- A network on which the document is there after some time. -/
def answering (duration : Nat) : Network :=
  ⟨fun _ => ⟨.response ⟨200, "OK"⟩ (.ok "directMap: {A: x.Two}"), duration⟩⟩

/-- A session whose mapping refers to the document. -/
def referring : Session :=
  ofManifest { Config.standard with mapping := ⟨.ofList [], [], ["http://h/x"]⟩ } .empty

/-- A tree without files. -/
def bareTree : FileTree := ⟨.empty, ""⟩

theorem ownTypes_referring : referring.config.mapping.ownTypes .empty = .ok [] :=
  Mapping.ownTypes_eq_ok_iff.2 ⟨[], .nil, rfl⟩

theorem leads_referring : Mapping.resolveReference none "http://h/x" = .ok remoteUrl := rfl

theorem builtOn_slow : referring.builtOn (answering 30001) bareTree =
    .error (.settings (.slowResource 30 "http://h/x")) := by
  have ends : Mapping.outcome .empty (referring.texts (answering 30001) bareTree)
      referring.config.mapping = some (.error (.settings (.slowResource 30 "http://h/x"))) := by
    rw [Mapping.outcome_of_ok ownTypes_referring]
    exact Mapping.Merging.outcomeFrom_of_error (.unread leads_referring List.not_mem_nil rfl)
  exact congrArg Prod.fst (build_of_outcome referring _ _ ends)

/-- The registry of the one document. -/
def stockedRegistry : TypeRegistry := TypeRegistry.empty.extend [⟨"A", "x.Two"⟩]

theorem builtOn_answering : referring.builtOn (answering 30000) bareTree = .ok stockedRegistry := by
  have ends : Mapping.outcome .empty (referring.texts (answering 30000) bareTree)
      referring.config.mapping = some (.ok stockedRegistry) := by
    obtain ⟨mapping, holds, pending, own⟩ : ∃ mapping,
        Mapping.Holds (referring.texts (answering 30000) bareTree) remoteUrl mapping ∧
          mapping.resources = [] ∧ mapping.ownTypes .empty = .ok [⟨"A", "x.Two"⟩] :=
      Mapping.holds_of_parts .empty _ [("A", "x.Two")] [] rfl (by decide +kernel)
    rw [Mapping.outcome_of_ok ownTypes_referring]
    show Mapping.Merging.outcomeFrom .empty (referring.texts (answering 30000) bareTree)
      ⟨⟨none, ["http://h/x"]⟩, [], [], _⟩ = _
    rw [Mapping.Merging.outcomeFrom_of_next (.enter leads_referring List.not_mem_nil holds own),
      pending, Mapping.Merging.outcomeFrom_of_next .leave]
    exact Mapping.Merging.outcomeFrom_of_result .finish
  exact congrArg Prod.fst (build_of_outcome referring _ _ ends)

/-- Three runs.  The document is late at the first, in time at the second, and gone at the third. -/
def comingAndGoing : List Run :=
  [⟨answering 30001, bareTree, .process ⟨.obj []⟩ .all⟩,
    ⟨answering 30000, bareTree, .process ⟨.obj []⟩ .all⟩, ⟨.offline, bareTree, .registry⟩]

/-- The registry of the second run is what the third one answers. -/
theorem first_registry_kept_comingAndGoing :
    FirstBuild referring comingAndGoing 1 stockedRegistry ∧
      (referring.answers comingAndGoing)[0]? =
        some (.handOff (.error (.settings (.slowResource 30 "http://h/x")))) ∧
      (referring.answers comingAndGoing)[2]? = some (.registry (.ok stockedRegistry)) := by
  have first : FirstBuild referring comingAndGoing 1 stockedRegistry := by
    refine ⟨⟨_, rfl, builtOn_answering⟩, ?_⟩
    rintro i run before here
    cases Nat.lt_one_iff.1 before
    cases here
    exact ⟨_, builtOn_slow⟩
  obtain ⟨_, each⟩ :=
    first_registry_kept referring.config .empty comingAndGoing 1 stockedRegistry first
  obtain ⟨e, failed, answered⟩ := (each 0 _ rfl).1 Nat.zero_lt_one
  have same : e = .settings (.slowResource 30 "http://h/x") :=
    Except.error.inj (failed.symm.trans builtOn_slow)
  subst same
  exact ⟨first, answered, ((each 2 _ rfl).2 (by decide)).2 .offline bareTree⟩

end SchemaBinder.Session
