import SchemaBinder.Generation
import SchemaBinder.Proofs.FileTree
import SchemaBinder.Proofs.Mapping.Files
/-!
# What a run comes to

A run may succeed, fail or never end, as the mapping documents may lead from one to another forever.
`ComesTo` tells all three apart.

Reading changes no file, so what a part of a run reads is a function of the network and the tree: the
document of a source (`Document.loadFrom`), the manifests (`Manifest.loadAllFrom`) and the registry of
a session (`Session.found`).  With these, `Generation.Outcome` lists everything that a run can come
to, and `Generation.comesTo_run_iff` says that the list is complete.
-/

namespace SchemaBinder

/-! ## What is read -/

/-- The document that a machine holds at a place: in a file of its tree, or as its network
answers. -/
def Document.loadFrom (network : Network) (tree : FileTree) (place : String) :
    Except Fault Document :=
  ofRead place <|
    if isRemote place then (network.reply place).text.mapError (.unfetchableSchema place)
    else (tree.readText place).mapError (.unreadableSchema place)

/-- Loading a document changes no file. -/
theorem Document.runOn_load (network : Network) (tree : FileTree) (place : String) :
    runOn (m := Option) network tree (load place).run =
      some (loadFrom network tree place, tree) := by
  unfold load loadFrom readPlace
  cases isRemote place <;> rfl

namespace Manifest

variable (network : Network) (tree : FileTree)

/-- The manifest that a tree holds under a path. -/
def loadFrom (path : String) : Except Fault Manifest :=
  match tree.readText path with
  | .error e => .error (.settings (.unreadableManifest path e))
  | .ok text =>
    match parse text with
    | .ok manifest => .ok manifest
    | .error _ => .error (.settings (.malformedManifest path))

/-- The manifests that a tree holds under some paths, as one. -/
def loadAllFrom : List String → Except Fault Manifest
  | [] => .ok empty
  | path :: rest => do
    let first ← loadFrom tree path
    return first.append (← loadAllFrom rest)

theorem runOn_load (path : String) :
    runOn network tree (load (m := Machine Option) path).run = some (loadFrom tree path, tree) := by
  unfold load loadFrom
  rw [runOn_except_bind]
  show (some (Except.ok (tree.readText path), tree)).bind _ = _
  cases tree.readText path with
  | error e => rfl
  | ok text => cases parsed : parse text <;> simp [parsed] <;> rfl

/-- Loading manifests changes no file. -/
theorem runOn_loadAll (paths : List String) :
    runOn network tree (loadAll (m := Machine Option) paths).run =
      some (loadAllFrom tree paths, tree) := by
  induction paths with
  | nil => rfl
  | cons path rest ih =>
    rw [loadAll, loadAllFrom, runOn_except_bind, runOn_load]
    cases loadFrom tree path with
    | error e => rfl
    | ok first =>
      show runOn network tree (loadAll (m := Machine Option) rest >>= fun more =>
        pure (first.append more)).run = _
      rw [runOn_except_bind, ih]
      cases loadAllFrom tree rest <;> rfl

end Manifest

/-! ## Sessions -/

namespace Session

variable [DomainNames] (s : Session) (network : Network) (tree : FileTree)

/-- The registry that a session finds on a machine, or the fault of building it. -/
noncomputable def found : Option (Except Fault TypeRegistry) :=
  match s.registry with
  | some registry => some (.ok registry)
  | none => Mapping.outcome s.manifest (s.texts network tree) s.config.mapping

/-- The session once it has found this. -/
def having : Except Fault TypeRegistry → Session
  | .ok registry => { s with registry := some registry }
  | .error _ => s

theorem runOn_getRegistry : runOn (m := Option) network tree s.getRegistry =
    (s.found network tree).map fun found => ((found, s.having found), tree) := by
  unfold getRegistry found
  cases known : s.registry with
  | some registry =>
    have same : s.having (.ok registry) = s := by
      rw [having, ← known]
    dsimp only
    rw [Option.map_some, same]
    rfl
  | none =>
    dsimp only
    rw [runOn_bind, runOn_build]
    rcases Mapping.outcome s.manifest (s.texts network tree) s.config.mapping with _ | _ | _ <;> rfl

/-- Processing a document changes no file. -/
theorem runOn_process (doc : Document) (target : Target) :
    runOn (m := Option) network tree (s.process doc target) =
      (s.found network tree).map fun found =>
        ((found.bind fun registry => HandOff.ofDocument s.config registry doc target,
          s.having found), tree) := by
  unfold process
  rw [runOn_bind, runOn_getRegistry]
  rcases s.found network tree with _ | _ | _ <;> rfl

end Session

/-! ## Runs -/

namespace Generation

variable {config : Config} {target : Target} {network : Network} {tree tree' next : FileTree}
  {s : Session} {source : String} {sources : List String}

/-- The failure of a file operation is a fault. -/
theorem runOn_orFault {α : Type} (operation : Machine Option (Except FileFailure α)) :
    runOn network tree (orFault operation).run =
      (runOn network tree operation).map fun p => (p.1.mapError .io, p.2) := by
  rw [orFault, runOn_except_bind, runOn_lift]
  rcases runOn network tree operation with _ | ⟨_ | _, _⟩ <;> rfl

theorem runOn_start (config : Config) :
    runOn (m := Option) network tree (Session.start config).run =
      some ((Manifest.loadAllFrom tree config.manifests).map (Session.ofManifest config), tree) := by
  rw [Session.start, runOn_except_bind, Manifest.runOn_loadAll]
  cases Manifest.loadAllFrom tree config.manifests <;> rfl

/-- The result of making the output directory. -/
theorem comesTo_makeDirectories_iff {directory : String} {outcome : Except Fault Unit} :
    ComesTo network (orFault (FileAccess.makeDirectories directory)) tree outcome tree' ↔
      ∃ done, tree.makeDirectories directory = (done, tree') ∧ outcome = done.mapError .io := by
  rw [ComesTo, runOn_orFault, runOn_makeDirectories]
  show some ((tree.makeDirectories directory).1.mapError Fault.io,
    (tree.makeDirectories directory).2) = _ ↔ _
  constructor
  · rintro ⟨⟩
    exact ⟨_, rfl, rfl⟩
  · rintro ⟨done, made, rfl⟩
    rw [made]

/-- What comes of writing a hand-off document that was made, or could not be made. -/
def writeOut (s : Session) (path : String) (tree : FileTree) :
    Except Fault HandOff → Except Fault (String × Session) × FileTree
  | .error e => (.error e, tree)
  | .ok h =>
    match tree.writeText path h.toJson.pretty with
    | .error failure => (.error (.io failure), tree)
    | .ok next => (.ok (path, s), next)

theorem runOn_writeOut (s : Session) (path : String) (made : Except Fault HandOff) :
    runOn network tree (do
      let handOff ← ExceptT.mk (pure made)
      orFault (m := Machine Option) (FileAccess.writeText path handOff.toJson.pretty)
      return (path, s) : ExceptT Fault (Machine Option) (String × Session)).run =
        some (writeOut s path tree made) := by
  rw [runOn_except_bind]
  cases made with
  | error e => rfl
  | ok h =>
    show runOn network tree (orFault (FileAccess.writeText path h.toJson.pretty) >>= fun _ =>
      pure (path, s) : ExceptT Fault (Machine Option) (String × Session)).run = _
    rw [runOn_except_bind, runOn_orFault, runOn_writeText, writeOut]
    cases tree.writeText path h.toJson.pretty <;> rfl

variable [DomainNames]

/-- The hand-off document of a source is made from the files as they are, with the registry that was
found, and is written. -/
inductive HandsOff (config : Config) (target : Target) (network : Network)
    (registry : Option (Except Fault TypeRegistry)) (tree : FileTree) (source : String) (h : HandOff)
    (next : FileTree) : Prop where
  | written {doc : Document} {r : TypeRegistry} : Document.loadFrom network tree source = .ok doc →
      registry = some (.ok r) → HandOff.ofDocument config r doc target = .ok h →
      tree.writeText (outputPath config.outputDirectory source) h.toJson.pretty = .ok next →
      HandsOff config target network registry tree source h next

/-- The ways in which a source can fail. -/
inductive FailsAt (config : Config) (target : Target) (network : Network)
    (registry : Option (Except Fault TypeRegistry)) (tree : FileTree) (source : String) :
    Fault → Prop where
  /-- Its document cannot be loaded. -/
  | unloaded {e : Fault} : Document.loadFrom network tree source = .error e →
      FailsAt config target network registry tree source e
  /-- The registry cannot be built. -/
  | unbuilt {doc : Document} {e : Fault} : Document.loadFrom network tree source = .ok doc →
      registry = some (.error e) → FailsAt config target network registry tree source e
  /-- Its models or operations cannot be made or bound. -/
  | unmade {doc : Document} {r : TypeRegistry} {e : Fault} :
      Document.loadFrom network tree source = .ok doc → registry = some (.ok r) →
      HandOff.ofDocument config r doc target = .error e →
      FailsAt config target network registry tree source e
  /-- Its hand-off document cannot be written. -/
  | unwritten {doc : Document} {r : TypeRegistry} {h : HandOff} {failure : FileFailure} :
      Document.loadFrom network tree source = .ok doc → registry = some (.ok r) →
      HandOff.ofDocument config r doc target = .ok h →
      tree.writeText (outputPath config.outputDirectory source) h.toJson.pretty = .error failure →
      FailsAt config target network registry tree source (.io failure)

/-- The handling of a source, once its document is loaded and the registry is found. -/
def handOver (s : Session) (target : Target) (source : String) (doc : Document) (tree : FileTree) :
    Except Fault TypeRegistry → Except Fault (String × Session) × FileTree
  | .error e => (.error e, tree)
  | .ok r => writeOut { s with registry := some r } (outputPath s.config.outputDirectory source) tree
      (HandOff.ofDocument s.config r doc target)

theorem runOn_processSource (s : Session) (target : Target) (source : String) :
    runOn (m := Option) network tree (processSource s target source).run =
      match Document.loadFrom network tree source with
      | .error e => some (.error e, tree)
      | .ok doc => (s.found network tree).map (handOver s target source doc tree) := by
  rw [processSource, runOn_except_bind, Document.runOn_load]
  cases Document.loadFrom network tree source with
  | error e => rfl
  | ok doc =>
    show runOn network tree (liftM (s.process (m := Machine Option) doc target) >>= _ :
      ExceptT Fault (Machine Option) (String × Session)).run = _
    rw [runOn_except_bind, runOn_lift, Session.runOn_process]
    rcases s.found network tree with _ | e | r
    · rfl
    · rfl
    · exact runOn_writeOut _ _ _

/-- What the handling of a source comes to. -/
theorem comesTo_processSource_iff {outcome : Except Fault (String × Session)} :
    ComesTo network (processSource s target source) tree outcome next ↔
      (∃ e, outcome = .error e ∧ next = tree ∧
        FailsAt s.config target network (s.found network tree) tree source e) ∨
      ∃ r h, outcome = .ok (outputPath s.config.outputDirectory source,
          { s with registry := some r }) ∧
        s.found network tree = some (.ok r) ∧
        HandsOff s.config target network (s.found network tree) tree source h next := by
  rw [ComesTo, runOn_processSource]
  constructor
  · intro ended
    cases loaded : Document.loadFrom network tree source with
    | error e =>
      rw [loaded] at ended
      cases ended
      exact .inl ⟨e, rfl, rfl, .unloaded loaded⟩
    | ok doc =>
      rw [loaded] at ended
      obtain ⟨found, known, ended⟩ := Option.map_eq_some_iff.1 ended
      cases found with
      | error e =>
        cases ended
        exact .inl ⟨e, rfl, rfl, .unbuilt loaded known⟩
      | ok r =>
        rw [handOver] at ended
        cases made : HandOff.ofDocument s.config r doc target with
        | error e =>
          rw [made] at ended
          cases ended
          exact .inl ⟨e, rfl, rfl, .unmade loaded known made⟩
        | ok h =>
          rw [made, writeOut] at ended
          cases written : tree.writeText (outputPath s.config.outputDirectory source)
              h.toJson.pretty with
          | error failure =>
            rw [written] at ended
            cases ended
            exact .inl ⟨.io failure, rfl, rfl, .unwritten loaded known made written⟩
          | ok next =>
            rw [written] at ended
            cases ended
            exact .inr ⟨r, h, rfl, known, .written loaded known made written⟩
  · rintro (⟨e, rfl, rfl, fails⟩ | ⟨r, h, rfl, known, ⟨loaded, same, made, written⟩⟩)
    · cases fails with
      | unloaded loaded => rw [loaded]
      | unbuilt loaded known =>
        rw [loaded, known]
        rfl
      | unmade loaded known made =>
        rw [loaded, known]
        simp only [Option.map_some, handOver, made, writeOut]
      | unwritten loaded known made written =>
        rw [loaded, known]
        simp only [Option.map_some, handOver, made, writeOut, written]
    · cases known.symm.trans same
      rw [loaded, known]
      simp only [Option.map_some, handOver, made, writeOut, written]

/-- Sources are handed off one after the other. -/
inductive HandedOff (config : Config) (target : Target)
    (network : Network) (registry : Option (Except Fault TypeRegistry)) :
    FileTree → List String → List HandOff → FileTree → Prop where
  | nil {tree : FileTree} : HandedOff config target network registry tree [] [] tree
  | cons {tree next tree' : FileTree} {source : String} {rest : List String} {h : HandOff}
      {hs : List HandOff} : HandsOff config target network registry tree source h next →
      HandedOff config target network registry next rest hs tree' →
      HandedOff config target network registry tree (source :: rest) (h :: hs) tree'

/-- What the handling of sources comes to, when the session finds a registry: all of them are handed
off, or one fails after those before it are. -/
inductive Handling (config : Config) (target : Target) (network : Network)
    (registry : Option (Except Fault TypeRegistry)) (tree : FileTree) (sources : List String) :
    Except Fault (List String) → FileTree → Prop where
  | all {hs : List HandOff} {tree' : FileTree} :
      HandedOff config target network registry tree sources hs tree' →
      Handling config target network registry tree sources
        (.ok (sources.map (outputPath config.outputDirectory))) tree'
  | some (before : List String) {after : List String} {source : String} {hs : List HandOff}
      {e : Fault} {tree' : FileTree} : sources = before ++ source :: after →
      HandedOff config target network registry tree before hs tree' →
      FailsAt config target network registry tree' source e →
      Handling config target network registry tree sources (.error e) tree'

/-- A session that has its registry finds it on every tree. -/
theorem found_of_known {r : TypeRegistry} (known : s.found network tree = some (.ok r))
    (next : FileTree) :
    Session.found { s with registry := some r } network next = s.found network tree :=
  known.symm

theorem comesTo_processAll_iff {outcome : Except Fault (List String)} :
    ComesTo network (processAll target s sources) tree outcome tree' ↔
      Handling s.config target network (s.found network tree) tree sources outcome tree' := by
  induction sources generalizing s tree outcome with
  | nil =>
    rw [processAll, comesTo_pure_iff]
    constructor
    · rintro ⟨rfl, rfl⟩
      exact .all .nil
    · intro handling
      cases handling with
      | all handedOff =>
        cases handedOff
        exact ⟨rfl, rfl⟩
      | some before split =>
        cases List.append_ne_nil_of_right_ne_nil before (List.cons_ne_nil _ _) split.symm
  | cons source rest ih =>
    rw [processAll, comesTo_bind_iff]
    constructor
    · rintro (⟨e, failed, rfl⟩ | ⟨⟨path, s'⟩, next, first, later⟩)
      · rcases comesTo_processSource_iff.1 failed with ⟨e, ⟨⟩, rfl, fails⟩ | ⟨r, h, ⟨⟩, _⟩
        exact .some [] rfl .nil fails
      · rcases comesTo_processSource_iff.1 first with ⟨e, ⟨⟩, _⟩ | ⟨r, h, ⟨⟩, known, one⟩
        rcases comesTo_bind_iff.1 later with ⟨e, failed, rfl⟩ | ⟨paths, middle, done, last⟩
        · have handling := ih.1 failed
          rw [found_of_known known] at handling
          cases handling with
          | some before split handedOff fails =>
            exact .some (source :: before) (by rw [split]; rfl) (.cons one handedOff) fails
        · obtain ⟨rfl, rfl⟩ := comesTo_pure_iff.1 last
          have handling := ih.1 done
          rw [found_of_known known] at handling
          cases handling with
          | all handedOff => exact .all (.cons one handedOff)
    · intro handling
      cases handling with
      | all handedOff =>
        cases handedOff with
        | cons one handedOff =>
          have ⟨_, known, _, _⟩ := one
          rw [← found_of_known known] at handedOff
          exact .inr ⟨_, _, comesTo_processSource_iff.2 (.inr ⟨_, _, rfl, known, one⟩),
            comesTo_bind_iff.2 (.inr ⟨_, _, ih.2 (.all handedOff), comesTo_pure_iff.2 ⟨rfl, rfl⟩⟩)⟩
      | @some _ _ _ _ e _ split handedOff fails =>
        cases handedOff with
        | nil =>
          obtain ⟨rfl, rfl⟩ := List.cons.inj split
          exact .inl ⟨e, comesTo_processSource_iff.2 (.inl ⟨e, rfl, rfl, fails⟩), rfl⟩
        | cons one handedOff =>
          obtain ⟨rfl, rfl⟩ := List.cons.inj split
          have ⟨_, known, _, _⟩ := one
          rw [← found_of_known known] at handedOff fails
          exact .inr ⟨_, _, comesTo_processSource_iff.2 (.inr ⟨_, _, rfl, known, one⟩),
            comesTo_bind_iff.2 (.inl ⟨e, ih.2 (.some _ rfl handedOff fails), rfl⟩)⟩

/-- Everything that a run can come to. -/
inductive Outcome (config : Config) (target : Target) (network : Network) (tree : FileTree) :
    Except Fault (List String) → FileTree → Prop where
  /-- There is nothing to do. -/
  | unasked : config.sources = [] →
      Outcome config target network tree (.error (.settings .noSources)) tree
  /-- A manifest cannot be loaded. -/
  | unlisted {e : Fault} : config.sources ≠ [] →
      Manifest.loadAllFrom tree config.manifests = .error e →
      Outcome config target network tree (.error e) tree
  /-- The output directory cannot be made. -/
  | unhoused {manifest : Manifest} {failure : FileFailure} {tree' : FileTree} :
      config.sources ≠ [] → Manifest.loadAllFrom tree config.manifests = .ok manifest →
      tree.makeDirectories config.outputDirectory = (.error failure, tree') →
      Outcome config target network tree (.error (.io failure)) tree'
  /-- The sources are handled. -/
  | handled {manifest : Manifest} {start tree' : FileTree} {outcome : Except Fault (List String)} :
      config.sources ≠ [] → Manifest.loadAllFrom tree config.manifests = .ok manifest →
      tree.makeDirectories config.outputDirectory = (.ok (), start) →
      Handling config target network
        (Mapping.outcome manifest (Mapping.textsOf network config.fetchTimeout start) config.mapping)
        start config.sources outcome tree' →
      Outcome config target network tree outcome tree'

/-- A run comes to what is listed, and to everything that is listed. -/
theorem comesTo_run_iff {outcome : Except Fault (List String)} :
    ComesTo network (run config target) tree outcome tree' ↔
      Outcome config target network tree outcome tree' := by
  rw [run]
  cases none : config.sources.isEmpty with
  | true =>
    have empty := List.isEmpty_iff.1 none
    rw [if_pos rfl, comesTo_throw_iff]
    constructor
    · rintro ⟨rfl, rfl⟩
      exact .unasked empty
    · intro ended
      cases ended with
      | unasked => exact ⟨rfl, rfl⟩
      | unlisted some => exact absurd empty some
      | unhoused some => exact absurd empty some
      | handled some => exact absurd empty some
  | false =>
    have some : config.sources ≠ [] := by
      rintro empty
      simp [empty] at none
    rw [if_neg (by simp), comesTo_bind_iff]
    simp only [comesTo_iff_of_runOn (runOn_start config)]
    constructor
    · rintro (⟨e, ⟨failed, rfl⟩, rfl⟩ | ⟨s, tree, ⟨started, rfl⟩, rest⟩)
      · cases loaded : Manifest.loadAllFrom tree' config.manifests with
        | error e =>
          rw [loaded] at failed
          cases failed
          exact .unlisted some loaded
        | ok manifest =>
          rw [loaded] at failed
          cases failed
      · cases loaded : Manifest.loadAllFrom tree config.manifests with
        | error e =>
          rw [loaded] at started
          cases started
        | ok manifest =>
          rw [loaded] at started
          cases started
          rcases comesTo_bind_iff.1 rest with ⟨e, failed, rfl⟩ | ⟨⟨⟩, start, made, processed⟩
          · obtain ⟨_ | ⟨⟩, made, ⟨⟩⟩ := comesTo_makeDirectories_iff.1 failed
            exact .unhoused some loaded made
          · obtain ⟨⟨⟩ | ⟨⟩, made, ⟨⟩⟩ := comesTo_makeDirectories_iff.1 made
            exact .handled some loaded made (comesTo_processAll_iff.1 processed)
    · intro ended
      cases ended with
      | unasked empty => exact absurd empty some
      | unlisted _ loaded => exact .inl ⟨_, ⟨by rw [loaded]; rfl, rfl⟩, rfl⟩
      | unhoused _ loaded made =>
        exact .inr ⟨_, tree, ⟨by rw [loaded]; rfl, rfl⟩, comesTo_bind_iff.2
          (.inl ⟨_, comesTo_makeDirectories_iff.2 ⟨_, made, rfl⟩, rfl⟩)⟩
      | handled _ loaded made handling =>
        exact .inr ⟨_, tree, ⟨by rw [loaded]; rfl, rfl⟩, comesTo_bind_iff.2
          (.inr ⟨(), _, comesTo_makeDirectories_iff.2 ⟨_, made, rfl⟩,
            comesTo_processAll_iff.2 handling⟩)⟩

end Generation

end SchemaBinder
