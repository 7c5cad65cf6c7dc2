import SchemaBinder.Proofs.Generation
import SchemaBinder.Url.PlainNames
/-!
# What a run leaves behind

A run changes a tree by making directories and writing files, and nothing that it puts in the tree
takes the place of a directory.  `FileTree.Becomes` is what follows for the tree as a whole: every path
that led somewhere still leads there, and every entry is the one of before or a new one of a known
kind.

So a run that fails at a source leaves the directories it has made and the hand-off documents of the
sources before, and nothing else (`Generation.failed_run_leaves_prefix`).  Whatever a run comes to, a
file is kept unless the path of a hand-off document leads to it (`Generation.files_kept_apart_from_outputs`);
a source itself can lie there (`Generation.source_overwritten`).
-/

namespace SchemaBinder

/-! ## Changes of a tree -/

namespace FileTree

variable {tree middle tree' : FileTree} {place path text : String} {node : FileNode}
  {new more : String → FileNode → Prop}

/-- A path leads to a place. -/
def Leads (tree : FileTree) (path place : String) : Prop :=
  ∃ t, tree.target path = .ok t ∧ t.place = place

/-- A tree becomes another one, in which the entries that are not as before are new. -/
structure Becomes (new : String → FileNode → Prop) (tree tree' : FileTree) : Prop where
  home : tree'.home = tree.home
  target : ∀ path t, tree.target path = .ok t → tree'.target path = .ok t
  node? : ∀ place, tree'.node? place = tree.node? place ∨
    tree.node? place ≠ some .directory ∧ ∃ node, tree'.node? place = some node ∧ new place node

theorem Becomes.refl (new : String → FileNode → Prop) (tree : FileTree) : tree.Becomes new tree where
  home := rfl
  target _ _ found := found
  node? _ := .inl rfl

theorem Becomes.imp (became : tree.Becomes new tree')
    (known : ∀ place node, new place node → more place node) : tree.Becomes more tree' where
  home := became.home
  target := became.target
  node? place := (became.node? place).imp_right fun ⟨free, node, there, isNew⟩ =>
    ⟨free, node, there, known place node isNew⟩

theorem Becomes.trans (first : tree.Becomes new middle) (second : middle.Becomes new tree') :
    tree.Becomes new tree' where
  home := second.home.trans first.home
  target path t found := second.target path t (first.target path t found)
  node? place := by
    rcases second.node? place, first.node? place with ⟨same | ⟨free, now⟩, same' | ⟨free', now'⟩⟩
    · exact .inl (same.trans same')
    · rw [same]
      exact .inr ⟨free', now'⟩
    · rw [← same']
      exact .inr ⟨free, now⟩
    · exact .inr ⟨free', now⟩

theorem Becomes.leads (became : tree.Becomes new tree') (leads : tree.Leads path place) :
    tree'.Leads path place := by
  obtain ⟨t, found, there⟩ := leads
  exact ⟨t, became.target path t found, there⟩

/-- Something is put in the tree that takes the place of no directory. -/
theorem becomes_put (free : tree.node? place ≠ some .directory) (isNew : new place node) :
    tree.Becomes new (tree.put place node) where
  home := rfl
  target _ _ := target_put free
  node? here := by
    rw [node?_put (ne_root free)]
    split
    · next same => exact .inr ⟨same ▸ free, node, rfl, same ▸ isNew⟩
    · exact .inl rfl

/-! ## Making directories -/

theorem makeDirectory_eq_ok_iff : tree.makeDirectory path = .ok tree' ↔
    ∃ t, tree.target path = .ok t ∧ t.isNamed = true ∧ tree.node? t.place = none ∧
      tree' = tree.put t.place .directory := by
  rw [makeDirectory, bind_eq_ok_iff]
  refine exists_congr fun t => and_congr_right fun _ => ?_
  cases t.isNamed <;> cases tree.node? t.place <;> simp [eq_comm]

/-- The entry is a directory at a place that was free, and one of some paths leads to it. -/
structure IsMade (tree tree' : FileTree) (paths : List String) (place : String) (node : FileNode) :
    Prop where
  directory : node = .directory
  free : tree.node? place = none
  leads : ∃ path ∈ paths, tree'.Leads path place

/-- A directory is made after others. -/
theorem Becomes.makeDirectory {paths around : List String}
    (before : tree.Becomes (IsMade tree middle around) middle) (known : around ⊆ paths)
    (listed : path ∈ paths) (made : middle.makeDirectory path = .ok tree') :
    tree.Becomes (IsMade tree tree' paths) tree' := by
  obtain ⟨t, found, _, free, rfl⟩ := makeDirectory_eq_ok_iff.1 made
  have notDirectory : middle.node? t.place ≠ some .directory := by simp [free]
  have kept : middle.Becomes (fun _ _ => True) (middle.put t.place .directory) :=
    becomes_put notDirectory trivial
  refine (before.imp fun place node isMade => ?_).trans (becomes_put notDirectory ?_)
  · obtain ⟨path', member, leads⟩ := isMade.leads
    exact ⟨isMade.directory, isMade.free, path', known member, kept.leads leads⟩
  · refine ⟨rfl, ?_, path, listed, t, kept.target path t found, rfl⟩
    rcases before.node? t.place with same | ⟨_, node, there, _⟩
    · exact same ▸ free
    · cases free.symm.trans there

theorem becomes_makeEach (tree : FileTree) (paths : List String) :
    tree.Becomes (IsMade tree (tree.makeEach paths).2 paths) (tree.makeEach paths).2 := by
  induction paths with
  | nil => exact .refl _ tree
  | cons path around ih =>
    have wider {middle : FileTree} (before : tree.Becomes (IsMade tree middle around) middle) :
        tree.Becomes (IsMade tree middle (path :: around)) middle :=
      before.imp fun place node isMade => ⟨isMade.directory, isMade.free,
        isMade.leads.imp fun _ ⟨member, leads⟩ => ⟨List.mem_cons_of_mem path member, leads⟩⟩
    unfold makeEach
    split
    · next made first =>
      exact (Becomes.refl _ tree).makeDirectory (List.nil_subset _) List.mem_cons_self first
    · split
      · next failed =>
        rw [failed] at ih
        exact wider ih
      · next middle done =>
        rw [done] at ih
        split
        · next made second =>
          exact ih.makeDirectory (List.subset_cons_self path around) List.mem_cons_self second
        · split <;> exact wider ih
    · split <;> exact .refl _ tree

/-- Making a directory makes it and the ones around it at most, also when it fails. -/
theorem becomes_makeDirectories {directory : String} {outcome : Except FileFailure Unit}
    (made : tree.makeDirectories directory = (outcome, tree')) :
    tree.Becomes (IsMade tree tree' (directory :: PathName.ancestors directory)) tree' := by
  obtain rfl : (tree.makeDirectories directory).2 = tree' := by rw [made]
  unfold makeDirectories
  split
  · exact .refl _ tree
  · exact tree.becomes_makeEach _

end FileTree

/-! ## Handing off -/

namespace Generation

variable {config : Config} {target : Target} {network : Network} {tree start tree' : FileTree}
  {sources : List String} {registry : Option (Except Fault TypeRegistry)} {hs : List HandOff}

/-- The entry is the file of the hand-off document of one of some sources, and its path leads to it. -/
def IsHandOff (directory : String) (sources : List String) (hs : List HandOff) (tree' : FileTree)
    (place : String) (node : FileNode) : Prop :=
  ∃ (i : Nat) (source : String) (h : HandOff), sources[i]? = some source ∧ hs[i]? = some h ∧
    node = .file (some h.toJson.pretty) ∧ tree'.Leads (outputPath directory source) place

theorem HandedOff.becomes [DomainNames]
    (handedOff : HandedOff config target network registry tree sources hs tree') :
    tree.Becomes (IsHandOff config.outputDirectory sources hs tree') tree' := by
  induction handedOff with
  | nil => exact .refl _ _
  | @cons tree next tree' source rest h hs one _ ih =>
    obtain ⟨_, _, _, written⟩ := one
    obtain ⟨t, found, _, _, free, rfl⟩ := FileTree.writeText_eq_ok_iff.1 written
    refine .trans (FileTree.becomes_put free ?_) (ih.imp fun place node => ?_)
    · exact ⟨0, source, h, rfl, rfl, rfl, t, ih.target _ t (FileTree.target_put free found), rfl⟩
    · rintro ⟨i, source', h', here, its, isDocument, leads⟩
      exact ⟨i + 1, source', h', here, its, isDocument, leads⟩

/-- The directories that lead to the output directory, and itself. -/
def outputDirectories (config : Config) : List String :=
  config.outputDirectory :: PathName.ancestors config.outputDirectory

/-- What is new after the output directory is made and sources are handed off. -/
def IsNew (config : Config) (sources : List String) (hs : List HandOff) (tree tree' : FileTree)
    (place : String) (node : FileNode) : Prop :=
  tree.IsMade tree' (outputDirectories config) place node ∨
    IsHandOff config.outputDirectory sources hs tree' place node

/-- The output directory is made and then sources are handed off. -/
theorem HandedOff.becomes_new [DomainNames]
    (made : tree.makeDirectories config.outputDirectory = (.ok (), start))
    (handedOff : HandedOff config target network registry start sources hs tree') :
    tree.Becomes (IsNew config sources hs tree tree') tree' := by
  refine ((FileTree.becomes_makeDirectories made).imp fun place node isMade => .inl ?_).trans
    (handedOff.becomes.imp fun place node => .inr)
  exact ⟨isMade.directory, isMade.free, isMade.leads.imp fun _ ⟨member, leads⟩ =>
    ⟨member, handedOff.becomes.leads leads⟩⟩

/-- A run that fails before its first source changes nothing, or it cannot make the output directory,
of which it leaves what it could make.  A run that fails at a source leaves the output directory and
the hand-off documents of the sources before, each made from the files as they were when its turn
came, and everything else is as it was. -/
theorem failed_run_leaves_prefix [DomainNames] {e : Fault}
    (failed : ComesTo network (run config target) tree (.error e) tree') :
    (tree' = tree ∧ (config.sources = [] ∧ e = .settings .noSources ∨
      config.sources ≠ [] ∧ Manifest.loadAllFrom tree config.manifests = .error e)) ∨
    config.sources ≠ [] ∧ ∃ manifest,
      Manifest.loadAllFrom tree config.manifests = .ok manifest ∧
      ((∃ failure, e = .io failure ∧
          tree.makeDirectories config.outputDirectory = (.error failure, tree') ∧
          tree.Becomes (tree.IsMade tree' (outputDirectories config)) tree') ∨
        ∃ start before source after hs,
          tree.makeDirectories config.outputDirectory = (.ok (), start) ∧
          config.sources = before ++ source :: after ∧
          HandedOff config target network
            (Mapping.outcome manifest (Mapping.textsOf network config.fetchTimeout start)
              config.mapping) start before hs tree' ∧
          FailsAt config target network
            (Mapping.outcome manifest (Mapping.textsOf network config.fetchTimeout start)
              config.mapping) tree' source e ∧
          tree.Becomes (IsNew config before hs tree tree') tree') := by
  cases comesTo_run_iff.1 failed with
  | unasked empty => exact .inl ⟨rfl, .inl ⟨empty, rfl⟩⟩
  | unlisted some loaded => exact .inl ⟨rfl, .inr ⟨some, loaded⟩⟩
  | @unhoused manifest failure _ some loaded made =>
    exact .inr ⟨some, manifest, loaded, .inl
      ⟨failure, rfl, made, FileTree.becomes_makeDirectories made⟩⟩
  | @handled manifest start _ _ some loaded made handling =>
    cases handling with
    | @some before after source hs _ _ split handedOff fails =>
      exact .inr ⟨some, manifest, loaded, .inr ⟨start, before, source, after, hs, made, split,
        handedOff, fails, handedOff.becomes_new made⟩⟩

/-! ## A run that fails at its second source -/

/-- The first of two sources, and no output directory yet. -/
def halfTree : FileTree where
  nodes := .ofList [("/a", .directory), ("/a/shop.json", .file (some (titled "A").root.render))]
  home := ""

/-- The tree with the output directory. -/
def halfTreeReady : FileTree := halfTree.put "/out" .directory

/-- The tree after the first source is handled. -/
def halfTreeDone : FileTree :=
  halfTreeReady.put "/out/shop.json" (.file (some (shopHandOff "A").toJson.pretty))

/-- The answer that there is no document. -/
def missing : Reply := .response ⟨404, "Not Found"⟩ (.ok "")

/-- The fault of the second source when it is missing. -/
def shopMissing : Fault :=
  .settings (.unfetchableSchema "http://b/shop.json?lang=en" (.refused ⟨404, "Not Found"⟩))

theorem handsOff_first [DomainNames] :
    HandsOff remoteShops .models network (some (.ok .empty)) halfTreeReady "/a/shop.json"
      (shopHandOff "A") halfTreeDone :=
  .written (loadFrom_titled (by decide) rfl) rfl rfl (FileTree.writeText_eq_ok_iff.2
    ⟨⟨"/out/shop.json", true, false⟩, rfl, rfl, rfl, nofun, rfl⟩)

theorem comesTo_run_half [DomainNames] :
    ComesTo (answeringAlike missing) (run remoteShops .models) halfTree (.error shopMissing)
      halfTreeDone := by
  have made : halfTree.makeDirectories remoteShops.outputDirectory = (.ok (), halfTreeReady) := rfl
  refine comesTo_run_iff.2 (.handled (by decide) rfl made ?_)
  rw [outcome_of_unmapped remoteShops rfl]
  exact .some ["/a/shop.json"] rfl (.cons handsOff_first .nil) (.unloaded rfl)

/-- The second source is missing, and the run leaves the hand-off document of the first one. -/
theorem failed_run_leaves_prefix_shops :
    ComesTo (answeringAlike missing) (run remoteShops .models) halfTree (.error shopMissing)
        halfTreeDone ∧
      ∃ before source after hs, remoteShops.sources = before ++ source :: after ∧
        HandedOff remoteShops .models (answeringAlike missing) (some (.ok .empty)) halfTreeReady
          before hs halfTreeDone ∧
        halfTree.Becomes (IsNew remoteShops before hs halfTree halfTreeDone) halfTreeDone ∧
        halfTreeDone.readText "/out/shop.json" = .ok (shopHandOff "A").toJson.pretty := by
  refine ⟨comesTo_run_half, ?_⟩
  rcases failed_run_leaves_prefix comesTo_run_half with
    ⟨_, ⟨_, other⟩ | ⟨_, unloaded⟩⟩ | ⟨_, manifest, loaded, ⟨_, other, _⟩ |
      ⟨start, before, source, after, hs, made, split, handedOff, _, became⟩⟩
  · cases other
  · cases unloaded
  · cases other
  · cases loaded
    cases made
    rw [outcome_of_unmapped remoteShops rfl] at handedOff
    exact ⟨before, source, after, hs, split, handedOff, became, rfl⟩

/-! ## Files that are kept -/

/-- The path of the hand-off document of a source leads to a place. -/
def IsOutput (config : Config) (tree' : FileTree) (place : String) : Prop :=
  ∃ source ∈ config.sources, tree'.Leads (outputPath config.outputDirectory source) place

theorem Outcome.becomes [DomainNames] {outcome : Except Fault (List String)}
    (ended : Outcome config target network tree outcome tree') :
    tree.Becomes (fun place node => tree.IsMade tree' (outputDirectories config) place node ∨
      IsOutput config tree' place) tree' := by
  have output {sources : List String} {hs : List HandOff} {place : String} {node : FileNode}
      (among : sources ⊆ config.sources) :
      IsNew config sources hs tree tree' place node →
        tree.IsMade tree' (outputDirectories config) place node ∨ IsOutput config tree' place := by
    rintro (isMade | ⟨i, source, _, here, _, _, leads⟩)
    · exact .inl isMade
    · exact .inr ⟨source, among (List.mem_of_getElem? here), leads⟩
  cases ended with
  | unasked => exact .refl _ tree
  | unlisted => exact .refl _ tree
  | unhoused _ _ made => exact (FileTree.becomes_makeDirectories made).imp fun _ _ => .inl
  | handled _ _ made handling =>
    cases handling with
    | all handedOff =>
      exact (handedOff.becomes_new made).imp fun _ _ => output (List.Subset.refl _)
    | @some before after source _ _ _ split handedOff =>
      refine (handedOff.becomes_new made).imp fun _ _ => output ?_
      rw [split]
      exact List.subset_append_left before _

/-- Whatever a run comes to, a file is kept unless the path of a hand-off document leads to it: at
every place, and so under every path that a source, a manifest or a mapping document is read by. -/
theorem files_kept_apart_from_outputs [DomainNames] {outcome : Except Fault (List String)}
    (ended : ComesTo network (run config target) tree outcome tree') :
    (∀ place text, tree.node? place = some (.file text) →
      tree'.node? place = some (.file text) ∨ IsOutput config tree' place) ∧
    (∀ path text, tree.readText path = .ok text →
      tree'.readText path = .ok text ∨ ∃ place, tree'.Leads path place ∧
        IsOutput config tree' place) ∧
    ∀ url text, Mapping.textsOf network config.fetchTimeout tree url = .ok text →
      Mapping.textsOf network config.fetchTimeout tree' url = .ok text ∨
        ∃ path place, url.toFilePath? = some path ∧ tree'.Leads path place ∧
          IsOutput config tree' place := by
  have became := (comesTo_run_iff.1 ended).becomes
  have places (place : String) (text : Option String)
      (there : tree.node? place = some (.file text)) :
      tree'.node? place = some (.file text) ∨ IsOutput config tree' place := by
    rcases became.node? place with same | ⟨_, _, _, isMade | isOutput⟩
    · exact .inl (same.trans there)
    · cases isMade.free.symm.trans there
    · exact .inr isOutput
  have paths (path text : String) (read : tree.readText path = .ok text) :
      tree'.readText path = .ok text ∨ ∃ place, tree'.Leads path place ∧
        IsOutput config tree' place := by
    obtain ⟨t, found, notClosed, there⟩ := FileTree.readText_eq_ok_iff.1 read
    have leads := became.target path t found
    refine (places t.place text there).imp (fun kept => ?_) fun isOutput => ?_
    · exact FileTree.readText_eq_ok_iff.2 ⟨t, leads, notClosed, kept⟩
    · exact ⟨t.place, ⟨t, leads, rfl⟩, isOutput⟩
  refine ⟨places, paths, fun url text read => ?_⟩
  rcases Mapping.textsOf_eq_ok_iff.1 read with ⟨isFile, path, known, ofPath⟩ | answered
  · refine (paths path text ofPath).imp (fun kept => ?_) fun ⟨place, leads, isOutput⟩ => ?_
    · exact Mapping.textsOf_eq_ok_iff.2 (.inl ⟨isFile, path, known, kept⟩)
    · exact ⟨path, place, known, leads, isOutput⟩
  · exact .inl (Mapping.textsOf_eq_ok_iff.2 (.inr answered))

/-- The first source is kept, as it does not lie where the hand-off documents do. -/
theorem files_kept_apart_from_outputs_shops :
    ComesTo (answeringAlike shopReply) (run remoteShops .models) shopsTree
        (.ok ["/out/shop.json", "/out/shop.json"]) shopsTreeB ∧
      shopsTree.readText "/a/shop.json" = .ok (titled "A").root.render ∧
      shopsTreeB.readText "/a/shop.json" = .ok (titled "A").root.render := by
  refine ⟨comesTo_run_remoteShops, rfl, ?_⟩
  have output : ∀ source ∈ remoteShops.sources,
      outputPath remoteShops.outputDirectory source = "/out/shop.json" := by decide
  obtain ⟨_, paths, _⟩ := files_kept_apart_from_outputs comesTo_run_remoteShops
  refine (paths "/a/shop.json" _ rfl).resolve_right ?_
  rintro ⟨_, ⟨_, ⟨⟩, rfl⟩, source, among, _, leads, same⟩
  rw [output source among] at leads
  cases leads
  revert same
  decide

/-! ## A source where its hand-off document goes -/

/-- The hand-off documents lie next to the source. -/
def besides : Config :=
  { Config.standard with sources := ["/a/shop.json"], outputDirectory := "/a" }

/-- A source that lies where its hand-off document goes is overwritten. -/
theorem source_overwritten :
    ComesTo .offline (run besides .models) halfTree (.ok ["/a/shop.json"])
        (halfTree.put "/a/shop.json" (.file (some (shopHandOff "A").toJson.pretty))) ∧
      halfTree.readText "/a/shop.json" = .ok (titled "A").root.render ∧
      (halfTree.put "/a/shop.json" (.file (some (shopHandOff "A").toJson.pretty))).readText
        "/a/shop.json" ≠ .ok (titled "A").root.render := by
  have made : halfTree.makeDirectories besides.outputDirectory = (.ok (), halfTree) := rfl
  have read : (halfTree.put "/a/shop.json" (.file (some (shopHandOff "A").toJson.pretty))).readText
      "/a/shop.json" = .ok (shopHandOff "A").toJson.pretty := rfl
  refine ⟨comesTo_run_iff.2 (.handled (by decide) rfl made ?_), rfl, ?_⟩
  · rw [outcome_of_unmapped besides rfl]
    refine .all (.cons (.written (loadFrom_titled (by decide) rfl) rfl rfl
      (FileTree.writeText_eq_ok_iff.2 ⟨⟨"/a/shop.json", true, false⟩, rfl, rfl, rfl, ?_, rfl⟩)) .nil)
    decide
  · rw [read]
    decide +kernel

end Generation

end SchemaBinder
