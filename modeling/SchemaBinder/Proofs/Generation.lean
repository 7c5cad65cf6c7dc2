import SchemaBinder.Proofs.Notations
import SchemaBinder.Proofs.Outcomes
import SchemaBinder.Url.PlainNames
/-!
# The files of a run

A run that succeeds hands its sources off one after the other (`Generation.HandedOff`).  The file of a
source has its hand-off document until another source with the same stem is handed off.  So in the end
it has the one of the last source with that stem (`Generation.last_source_wins`).
-/

namespace SchemaBinder.Generation

variable {config : Config} {target : Target} {network : Network}
  {registry : Option (Except Fault TypeRegistry)} {tree tree' next : FileTree} {source : String}
  {sources paths : List String} {h : HandOff} {hs : List HandOff}

/-! ## What stays of a hand-off document -/

theorem noSlash_stem (source : String) : '/' ∉ (stem source).toList := by
  rw [stem]
  cases found : PathName.stem? (String.ofList
      (source.toList.takeWhile fun c => c ≠ '?' && c ≠ '#')) with
  | none => decide
  | some name => exact PathName.noSlash_of_stem? found

/-- The file of a hand-off document has a name. -/
theorem isName_stem (source : String) : PathName.IsName (stem source ++ ".json") := by
  have ending : 'j' ∈ (stem source ++ ".json").toList := by simp
  refine ⟨?_, ?_, ?_, by simpa using noSlash_stem source⟩
  all_goals
    intro same
    rw [same] at ending
    revert ending
    decide

section Kept

variable [DomainNames]

/-- Afterwards the file has the hand-off document. -/
theorem HandsOff.readText (one : HandsOff config target network registry tree source h next) :
    next.readText (outputPath config.outputDirectory source) = .ok h.toJson.pretty := by
  obtain ⟨_, _, _, written⟩ := one
  exact FileTree.readText_writeText written

/-- A source with another stem leaves the file as it is. -/
theorem HandsOff.keeps {other text : String}
    (one : HandsOff config target network registry tree source h next)
    (apart : stem source ≠ stem other)
    (read : tree.readText (outputPath config.outputDirectory other) = .ok text) :
    next.readText (outputPath config.outputDirectory other) = .ok text := by
  obtain ⟨_, _, _, written⟩ := one
  refine FileTree.readText_of_writeText written read fun t t' found found' => ?_
  refine FileTree.place_ne_of_name_ne (isName_stem source) (isName_stem other) ?_ found found'
  intro same
  refine apart (String.toList_inj.1 ?_)
  simpa using congrArg String.toList same

theorem HandedOff.keeps {other text : String}
    (handedOff : HandedOff config target network registry tree sources hs tree')
    (apart : ∀ source ∈ sources, stem source ≠ stem other)
    (read : tree.readText (outputPath config.outputDirectory other) = .ok text) :
    tree'.readText (outputPath config.outputDirectory other) = .ok text := by
  induction handedOff with
  | nil => exact read
  | cons one _ ih =>
    obtain ⟨here, later⟩ := List.forall_mem_cons.1 apart
    exact ih later (one.keeps here read)

/-- The file of a source has its hand-off document in the end, unless a later source has the same
stem. -/
theorem HandedOff.readText {i : Nat}
    (handedOff : HandedOff config target network registry tree sources hs tree')
    (here : sources[i]? = some source) (its : hs[i]? = some h)
    (last : ∀ j later, i < j → sources[j]? = some later → stem later ≠ stem source) :
    tree'.readText (outputPath config.outputDirectory source) = .ok h.toJson.pretty := by
  induction handedOff generalizing i with
  | nil => cases here
  | cons one following ih =>
    cases i with
    | zero =>
      cases here
      cases its
      refine following.keeps (fun later member => ?_) one.readText
      obtain ⟨j, there⟩ := List.getElem?_of_mem member
      exact last (j + 1) later (Nat.succ_pos j) there
    | succ i =>
      exact ih here its fun j later after there => last (j + 1) later (Nat.succ_lt_succ after) there

theorem HandedOff.length_eq
    (handedOff : HandedOff config target network registry tree sources hs tree') :
    hs.length = sources.length := by
  induction handedOff with
  | nil => rfl
  | cons _ _ ih => rw [List.length_cons, List.length_cons, ih]

/-- A run that succeeds has one path for each source, in their order.  The file there has the
hand-off document of the last source with the same stem, which need not be that source. -/
theorem last_source_wins (done : ComesTo network (run config target) tree (.ok paths) tree') :
    paths = config.sources.map (outputPath config.outputDirectory) ∧
      ∃ manifest start hs, Manifest.loadAllFrom tree config.manifests = .ok manifest ∧
        tree.makeDirectories config.outputDirectory = (.ok (), start) ∧
        HandedOff config target network
          (Mapping.outcome manifest (Mapping.textsOf network config.fetchTimeout start)
            config.mapping) start config.sources hs tree' ∧
        hs.length = config.sources.length ∧
        ∀ (i j : Nat) (source later : String) (h : HandOff),
          config.sources[i]? = some source → config.sources[j]? = some later →
          stem later = stem source → hs[j]? = some h →
          (∀ (k : Nat) (other : String), j < k → config.sources[k]? = some other →
            stem other ≠ stem later) →
          tree'.readText (outputPath config.outputDirectory source) = .ok h.toJson.pretty := by
  cases comesTo_run_iff.1 done with
  | @handled manifest start _ _ _ loaded made handling =>
    cases handling with
    | @all hs _ handedOff =>
      refine ⟨rfl, manifest, start, hs, loaded, made, handedOff, handedOff.length_eq, ?_⟩
      intro i j source later h _ there same its last
      rw [outputPath, ← same]
      exact handedOff.readText there its last

end Kept

/-! ## Two sources with one stem -/

/-- A document that has only a title. -/
def titled (title : String) : Document := ⟨.obj [("info", .obj [("title", .str title)])]⟩

theorem parse_titled (title : String) :
    Document.parse (titled title).root.render = .ok (titled title) := by
  have wellFormed : (titled title).root.WellFormed := by
    simp [titled, Json.WellFormed, Json.parts, Json.partsFields, Json.Proper]
  have integral : (titled title).root.Integral := by
    simp [titled, Json.Integral, Json.parts, Json.partsFields, Json.isFloat]
  have bounded : (titled title).root.depth ≤ Json.Stage.maxOpen := by
    simp [titled, Json.depth, Json.depthFields, Json.Stage.maxOpen]
  exact Document.parse_of_json (Json.read?_render wellFormed integral bounded)

/-- Two sources with one stem. -/
def shops : Config :=
  { Config.standard with sources := ["/a/shop.json", "/b/shop.json"], outputDirectory := "/out" }

/-- The hand-off document of a document that has only a title. -/
def shopHandOff (title : String) : HandOff where
  title := some title
  version := none
  models := some []
  interfaces := none
  additionalProperties := shops.additionalProperties

/-- Without a mapping of its own a run has the empty registry. -/
theorem outcome_of_unmapped [DomainNames] (config : Config) (unmapped : config.mapping = .empty)
    (texts : Mapping.Texts) : Mapping.outcome .empty texts config.mapping = some (.ok .empty) := by
  rw [unmapped]
  exact (Mapping.outcome_of_ok rfl).trans (Mapping.Merging.outcomeFrom_of_result .finish)

theorem loadFrom_titled {place title : String} (isLocal : Document.isRemote place = false)
    (read : tree.readText place = .ok (titled title).root.render) :
    Document.loadFrom network tree place = .ok (titled title) := by
  rw [Document.loadFrom, isLocal, read]
  show Document.ofRead place (.ok _) = _
  rw [Document.ofRead, parse_titled]

theorem loadFrom_titled_of_reply {place title : String} (remote : Document.isRemote place = true)
    (answered : (network.reply place).text = .ok (titled title).root.render) :
    Document.loadFrom network tree place = .ok (titled title) := by
  rw [Document.loadFrom, remote, if_pos rfl, answered]
  show Document.ofRead place (.ok _) = _
  rw [Document.ofRead, parse_titled]

/-- The two sources and the output directory. -/
def shopsTree : FileTree where
  nodes := .ofList [("/a", .directory), ("/a/shop.json", .file (some (titled "A").root.render)),
    ("/b", .directory), ("/b/shop.json", .file (some (titled "B").root.render)),
    ("/out", .directory)]
  home := ""

/-- The tree after the first source is handled. -/
def shopsTreeA : FileTree :=
  shopsTree.put "/out/shop.json" (.file (some (shopHandOff "A").toJson.pretty))

/-- The tree after both sources are handled. -/
def shopsTreeB : FileTree :=
  shopsTreeA.put "/out/shop.json" (.file (some (shopHandOff "B").toJson.pretty))

theorem writeText_first : shopsTree.writeText "/out/shop.json" (shopHandOff "A").toJson.pretty =
    .ok shopsTreeA :=
  FileTree.writeText_eq_ok_iff.2 ⟨⟨"/out/shop.json", true, false⟩, rfl, rfl, rfl, nofun, rfl⟩

theorem writeText_second : shopsTreeA.writeText "/out/shop.json" (shopHandOff "B").toJson.pretty =
    .ok shopsTreeB :=
  FileTree.writeText_eq_ok_iff.2 ⟨⟨"/out/shop.json", true, false⟩, rfl, rfl, rfl, nofun, rfl⟩

/-- Two sources with one stem, of which the second one is on the network. -/
def remoteShops : Config :=
  { shops with sources := ["/a/shop.json", "http://b/shop.json?lang=en"] }

/-- A network that answers each request alike. -/
def answeringAlike (reply : Reply) : Network := ⟨fun _ => ⟨reply, 1⟩⟩

/-- The answer with the second document. -/
def shopReply : Reply := .response ⟨200, "OK"⟩ (.ok (titled "B").root.render)

theorem comesTo_run_remoteShops [DomainNames] :
    ComesTo (answeringAlike shopReply) (run remoteShops .models) shopsTree
      (.ok ["/out/shop.json", "/out/shop.json"]) shopsTreeB := by
  have made : shopsTree.makeDirectories remoteShops.outputDirectory = (.ok (), shopsTree) := rfl
  refine comesTo_run_iff.2 (.handled (by decide) rfl made ?_)
  rw [outcome_of_unmapped remoteShops rfl]
  exact .all (.cons (.written (loadFrom_titled (by decide) rfl) rfl rfl writeText_first)
    (.cons (.written (loadFrom_titled_of_reply (by decide) rfl) rfl rfl writeText_second) .nil))

/-- The file of both sources has the hand-off document of the second one. -/
theorem last_source_wins_shops :
    ComesTo (answeringAlike shopReply) (run remoteShops .models) shopsTree
        (.ok ["/out/shop.json", "/out/shop.json"]) shopsTreeB ∧
      ∃ hs, HandedOff remoteShops .models (answeringAlike shopReply) (some (.ok .empty)) shopsTree
          remoteShops.sources hs shopsTreeB ∧
        ∃ h, hs[1]? = some h ∧ shopsTreeB.readText "/out/shop.json" = .ok h.toJson.pretty := by
  refine ⟨comesTo_run_remoteShops, ?_⟩
  obtain ⟨_, manifest, start, hs, loaded, made, handedOff, length, holds⟩ :=
    last_source_wins comesTo_run_remoteShops
  cases loaded
  cases made
  have two : 1 < hs.length := by
    rw [length]
    decide
  have second : hs[1]? = some hs[1] := List.getElem?_eq_getElem two
  have path : outputPath remoteShops.outputDirectory "/a/shop.json" = "/out/shop.json" := by decide
  have stemA : stem "/a/shop.json" = "shop" := by decide
  have stemB : stem "http://b/shop.json?lang=en" = "shop" := by decide
  have last (k : Nat) (other : String) (later : 1 < k)
      (there : remoteShops.sources[k]? = some other) :
      stem other ≠ stem "http://b/shop.json?lang=en" := by
    have inside := (List.getElem?_eq_some_iff.1 there).1
    have count : remoteShops.sources.length = 2 := rfl
    omega
  rw [outcome_of_unmapped remoteShops rfl] at handedOff
  refine ⟨hs, handedOff, _, second, ?_⟩
  rw [← path]
  exact holds 0 1 "/a/shop.json" "http://b/shop.json?lang=en" _ rfl rfl (stemB.trans stemA.symm)
    second last

/-- The hand-off document of the first source is overwritten by that of the second. -/
theorem first_source_overwritten :
    ComesTo .offline (run shops .models) shopsTree (.ok ["/out/shop.json", "/out/shop.json"])
        shopsTreeB ∧
      HandedOff shops .models .offline (some (.ok .empty)) shopsTree shops.sources
        [shopHandOff "A", shopHandOff "B"] shopsTreeB ∧
      shopsTreeB.readText "/out/shop.json" ≠ .ok (shopHandOff "A").toJson.pretty := by
  have made : shopsTree.makeDirectories shops.outputDirectory = (.ok (), shopsTree) := rfl
  have handedOff : HandedOff shops .models .offline (some (.ok .empty)) shopsTree shops.sources
      [shopHandOff "A", shopHandOff "B"] shopsTreeB :=
    .cons (.written (loadFrom_titled (by decide) rfl) rfl rfl writeText_first)
      (.cons (.written (loadFrom_titled (by decide) rfl) rfl rfl writeText_second) .nil)
  refine ⟨comesTo_run_iff.2 (.handled (by decide) rfl made ?_), handedOff, ?_⟩
  · rw [outcome_of_unmapped shops rfl]
    exact .all handedOff
  · have read : shopsTreeB.readText "/out/shop.json" = .ok (shopHandOff "B").toJson.pretty := rfl
    rw [read]
    decide +kernel

end SchemaBinder.Generation
