import SchemaBinder.Config.File
import SchemaBinder.Proofs.FileTree
import SchemaBinder.Proofs.Machine
import SchemaBinder.Proofs.Spelling
/-!
# Configurations that are saved

A configuration is read back from the table that it is written as.

Each of the three records of a configuration has a partial form, in which the fields with some keys
are its own and the others are the defaults.  Reading one more field adds its key, so the order of
the fields does not matter, and fields that are not written have their defaults.

What decoding makes has no repeated packages and resources (`Config.distinct_of_ofSetting`), which
reading would drop.
-/

namespace SchemaBinder

open Setting (Spells)

/-! ## Mappings -/

namespace Mapping

/-- The fields of a mapping. -/
def fields (m : Mapping) : List (String × Setting) :=
  [("directMap", .table (m.direct.entries.map fun p => (p.1, .text p.2))),
    ("packages", .list (m.packages.map .text)), ("externalResources", .list (m.resources.map .text))]

theorem toSetting_eq (m : Mapping) : m.toSetting = .table m.fields := rfl

/-- The mapping with only the fields of some keys. -/
def only (m : Mapping) (keys : List String) : Mapping where
  direct := if "directMap" ∈ keys then m.direct else .empty
  packages := if "packages" ∈ keys then m.packages else []
  resources := if "externalResources" ∈ keys then m.resources else []

/-- Packages and resources are listed once each. -/
structure Distinct (m : Mapping) : Prop where
  packages : m.packages.Nodup
  resources : m.resources.Nodup

variable {m : Mapping} {key : String} {v w : Setting}

theorem readField_of_spells (distinct : m.Distinct) (written : (key, w) ∈ m.fields)
    (spelled : Spells v w) (keys : List String) :
    readField (m.only keys) key v = .ok (m.only (key :: keys)) := by
  simp only [fields, List.mem_cons, Prod.mk.injEq, List.not_mem_nil, or_false] at written
  obtain ⟨rfl, rfl⟩ | ⟨rfl, rfl⟩ | ⟨rfl, rfl⟩ := written
  · exact Setting.return_of_ok (Setting.readTextTable_of_spells spelled) (by simp [only])
  · exact Setting.return_of_ok (Setting.readTextOrTexts_of_spells distinct.packages spelled)
      (by simp [only])
  · exact Setting.return_of_ok (Setting.readTextOrTexts_of_spells distinct.resources spelled)
      (by simp [only])

theorem only_of_complete (keys : List String) (complete : ∀ field ∈ m.fields, field.1 ∈ keys) :
    m.only keys = m := by
  simp only [fields, List.forall_mem_cons] at complete
  simp only [only, complete, if_true]

/-- A mapping is read back from what it is written as. -/
theorem ofSetting_of_spells (distinct : m.Distinct) (asList : Bool)
    (spelled : Spells v m.toSetting) : ofSetting asList v = .ok m := by
  rw [toSetting_eq] at spelled
  obtain ⟨read, rfl, keys, each⟩ := Setting.exists_fields_of_spells spelled
  have fields : Setting.readFields asList fieldNames (.table read) = .ok read := by
    cases asList <;> rfl
  have once : (m.fields.map (·.1)).Nodup := (by decide : Mapping.fieldNames.Nodup)
  have whole : Setting.readInto fieldNames readField (m.only []) read = .ok m := by
    refine Setting.readInto_of_complete fieldNames once keys (fun p member => ?_) only_of_complete
    obtain ⟨w, written, spelled⟩ := each p member
    exact readField_of_spells distinct written spelled
  rw [ofSetting, fields]
  exact whole

/-- Reading a mapping leaves no package and no resource twice. -/
theorem distinct_of_ofSetting {asList : Bool} (made : ofSetting asList v = .ok m) :
    m.Distinct := by
  obtain ⟨read, _, made⟩ := bind_eq_ok_iff.1 made
  refine Setting.of_readInto (motive := Distinct) ⟨List.nodup_nil, List.nodup_nil⟩ ?_ made
  intro m key v next distinct made
  unfold readField at made
  split at made
  · obtain ⟨direct, _, made⟩ := bind_eq_ok_iff.1 made
    cases made
    exact ⟨distinct.packages, distinct.resources⟩
  · obtain ⟨packages, texts, made⟩ := bind_eq_ok_iff.1 made
    cases made
    exact ⟨Setting.nodup_of_readTextOrTexts texts, distinct.resources⟩
  · obtain ⟨resources, texts, made⟩ := bind_eq_ok_iff.1 made
    cases made
    exact ⟨distinct.packages, Setting.nodup_of_readTextOrTexts texts⟩
  · cases made
    exact distinct

end Mapping

/-! ## Options -/

namespace GenerationOptions

/-- The options with only the fields of some keys. -/
def only (o : GenerationOptions) (keys : List String) : GenerationOptions where
  enableGenerics := if "enableGenerics" ∈ keys then o.enableGenerics else standard.enableGenerics
  enableValidation :=
    if "enableValidation" ∈ keys then o.enableValidation else standard.enableValidation
  dateLibrary := if "dateLibrary" ∈ keys then o.dateLibrary else standard.dateLibrary
  operations.securityHeaders :=
    if "securityHeadersAsArguments" ∈ keys then o.operations.securityHeaders
    else standard.operations.securityHeaders
  operations.basePathAsRoot :=
    if "basePathAsRoot" ∈ keys then o.operations.basePathAsRoot
    else standard.operations.basePathAsRoot
  apiSuffix := if "apiSuffix" ∈ keys then o.apiSuffix else standard.apiSuffix
  modelSuffix := if "modelNameSuffix" ∈ keys then o.modelSuffix else standard.modelSuffix

variable {o : GenerationOptions} {key : String} {v w : Setting}

theorem get?_dateLibraries (d : DateLibrary) : Assoc.get? d.name dateLibraries = some d := by
  cases d <;> decide

theorem readField_of_spells (written : (key, w) ∈ o.toFields) (spelled : Spells v w)
    (keys : List String) : readField (o.only keys) key v = .ok (o.only (key :: keys)) := by
  simp only [toFields, List.mem_append, List.mem_cons, Prod.mk.injEq, List.not_mem_nil, or_false,
    Option.mem_toList, Option.map_eq_some_iff] at written
  obtain ((⟨rfl, rfl⟩ | ⟨rfl, rfl⟩ | ⟨rfl, rfl⟩ | ⟨rfl, rfl⟩ | ⟨rfl, rfl⟩) |
    ⟨s, ending, rfl, rfl⟩) | ⟨s, ending, rfl, rfl⟩ := written
  · exact Setting.return_of_ok (Setting.readBoolSettled_of_spells spelled) (by simp [only])
  · exact Setting.return_of_ok (Setting.readBoolSettled_of_spells spelled) (by simp [only])
  · exact Setting.return_of_ok (Setting.readCase_of_spells (get?_dateLibraries _) spelled)
      (by simp [only])
  · exact Setting.return_of_ok (Setting.readBoolSettled_of_spells spelled) (by simp [only])
  · exact Setting.return_of_ok (Setting.readBoolSettled_of_spells spelled) (by simp [only])
  · exact Setting.return_of_ok (Setting.readTextSettled?_of_spells spelled) (by simp [only, ending])
  · exact Setting.return_of_ok (Setting.readTextSettled?_of_spells spelled) (by simp [only, ending])

/-- A field of another name is no option. -/
theorem readField_of_notMem (other : key ∉ fieldNames) (keys : List String) :
    readField (o.only keys) key v = .ok (o.only (key :: keys)) := by
  have unread : readField (o.only keys) key v = .ok (o.only keys) := by
    unfold readField
    split <;> first | rfl | exact absurd (by decide) other
  have same : o.only (key :: keys) = o.only keys := by
    simp only [fieldNames, List.mem_cons, List.not_mem_nil, or_false, not_or, @eq_comm _ key]
      at other
    simp only [only, List.mem_cons, other, false_or]
  rw [unread, same]

/-- The value of an option has a JSON form. -/
theorem known_of_spells (written : (key, w) ∈ o.toFields) (spelled : Spells v w) :
    key ∈ fieldNames ∧ v.toJson?.isSome := by
  simp only [toFields, List.mem_append, List.mem_cons, Prod.mk.injEq, List.not_mem_nil, or_false,
    Option.mem_toList, Option.map_eq_some_iff] at written
  obtain ((⟨rfl, rfl⟩ | ⟨rfl, rfl⟩ | ⟨rfl, rfl⟩ | ⟨rfl, rfl⟩ | ⟨rfl, rfl⟩) |
    ⟨s, _, rfl, rfl⟩) | ⟨s, _, rfl, rfl⟩ := written
  all_goals refine ⟨by decide, ?_⟩
  all_goals first
    | exact Setting.toJson?_of_spells_bool spelled
    | exact Setting.toJson?_of_spells_text spelled

theorem only_of_complete (keys : List String) (complete : ∀ field ∈ o.toFields, field.1 ∈ keys) :
    o.only keys = o := by
  simp only [toFields, List.forall_mem_append, List.forall_mem_cons] at complete
  obtain ⟨⟨fixed, api⟩, model⟩ := complete
  obtain ⟨_, _, _, ⟨_, _⟩, apiSuffix, modelSuffix⟩ := o
  cases apiSuffix <;> cases modelSuffix <;> simp_all [only, standard]

end GenerationOptions

/-! ## Configurations -/

namespace Config

/-- The fields of a configuration, its options apart. -/
def ownFields (c : Config) : List (String × Setting) :=
  [("sourceFiles", .list (c.sources.map .text)), ("outputDir", .text c.outputDirectory)]
    ++ (c.modelPackage.map fun s => ("modelPackage", Setting.text s)).toList
    ++ (c.apiPackage.map fun s => ("apiPackage", Setting.text s)).toList
    ++ [("verbose", .bool c.verbose), ("dataTypeMapping", c.mapping.toSetting),
      ("typeManifests", .list (c.manifests.map .text)),
      ("fetchTimeoutSecs", .int c.fetchSeconds.toNat)]

theorem toSetting_eq (c : Config) : c.toSetting = .table (c.ownFields ++ c.options.toFields) :=
  rfl

/-- The configuration with only the fields of some keys, and without its options. -/
def only (c : Config) (keys : List String) : Config where
  sources := if "sourceFiles" ∈ keys then c.sources else standard.sources
  outputDirectory := if "outputDir" ∈ keys then c.outputDirectory else standard.outputDirectory
  modelPackage := if "modelPackage" ∈ keys then c.modelPackage else standard.modelPackage
  apiPackage := if "apiPackage" ∈ keys then c.apiPackage else standard.apiPackage
  verbose := if "verbose" ∈ keys then c.verbose else standard.verbose
  mapping := if "dataTypeMapping" ∈ keys then c.mapping else standard.mapping
  manifests := if "typeManifests" ∈ keys then c.manifests else standard.manifests
  fetchSeconds := if "fetchTimeoutSecs" ∈ keys then c.fetchSeconds else standard.fetchSeconds
  options := standard.options

variable {c : Config} {asList : Bool} {key : String} {v w : Setting}

theorem readField_of_spells (distinct : c.mapping.Distinct) (written : (key, w) ∈ c.ownFields)
    (spelled : Spells v w) (keys : List String) :
    readField asList (c.only keys) key v = .ok (c.only (key :: keys)) := by
  simp only [ownFields, List.mem_append, List.mem_cons, Prod.mk.injEq, List.not_mem_nil, or_false,
    Option.mem_toList, Option.map_eq_some_iff] at written
  obtain (((⟨rfl, rfl⟩ | ⟨rfl, rfl⟩) | ⟨s, package, rfl, rfl⟩) | ⟨s, package, rfl, rfl⟩) |
    (⟨rfl, rfl⟩ | ⟨rfl, rfl⟩ | ⟨rfl, rfl⟩ | ⟨rfl, rfl⟩) := written
  · exact Setting.return_of_ok (Setting.readTexts_of_spells spelled) (by simp [only])
  · exact Setting.return_of_ok (Setting.readText_of_spells spelled) (by simp [only])
  · exact Setting.return_of_ok (Setting.readText?_of_spells spelled) (by simp [only, package])
  · exact Setting.return_of_ok (Setting.readText?_of_spells spelled) (by simp [only, package])
  · exact Setting.return_of_ok (Setting.readBool_of_spells spelled) (by simp [only])
  · exact Setting.return_of_ok (Mapping.ofSetting_of_spells distinct asList spelled)
      (by simp [only])
  · exact Setting.return_of_ok (Setting.readTexts_of_spells spelled) (by simp [only])
  · exact Setting.return_of_ok (Setting.readWord_of_spells spelled) (by simp [only])

/-- A field of another name is passed over if its value has a JSON form. -/
theorem readField_of_notMem (other : key ∉ fieldNames) (known : v.toJson?.isSome)
    (keys : List String) : readField asList (c.only keys) key v = .ok (c.only (key :: keys)) := by
  have unread : readField asList (c.only keys) key v = .ok (c.only keys) := by
    unfold readField
    split
    all_goals first | exact absurd (by decide) other | exact if_pos known
  have same : c.only (key :: keys) = c.only keys := by
    simp only [fieldNames, List.mem_cons, List.not_mem_nil, or_false, not_or, @eq_comm _ key]
      at other
    simp only [only, List.mem_cons, other, false_or]
  rw [unread, same]

theorem only_of_complete (keys : List String) (complete : ∀ field ∈ c.ownFields, field.1 ∈ keys) :
    c.only keys = { c with options := .standard } := by
  simp only [ownFields, List.forall_mem_append, List.forall_mem_cons] at complete
  obtain ⟨⟨⟨first, model⟩, api⟩, last⟩ := complete
  obtain ⟨_, _, modelPackage, apiPackage, _, _, _, _, _⟩ := c
  cases modelPackage <;> cases apiPackage <;> simp_all [only, standard]

/-- The own fields of a configuration and its options have different names. -/
theorem nodup_fields (c : Config) :
    ((c.ownFields ++ c.options.toFields).map (·.1)).Nodup := by
  obtain ⟨_, _, modelPackage, apiPackage, _, _, _, _, ⟨_, _, _, _, apiSuffix, modelSuffix⟩⟩ := c
  cases modelPackage <;> cases apiPackage <;> cases apiSuffix <;> cases modelSuffix <;>
    simp [ownFields, GenerationOptions.toFields]

theorem key_of_ownFields (written : (key, w) ∈ c.ownFields) : key ∈ fieldNames := by
  simp only [ownFields, List.mem_append, List.mem_cons, Prod.mk.injEq, List.not_mem_nil, or_false,
    Option.mem_toList, Option.map_eq_some_iff] at written
  obtain (((⟨rfl, _⟩ | ⟨rfl, _⟩) | ⟨_, _, rfl, _⟩) | ⟨_, _, rfl, _⟩) |
    (⟨rfl, _⟩ | ⟨rfl, _⟩ | ⟨rfl, _⟩ | ⟨rfl, _⟩) := written
  all_goals decide

/-- A configuration is read back from what it is written as. -/
theorem ofSetting_of_spells (distinct : c.mapping.Distinct) (asList : Bool)
    (spelled : Spells v c.toSetting) : ofSetting asList v = .ok c := by
  rw [toSetting_eq] at spelled
  obtain ⟨read, rfl, keys, each⟩ := Setting.exists_fields_of_spells spelled
  have apart : ∀ key ∈ fieldNames, key ∉ GenerationOptions.fieldNames := by decide
  have own : Setting.readInto fieldNames (readField asList) standard read =
      .ok { c with options := .standard } := by
    show Setting.readInto fieldNames (readField asList) (c.only []) read = _
    refine Setting.readInto_of_complete fieldNames c.nodup_fields keys (fun p member => ?_)
      fun keys complete => only_of_complete keys fun field own => complete field
        (List.mem_append_left _ own)
    obtain ⟨w, written, spelled⟩ := each p member
    obtain own | option := List.mem_append.1 written
    · exact readField_of_spells distinct own spelled
    · obtain ⟨isOption, known⟩ := GenerationOptions.known_of_spells option spelled
      exact readField_of_notMem (fun own => apart _ own isOption) known
  have options : Setting.readInto GenerationOptions.fieldNames GenerationOptions.readField
      .standard read = .ok c.options := by
    show Setting.readInto _ _ (c.options.only []) read = _
    refine Setting.readInto_of_complete _ c.nodup_fields keys (fun p member => ?_)
      fun keys complete => GenerationOptions.only_of_complete keys fun field option =>
        complete field (List.mem_append_right _ option)
    obtain ⟨w, written, spelled⟩ := each p member
    obtain own | option := List.mem_append.1 written
    · exact GenerationOptions.readField_of_notMem (apart _ (key_of_ownFields own))
    · exact GenerationOptions.readField_of_spells option spelled
  show (Setting.readInto fieldNames (readField asList) standard read >>= fun made =>
    Setting.readInto GenerationOptions.fieldNames GenerationOptions.readField .standard read >>=
      fun options => Except.ok { made with options }) = _
  rw [own, options]
  rfl

/-- The mapping of a configuration that is read has no package and no resource twice. -/
theorem distinct_of_ofSetting (made : ofSetting asList v = .ok c) : c.mapping.Distinct := by
  obtain ⟨read, _, made⟩ := bind_eq_ok_iff.1 made
  obtain ⟨own, first, made⟩ := bind_eq_ok_iff.1 made
  obtain ⟨options, _, made⟩ := bind_eq_ok_iff.1 made
  cases made
  refine Setting.of_readInto (motive := fun c => c.mapping.Distinct)
    ⟨List.nodup_nil, List.nodup_nil⟩ ?_ first
  intro c key v next distinct made
  unfold readField at made
  split at made
  -- the sixth field is the mapping, and a field of another name is the ninth case
  case h_6 =>
    obtain ⟨mapping, read, made⟩ := bind_eq_ok_iff.1 made
    cases made
    exact Mapping.distinct_of_ofSetting read
  case h_9 =>
    split at made
    · cases made
      exact distinct
    · cases made
  all_goals
    obtain ⟨_, _, made⟩ := bind_eq_ok_iff.1 made
    cases made
    exact distinct

/-! ## Files -/

/-- A notation gives a setting back: the text it writes for the setting is read as a value that
spells it. -/
def Kept (inToml : Bool) (v : Setting) : Prop :=
  if inToml then ∀ text, Toml.render? v = some text → ∃ w, Toml.read? text = some w ∧ Spells w v
  else ∃ w, Yaml.read? (Yaml.render v) = some w ∧ Spells w v

theorem parse_of_render {inToml : Bool} {text : String} (distinct : c.mapping.Distinct)
    (kept : Kept inToml c.toSetting) (rendered : c.render inToml = .ok text) :
    parse inToml text = .ok c := by
  cases inToml with
  | true =>
    unfold render at rendered
    simp only [if_true] at rendered
    split at rendered
    · next written =>
      cases rendered
      obtain ⟨w, read, spelled⟩ := kept _ written
      simp only [parse, if_true, read, Option.map_some, ofSetting_of_spells distinct true spelled]
    · cases rendered
  | false =>
    cases rendered
    obtain ⟨w, read, spelled⟩ := kept
    simp only [parse, read, Option.map_some, ofSetting_of_spells distinct false spelled,
      Bool.false_eq_true, if_false]

variable {tree tree' : FileTree} {path text : String}

theorem ends_save_iff : Ends (c.save path) tree () tree' ↔
    ∃ text, c.render (isToml path) = .ok text ∧ tree.writeText path text = .ok tree' := by
  unfold save
  cases c.render (isToml path) with
  | error e =>
    constructor
    · rintro ⟨⟩
    · rintro ⟨_, ⟨⟩, _⟩
  | ok text =>
    rw [ends_bind_iff]
    constructor
    · rintro ⟨outcome, middle, wrote, rest⟩
      have wrote := ends_lift_iff.1 wrote
      cases outcome with
      | error e => cases rest
      | ok _ =>
        obtain ⟨_, rfl⟩ := ends_pure_iff.1 rest
        exact ⟨text, rfl, run_writeText_eq_ok_iff.1 wrote⟩
    · rintro ⟨_, ⟨⟩, written⟩
      exact ⟨.ok (), tree', ends_lift_iff.2 (run_writeText_eq_ok_iff.2 written),
        ends_pure_iff.2 ⟨rfl, rfl⟩⟩

theorem ends_load (there : tree.readText path = .ok text)
    (parsed : parse (isToml path) text = .ok c) : Ends (load path) tree c tree := by
  unfold load
  rw [ends_bind_iff]
  refine ⟨.ok text, tree, ends_lift_iff.2 ?_, ends_mk_iff.2 ⟨parsed, rfl⟩⟩
  show (tree.readText path, tree) = _
  rw [there]

/-- A configuration that is saved and loaded again is the same, if it comes from any decoding and
the notation of its file gives its setting back. -/
theorem saved_config_loaded (asList : Bool) (v : Setting) (c : Config)
    (made : ofSetting asList v = .ok c) (path : String) (kept : Kept (isToml path) c.toSetting)
    (tree tree' : FileTree) (saved : Ends (c.save path) tree () tree') :
    Ends (load path) tree' c tree' := by
  obtain ⟨text, rendered, written⟩ := ends_save_iff.1 saved
  exact ends_load (FileTree.readText_writeText written)
    (parse_of_render (distinct_of_ofSetting made) kept rendered)

/-! ## A configuration with a mapping -/

theorem toList_render (v : Setting) :
    (Yaml.render v).toList = (Yaml.Printer.lines v).flatMap (·.toList ++ ['\n']) := by
  simp [Yaml.render, String.toList_join, List.flatMap_map]

/-- A configuration with some of its optional fields. -/
def shop : Config :=
  { standard with
    sources := ["pets.json"]
    modelPackage := some "pets"
    mapping := ⟨.ofList [("Money", "org.Money")], ["org.pets"], []⟩
    options.apiSuffix := some "Api" }

/-- The setting that the configuration is decoded from. -/
def shopSetting : Setting :=
  .table [("apiSuffix", .text "Api"), ("modelPackage", .plain "pets"),
    ("sourceFiles", .list [.text "pets.json"]),
    ("dataTypeMapping", .table [("directMap", .table [("Money", .text "org.Money")]),
      ("packages", .text "org.pets")])]

theorem kept_shop : Kept false shop.toSetting := by
  have kept : (Yaml.read? (Yaml.render shop.toSetting)).any
      (Setting.spellsInOrder · shop.toSetting) = true := by
    rw [Yaml.read?, Yaml.source?, toList_render]
    decide +kernel
  obtain ⟨w, read, spelled⟩ := (Option.any_eq_true _ _).1 kept
  exact ⟨w, read, Setting.spells_of_inOrder spelled⟩

theorem saved_config_loaded_shop :
    ofSetting false shopSetting = .ok shop ∧
      ∃ tree, Ends (shop.save "shop.yaml") ⟨.empty, ""⟩ () tree ∧
        Ends (load "shop.yaml") tree shop tree := by
  have made : ofSetting false shopSetting = .ok shop := rfl
  have saved : Ends (shop.save "shop.yaml") ⟨.empty, ""⟩ ()
      (FileTree.put ⟨.empty, ""⟩ "/shop.yaml" (.file (some (Yaml.render shop.toSetting)))) :=
    ends_save_iff.2 ⟨Yaml.render shop.toSetting, rfl, rfl⟩
  exact ⟨made, _, saved, saved_config_loaded false shopSetting shop made "shop.yaml" kept_shop _ _
    saved⟩

end Config

end SchemaBinder
