import SchemaBinder.Document.File
import SchemaBinder.HandOff
import SchemaBinder.Proofs.Json.Reading
import SchemaBinder.Proofs.Yaml
import SchemaBinder.Url.PlainNames
/-!
# The two notations of a document

A text that can be read as JSON is a document whatever its value is; only a value in YAML must be an
object (`Document.parse_eq_ok_iff`).  So a list, a text or `null` is refused if it is written in a way
that is YAML alone, and accepted if it is written in JSON, as every value can be
(`Document.parse_render`).

Nothing can be looked up in a document that is no object.  It has no models and no operations, and
nothing can fail, so it is handed off as a document with empty parts
(`HandOff.ofDocument_of_not_isObj`).
-/

namespace SchemaBinder

/-! ## Texts -/

namespace Document

variable {text : String} {doc : Document} {v : Json}

/-- The value that a text writes in YAML. -/
def yamlValue? (text : String) : Option Json := (Yaml.read? text).bind Setting.toJson?

theorem parse_of_json (read : Json.read? text = some v) : parse text = .ok ⟨v⟩ := by
  rw [parse, read]

theorem parse_of_yaml (other : Json.read? text = none) (value : yamlValue? text = some v) :
    parse text = if v.isObj then .ok ⟨v⟩ else .error .notObject := by
  rw [yamlValue?] at value
  rw [parse, other]
  dsimp only
  rw [value]

theorem parse_of_neither (other : Json.read? text = none) (value : yamlValue? text = none) :
    parse text = .error .noNotation := by
  rw [yamlValue?] at value
  rw [parse, other]
  dsimp only
  rw [value]

/-- A text is accepted as a document if it writes any value in JSON, or else an object in YAML. -/
theorem parse_eq_ok_iff : parse text = .ok doc ↔ Json.read? text = some doc.root ∨
    Json.read? text = none ∧ yamlValue? text = some doc.root ∧ doc.root.isObj = true := by
  constructor
  · intro parsed
    cases read : Json.read? text with
    | some v =>
      cases (parse_of_json read).symm.trans parsed
      exact .inl rfl
    | none =>
      cases value : yamlValue? text with
      | none => cases (parse_of_neither read value).symm.trans parsed
      | some v =>
        rw [parse_of_yaml read value] at parsed
        split at parsed
        · next object =>
          cases parsed
          exact .inr ⟨rfl, rfl, object⟩
        · cases parsed
  · rintro (read | ⟨read, value, object⟩)
    · exact parse_of_json read
    · rw [parse_of_yaml read value, if_pos object]

/-- A document that is read can be stored, in whichever notation it is written. -/
theorem storable_of_parse (parsed : parse text = .ok doc) : doc.root.Storable := by
  rcases parse_eq_ok_iff.1 parsed with read | ⟨_, value, _⟩
  · exact Json.storable_of_read? read
  · obtain ⟨v, read, settled⟩ := Option.bind_eq_some_iff.1 value
    exact (Yaml.fitting_of_read? read).storable settled

/-- Whatever value is written in JSON, its text is accepted as a document. -/
theorem parse_render (wellFormed : v.WellFormed) (inRange : v.InRange)
    (bounded : v.depth ≤ Json.Stage.maxOpen) : parse v.render = .ok ⟨v.rounded⟩ :=
  parse_of_json (Json.read?_render_rounded wellFormed inRange bounded)

end Document

theorem Json.get?_of_not_isObj {v : Json} (other : v.isObj = false) (key : String) :
    v.get? key = none := by
  cases v with
  | obj fields => cases other
  | _ => rfl

/-! ## Hand-off documents -/

namespace HandOff

/-- The hand-off document with empty parts. -/
def blank (config : Config) (target : Target) : HandOff where
  title := none
  version := none
  models := if target.hasModels then some [] else none
  interfaces := if target.hasApis then some [] else none
  additionalProperties := config.additionalProperties

section NoObject

variable {doc : Document} (other : doc.root.isObj = false)
include other

theorem boundModels_of_not_isObj (config : Config) (registry : TypeRegistry) :
    boundModels config registry doc = .ok [] := by
  have none : doc.schemas = none := by
    unfold Document.schemas
    simp [Json.getObj?, Json.get?_of_not_isObj other]
  rw [boundModels, Model.ofDocument, none]
  rfl

theorem boundInterfaces_of_not_isObj [DomainNames] (config : Config) (registry : TypeRegistry) :
    boundInterfaces config registry doc = .ok [] := by
  have none : doc.paths = none := by
    simp [Document.paths, Json.getObj?, Json.get?_of_not_isObj other]
  rw [boundInterfaces, Api.ofDocument, none]
  rfl

/-- Nothing is made of a document that is no object, and nothing fails. -/
theorem ofDocument_of_not_isObj [DomainNames] (config : Config) (registry : TypeRegistry)
    (target : Target) : ofDocument config registry doc target = .ok (blank config target) := by
  have title : doc.title = none := by rw [Document.title, Json.get?_of_not_isObj other]; rfl
  have version : doc.version = none := by rw [Document.version, Json.get?_of_not_isObj other]; rfl
  rw [ofDocument, boundModels_of_not_isObj other, boundInterfaces_of_not_isObj other, title,
    version]
  cases target <;> rfl

end NoObject

end HandOff

/-! ## Documents that are no objects -/

namespace Document

theorem isObj_rounded {v : Json} (inRange : v.InRange) : v.rounded.isObj = v.isObj := by
  cases v with
  | float x =>
    obtain ⟨y, same⟩ := Json.rounded_float (inRange _ (Json.self_mem_parts _))
    rw [same]
    rfl
  | _ => rfl

/-- A text is accepted for objects only exactly if it does not write anything else in JSON.  One that
writes another value in YAML alone is refused, and one that writes another value in JSON, as every
value can be written, is accepted.  What is made of the document is then a hand-off document with
empty parts. -/
theorem objects_only_unless_json [DomainNames] (text : String) :
    ((∀ doc, parse text = .ok doc → doc.root.isObj = true) ↔
      ∀ v, Json.read? text = some v → v.isObj = true) ∧
    (Json.read? text = none → ∀ v, yamlValue? text = some v → v.isObj = false →
      parse text = .error .notObject) ∧
    (∀ v : Json, v.WellFormed → v.InRange → v.depth ≤ Json.Stage.maxOpen → text = v.render →
      ∃ doc, parse text = .ok doc ∧ doc.root = v.rounded ∧ doc.root.isObj = v.isObj) ∧
    ∀ doc, parse text = .ok doc → doc.root.isObj = false → ∀ config registry target,
      HandOff.ofDocument config registry doc target = .ok (.blank config target) := by
  refine ⟨⟨?_, ?_⟩, ?_, ?_, ?_⟩
  · intro objects v read
    exact objects ⟨v⟩ (parse_of_json read)
  · intro objects doc parsed
    rcases parse_eq_ok_iff.1 parsed with read | ⟨_, _, object⟩
    · exact objects doc.root read
    · exact object
  · intro read v value other
    rw [parse_of_yaml read value, if_neg (by simp [other])]
  · rintro v wellFormed inRange bounded rfl
    exact ⟨_, parse_render wellFormed inRange bounded, rfl, isObj_rounded inRange⟩
  · intro doc _ other config registry target
    exact HandOff.ofDocument_of_not_isObj other config registry target

/-- A list of one text. -/
def petList : Json := .arr [.str "pets"]

theorem objects_only_unless_json_pets :
    (∃ doc, parse petList.render = .ok doc ∧ doc.root = petList ∧ ∀ config registry,
        HandOff.ofDocument config registry doc .all = .ok (.blank config .all)) ∧
      parse "- pets" = .error .notObject := by
  obtain ⟨_, _, written, emptied⟩ := objects_only_unless_json petList.render
  obtain ⟨doc, parsed, root, other⟩ :=
    written petList (by decide) (by decide) (by decide) rfl
  have json : Json.read? "- pets" = none := Option.isNone_iff_eq_none.1 (by decide +kernel)
  have yaml : (yamlValue? "- pets").any (fun v => !v.isObj) = true := by decide +kernel
  obtain ⟨v, value, list⟩ := (Option.any_eq_true _ _).1 yaml
  exact ⟨⟨doc, parsed, root, fun config registry => emptied doc parsed other config registry .all⟩,
    (objects_only_unless_json "- pets").2.1 json v value (by simpa using list)⟩

/-- A list is accepted as a document if it is written in JSON. -/
theorem list_accepted_in_json :
    parse "[\"pets\"]" = .ok ⟨petList⟩ ∧ petList.isObj = false := by
  have text : petList.render = "[\"pets\"]" := by decide +kernel
  rw [← text]
  exact ⟨parse_of_json (Json.read?_render (by decide) (by decide) (by decide)), rfl⟩

end Document

end SchemaBinder
