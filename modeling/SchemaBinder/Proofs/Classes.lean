import SchemaBinder.Proofs.Naming
import SchemaBinder.Proofs.References
/-!
# The classes of models

The models of a document are named for its schemas, each for another one.  Without an ending models
have the names of their schemas as classes, so these are distinct as well.

With an ending the class of a model is the name of a type, made from the name of its schema.  Such a
name forgets case and punctuation, so the schemas `pet_status` and `PetStatus` have one class.  It
forgets nothing else: models of one class are named for schemas with the same letters and digits
(`Model.classes_distinct`).
-/

namespace SchemaBinder

namespace NamePolicy

variable {names : NamePolicy} {a b : String}

theorem modelName_eq_iff_of_none (plain : names.modelSuffix = none) :
    names.modelName a = names.modelName b ↔ a = b := by
  simp only [modelName, plain]

/-- An ending makes no difference between two classes. -/
theorem modelName_eq_iff_of_some {suffix : String} (ending : names.modelSuffix = some suffix) :
    names.modelName a = names.modelName b ↔ Naming.typeName a = Naming.typeName b := by
  simp only [modelName, ending]
  exact String.append_left_inj suffix

/-- Names of one class differ in case and punctuation only. -/
theorem essence_eq_of_modelName (same : names.modelName a = names.modelName b) :
    Naming.essence a = Naming.essence b := by
  cases ending : names.modelSuffix with
  | none => rw [(modelName_eq_iff_of_none ending).1 same]
  | some suffix =>
    rw [← Naming.toLower_typeName, ← Naming.toLower_typeName,
      (modelName_eq_iff_of_some ending).1 same]

end NamePolicy

namespace Model

variable {doc : Document} {types : TypeMap} {models : List Model}

/-- A well-formed document has each named schema once. -/
theorem nodup_schemas (wellFormed : doc.root.WellFormed) :
    ((doc.schemas.getD []).map (·.1)).Nodup := by
  unfold Document.schemas
  split
  · exact wellFormed.nodup_keys "definitions"
  · cases found : doc.root.get? "components" with
    | none => exact List.nodup_nil
    | some components =>
      exact (wellFormed.of_mem (Json.mem_parts_of_get? found)).nodup_keys "schemas"

theorem name_of_ofDocument (made : ofDocument doc types = .ok models) :
    models.map (·.name) = (doc.schemas.getD []).map (·.1) := by
  have pairs := congrArg (List.map Prod.fst) (names_of_ofDocument made)
  rwa [List.map_map, List.map_map] at pairs

theorem className_of_mem (made : ofDocument doc types = .ok models) :
    ∀ m ∈ models, m.className = types.names.modelName m.name := by
  intro m member
  obtain ⟨_, _, schema, _, made⟩ := exists_schema_of_mem made m member
  obtain ⟨_, _, made⟩ := bind_eq_ok_iff.1 made
  cases made
  rfl

/-- The models of a document have distinct names.  Without an ending they have distinct classes.
With an ending two models have one class exactly if their names make the same name of a type.  In
both cases models of one class have names with the same letters and digits. -/
theorem classes_distinct (wellFormed : doc.root.WellFormed)
    (made : ofDocument doc types = .ok models) :
    (models.map (·.name)).Nodup ∧
      (types.names.modelSuffix = none → (models.map (·.className)).Nodup) ∧
      (types.names.modelSuffix.isSome → ∀ m ∈ models, ∀ m' ∈ models,
        (m.className = m'.className ↔ Naming.typeName m.name = Naming.typeName m'.name)) ∧
      ∀ m ∈ models, ∀ m' ∈ models, m.className = m'.className →
        Naming.essence m.name = Naming.essence m'.name := by
  have distinct : (models.map (·.name)).Nodup := by
    rw [name_of_ofDocument made]
    exact nodup_schemas wellFormed
  have classOf := className_of_mem made
  refine ⟨distinct, fun plain => ?_, fun ending => ?_, ?_⟩
  · have same : models.map (·.className) = models.map (·.name) :=
      List.map_congr_left fun m member => by rw [classOf m member, NamePolicy.modelName, plain]
    rwa [same]
  · obtain ⟨suffix, ending⟩ := Option.isSome_iff_exists.1 ending
    intro m member m' member'
    rw [classOf m member, classOf m' member']
    exact NamePolicy.modelName_eq_iff_of_some ending
  · intro m member m' member' same
    rw [classOf m member, classOf m' member'] at same
    exact NamePolicy.essence_eq_of_modelName same

/-! ## Schemas whose names differ in case and punctuation -/

/-- A document with two empty schemas. -/
def naming (first second : String) : Document :=
  ⟨.obj [("swagger", .str "2.0"), ("definitions", .obj [(first, .obj []), (second, .obj [])])]⟩

/-- The types of a document whose models have an ending. -/
def dtoTypes : TypeMap := ⟨.standard, .ofSuffixes none (some "Dto")⟩

theorem classes_distinct_pets :
    (naming "pet_status" "pet").root.WellFormed ∧ ∃ m m',
      ofDocument (naming "pet_status" "pet") dtoTypes = .ok [m, m'] ∧
        m.className ≠ m'.className := by
  have wellFormed : (naming "pet_status" "pet").root.WellFormed := by decide
  have made : ofDocument (naming "pet_status" "pet") dtoTypes = .ok _ := rfl
  refine ⟨wellFormed, _, _, made, fun same => ?_⟩
  obtain ⟨_, _, _, kept⟩ := classes_distinct wellFormed made
  have essences := kept _ List.mem_cons_self _ (List.mem_cons_of_mem _ List.mem_cons_self) same
  exact absurd essences (by decide)

/-- Two schemas have one class. -/
theorem class_of_two_schemas :
    (naming "pet_status" "PetStatus").root.WellFormed ∧ ∃ models,
      ofDocument (naming "pet_status" "PetStatus") dtoTypes = .ok models ∧
        models.map (fun m => (m.name, m.className)) =
          [("pet_status", "PetStatusDto"), ("PetStatus", "PetStatusDto")] ∧
        ¬ (models.map (·.className)).Nodup := by
  refine ⟨by decide, _, rfl, by decide, by decide⟩

end Model

end SchemaBinder
