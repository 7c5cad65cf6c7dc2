import SchemaBinder.Proofs.Schema
/-!
# The fields of models

A model has the fields that its schema declares, followed by those of the members of its `allOf`
list, all but the first reference, which is its parent (`Model.DeclaredBy`).  Nothing is left out and
nothing is merged (`Model.exists_properties_of_mem`).

So a field that two of these schemas declare is there twice, and the names of the fields are distinct
exactly if no two schemas declare one name (`Model.fields_distinct_iff`).

A field is required if the schema that declares it says so.  What another of the schemas requires
makes no difference to it, so a field that one of them declares and another requires is optional
(`Model.required_as_declared`, `Model.field_required_elsewhere`).
-/

namespace SchemaBinder

/-- A property has the name of its field. -/
theorem TypeMap.name_of_property (types : TypeMap) (name : String) (schema : Json) :
    (types.property name schema).1.own.name = name := by
  cases found : element? schema with
  | none =>
    rw [property_of_leaf types name found, leafLayer]
    split <;> rfl
  | some container => rw [property_of_element types name found]; rfl

theorem Property.own_mapOwn (f : Layer → Layer) (p : Property) : (p.mapOwn f).own = f p.own := by
  cases p <;> rfl

namespace Model

variable {doc : Document} {types : TypeMap} {name : String} {schema : Json} {others : List Json}
  {m : Model} {models : List Model}

/-! ## What declares fields -/

/-- Is the member of an `allOf` list a reference? -/
def isReference (member : Json) : Bool := (member.getStr? "$ref").isSome

/-- The members of the `allOf` list of a schema that add fields. -/
def addingMembers (schema : Json) : List Json :=
  ((schema.getArr? "allOf").getD []).eraseP isReference

/-- The schemas that declare the fields of a model. -/
structure DeclaredBy (doc : Document) (m : Model) (schema : Json) (others : List Json) : Prop where
  /-- The schema that the model is named for. -/
  named : ∃ declared, (m.name, declared) ∈ doc.schemas.getD [] ∧ doc.resolve declared = .ok schema
  /-- The ones that the other members lead to. -/
  members : (addingMembers schema).mapM doc.resolve = .ok others

/-- The first reference is the parent if there is none yet, and the other members are followed. -/
theorem mapM_of_members {names : NamePolicy} {list : List Json} {parent final : Option String}
    (parted : members doc names parent list = .ok (final, others)) :
    (if parent.isSome then list else list.eraseP isReference).mapM doc.resolve = .ok others := by
  induction list generalizing parent others with
  | nil =>
    cases parted
    cases final <;> rfl
  | cons member rest ih =>
    unfold members at parted
    split at parted
    · next reference refers =>
      have isRef : isReference member = true := by rw [isReference, refers]; rfl
      simpa [isRef] using ih parted
    · next known _ _ given =>
      obtain ⟨resolved, here, parted⟩ := bind_eq_ok_iff.1 parted
      obtain ⟨⟨_, later⟩, more, parted⟩ := bind_eq_ok_iff.1 parted
      cases parted
      have followed : (if known.isSome then member :: rest
          else (member :: rest).eraseP isReference) =
          member :: if known.isSome then rest else rest.eraseP isReference := by
        cases known with
        | some => rfl
        | none =>
          have noRef : isReference member = false := by
            cases refers : member.getStr? "$ref" with
            | none => rw [isReference, refers]; rfl
            | some reference => exact (given reference rfl refers).elim
          simp [noRef]
      rw [followed, List.mapM_cons]
      exact bind_eq_ok_iff.2 ⟨resolved, here, bind_eq_ok_iff.2 ⟨later, ih more, rfl⟩⟩

/-- The schemas that declare fields are parts of the document. -/
theorem DeclaredBy.mem_parts (declaredBy : DeclaredBy doc m schema others) :
    ∀ declaring ∈ schema :: others, declaring ∈ doc.root.parts := by
  obtain ⟨declared, entry, resolved⟩ := declaredBy.named
  have here : schema ∈ doc.root.parts :=
    Document.mem_parts_of_resolve resolved (mem_parts_of_schemas entry)
  refine List.forall_mem_cons.2 ⟨here, fun declaring there => ?_⟩
  obtain ⟨member, adding, leads⟩ := exists_of_mem_mapM declaredBy.members declaring there
  refine Document.mem_parts_of_resolve leads (Json.mem_parts_trans ?_ here)
  exact Json.mem_parts_of_getArr?_getD (List.mem_of_mem_eraseP adding)

/-! ## The names of fields -/

/-- The names of the fields that a schema declares. -/
def declaredNames (schema : Json) : List String :=
  ((schema.getObj? "properties").getD []).map (·.1)

/-- The names of the fields of a model. -/
def namesOfFields (m : Model) : List String := m.properties.map (·.own.name)

theorem name_of_memberFields (types : TypeMap) (schema : Json) :
    (memberFields types schema).map (·.1.own.name) = declaredNames schema := by
  rw [memberFields, declaredNames, List.map_map]
  refine List.map_congr_left fun field _ => ?_
  exact (congrArg Layer.name (Property.own_mapOwn _ _)).trans
    (types.name_of_property field.1 field.2)

theorem properties_of_ofSchema (made : ofSchema doc types name schema = .ok m) :
    m.name = name ∧ ∃ others, (addingMembers schema).mapM doc.resolve = .ok others ∧
      m.properties =
        (schema :: others).flatMap fun declaring => (memberFields types declaring).map (·.1) := by
  obtain ⟨⟨parent, others⟩, parted, made⟩ := bind_eq_ok_iff.1 made
  cases made
  exact ⟨rfl, others, mapM_of_members parted, List.map_flatMap⟩

theorem namesOfFields_of_properties (properties : m.properties =
    (schema :: others).flatMap fun declaring => (memberFields types declaring).map (·.1)) :
    m.namesOfFields = (schema :: others).flatMap declaredNames := by
  rw [namesOfFields, properties, List.map_flatMap]
  exact List.flatMap_congr fun declaring _ =>
    List.map_map.trans (name_of_memberFields types declaring)

theorem namesOfFields_of_ofSchema (made : ofSchema doc types name schema = .ok m) :
    m.name = name ∧ ∃ others, (addingMembers schema).mapM doc.resolve = .ok others ∧
      m.namesOfFields = (schema :: others).flatMap declaredNames := by
  obtain ⟨named, others, members, properties⟩ := properties_of_ofSchema made
  exact ⟨named, others, members, namesOfFields_of_properties properties⟩

/-- The models of a document are named for its schemas, and each has the fields that its schema and
the other members declare, one after the other. -/
theorem exists_properties_of_mem (made : ofDocument doc types = .ok models) :
    ∀ m ∈ models, ∃ schema others, DeclaredBy doc m schema others ∧ m.properties =
      (schema :: others).flatMap fun declaring => (memberFields types declaring).map (·.1) := by
  intro m member
  obtain ⟨⟨name, declared⟩, entry, schema, resolved, made⟩ := exists_schema_of_mem made m member
  obtain ⟨rfl, others, members, properties⟩ := properties_of_ofSchema made
  exact ⟨schema, others, ⟨⟨declared, entry, resolved⟩, members⟩, properties⟩

theorem exists_declaredBy_of_mem (made : ofDocument doc types = .ok models) :
    ∀ m ∈ models, ∃ schema others, DeclaredBy doc m schema others ∧
      m.namesOfFields = (schema :: others).flatMap declaredNames := by
  intro m member
  obtain ⟨schema, others, declaredBy, properties⟩ := exists_properties_of_mem made m member
  exact ⟨schema, others, declaredBy, namesOfFields_of_properties properties⟩

/-- The fields of a model are all those that its schema and the other members declare, in this
order.  Their names are distinct exactly if no two of these schemas declare one name. -/
theorem fields_distinct_iff (wellFormed : doc.root.WellFormed)
    (made : ofDocument doc types = .ok models) :
    ∀ m ∈ models, ∃ schema others, DeclaredBy doc m schema others ∧
      m.namesOfFields = (schema :: others).flatMap declaredNames ∧
      (m.namesOfFields.Nodup ↔ (schema :: others).Pairwise fun a b =>
        List.Disjoint (declaredNames a) (declaredNames b)) := by
  intro m member
  obtain ⟨schema, others, declaredBy, names⟩ := exists_declaredBy_of_mem made m member
  refine ⟨schema, others, declaredBy, names, ?_⟩
  have each : ∀ declaring ∈ schema :: others, (declaredNames declaring).Nodup :=
    fun declaring there =>
      (wellFormed.of_mem (declaredBy.mem_parts declaring there)).nodup_keys "properties"
  rw [names, List.nodup_flatMap]
  exact and_iff_right each

/-! ## A field that is declared again -/

/-- A schema that declares `id` itself and another field by a member. -/
def refinedSchema (added : String) : Json :=
  .obj [("properties", .obj [("id", .obj [("type", .str "integer")])]),
    ("allOf", .arr [.obj [("properties", .obj [(added, .obj [("type", .str "string")])])]])]

/-- A document with this schema. -/
def refining (added : String) : Document :=
  ⟨.obj [("swagger", .str "2.0"), ("definitions", .obj [("Order", refinedSchema added)])]⟩

theorem ofDocument_refining (types : TypeMap) (added : String) :
    ∃ m, ofDocument (refining added) types = .ok [m] ∧ m.namesOfFields = ["id", added] := by
  refine ⟨_, rfl, ?_⟩
  have made : ofSchema (refining added) types "Order" (refinedSchema added) = .ok _ := rfl
  obtain ⟨_, others, members, names⟩ := namesOfFields_of_ofSchema made
  cases members
  exact names

theorem fields_distinct_iff_note :
    let types : TypeMap := ⟨.standard, .plain⟩
    (refining "note").root.WellFormed ∧ ∃ m, ofDocument (refining "note") types = .ok [m] ∧
      m.namesOfFields = ["id", "note"] ∧ m.namesOfFields.Nodup := by
  intro types
  have wellFormed : (refining "note").root.WellFormed := by decide
  obtain ⟨m, made, names⟩ := ofDocument_refining types "note"
  obtain ⟨schema, others, declaredBy, _, distinct⟩ :=
    fields_distinct_iff wellFormed made m List.mem_cons_self
  obtain ⟨declared, entry, resolved⟩ := declaredBy.named
  obtain ⟨-, rfl⟩ := Prod.mk.inj (List.mem_singleton.1 entry)
  cases resolved
  cases declaredBy.members
  have apart : List.Disjoint ["id"] ["note"] := by simp
  exact ⟨wellFormed, m, made, names, distinct.2 (List.pairwise_pair.2 apart)⟩

/-- A field that a member declares again is there twice. -/
theorem redeclared_field_twice :
    let types : TypeMap := ⟨.standard, .plain⟩
    (refining "id").root.WellFormed ∧ ∃ m, ofDocument (refining "id") types = .ok [m] ∧
      ¬ m.namesOfFields.Nodup := by
  intro types
  obtain ⟨m, made, names⟩ := ofDocument_refining types "id"
  refine ⟨by decide, m, made, ?_⟩
  rw [names]
  decide

/-! ## Required fields -/

/-- The fields that a schema declares, each with whether this schema requires it. -/
def declaredMarks (schema : Json) : List (String × Bool) :=
  (declaredNames schema).map fun name => (name, (requiredNames schema).contains name)

/-- The fields of a model, each with whether it is required. -/
def marksOfFields (m : Model) : List (String × Bool) :=
  m.properties.map fun p => (p.own.name, p.own.required)

theorem mem_declaredMarks {field : String} {required : Bool} :
    (field, required) ∈ declaredMarks schema ↔
      field ∈ declaredNames schema ∧ (required = true ↔ field ∈ requiredNames schema) := by
  rw [declaredMarks, List.mem_map]
  constructor
  · rintro ⟨_, declared, same⟩
    cases same
    exact ⟨declared, List.contains_iff_mem⟩
  · rintro ⟨declared, mark⟩
    exact ⟨field, declared, by rw [Bool.eq_iff_iff.2 (mark.trans List.contains_iff_mem.symm)]⟩

theorem marks_of_memberFields (types : TypeMap) (schema : Json) :
    (memberFields types schema).map (fun field => (field.1.own.name, field.1.own.required)) =
      declaredMarks schema := by
  rw [memberFields, declaredMarks, declaredNames, List.map_map, List.map_map]
  refine List.map_congr_left fun field _ => ?_
  exact (congrArg (fun own : Layer => (own.name, own.required)) (Property.own_mapOwn _ _)).trans
    (congrArg (·, (requiredNames schema).contains field.1) (types.name_of_property field.1 field.2))

/-- Every field of a model is marked as the schema that declares it says. -/
theorem exists_marked_of_mem (made : ofDocument doc types = .ok models) :
    ∀ m ∈ models, ∃ schema others, DeclaredBy doc m schema others ∧
      m.marksOfFields = (schema :: others).flatMap declaredMarks := by
  intro m member
  obtain ⟨schema, others, declaredBy, properties⟩ := exists_properties_of_mem made m member
  refine ⟨schema, others, declaredBy, ?_⟩
  rw [marksOfFields, properties, List.map_flatMap]
  exact List.flatMap_congr fun declaring _ =>
    List.map_map.trans (marks_of_memberFields types declaring)

section Marks

variable (marks : m.marksOfFields = (schema :: others).flatMap declaredMarks)
include marks

theorem exists_declaring_of_mem : ∀ p ∈ m.properties, ∃ declaring ∈ schema :: others,
    p.own.name ∈ declaredNames declaring ∧
      (p.own.required = true ↔ p.own.name ∈ requiredNames declaring) := by
  intro p there
  have marked : (p.own.name, p.own.required) ∈ m.marksOfFields :=
    List.mem_map_of_mem (f := fun p => (p.own.name, p.own.required)) there
  rw [marks] at marked
  obtain ⟨declaring, listed, marked⟩ := List.mem_flatMap.1 marked
  exact ⟨declaring, listed, mem_declaredMarks.1 marked⟩

theorem exists_mem_of_declared {declaring : Json} (listed : declaring ∈ schema :: others)
    {field : String} (declared : field ∈ declaredNames declaring) : ∃ p ∈ m.properties,
      p.own.name = field ∧ (p.own.required = true ↔ field ∈ requiredNames declaring) := by
  have marked : (field, (requiredNames declaring).contains field) ∈ m.marksOfFields := by
    rw [marks]
    exact List.mem_flatMap.2
      ⟨declaring, listed, mem_declaredMarks.2 ⟨declared, List.contains_iff_mem⟩⟩
  obtain ⟨p, there, same⟩ := List.mem_map.1 marked
  obtain ⟨rfl, required⟩ := Prod.mk.inj same
  exact ⟨p, there, rfl, by rw [required, List.contains_iff_mem]⟩

end Marks

/-- The fields of a model are required exactly as the schema that declares each of them says.  So a
required field is required by one of the schemas that its model is made of.  The converse, that a
field is required if any of these schemas requires it, holds of a model exactly if each schema
itself requires those of its fields that another one does. -/
theorem required_as_declared (made : ofDocument doc types = .ok models) :
    ∀ m ∈ models, ∃ schema others, DeclaredBy doc m schema others ∧
      m.marksOfFields = (schema :: others).flatMap declaredMarks ∧
      (∀ p ∈ m.properties, p.own.required = true →
        ∃ declaring ∈ schema :: others, p.own.name ∈ requiredNames declaring) ∧
      ((∀ p ∈ m.properties, (∃ other ∈ schema :: others, p.own.name ∈ requiredNames other) →
          p.own.required = true) ↔
        ∀ declaring ∈ schema :: others, ∀ other ∈ schema :: others,
          ∀ field ∈ declaredNames declaring,
            field ∈ requiredNames other → field ∈ requiredNames declaring) := by
  intro m member
  obtain ⟨schema, others, declaredBy, marks⟩ := exists_marked_of_mem made m member
  refine ⟨schema, others, declaredBy, marks, fun p there required => ?_, ?_, ?_⟩
  · obtain ⟨declaring, listed, _, mark⟩ := exists_declaring_of_mem marks p there
    exact ⟨declaring, listed, mark.1 required⟩
  · intro anywhere declaring listed other listed' field declared elsewhere
    obtain ⟨p, there, rfl, mark⟩ := exists_mem_of_declared marks listed declared
    exact mark.1 (anywhere p there ⟨other, listed', elsewhere⟩)
  · rintro agree p there ⟨other, listed', elsewhere⟩
    obtain ⟨declaring, listed, declared, mark⟩ := exists_declaring_of_mem marks p there
    exact mark.2 (agree declaring listed other listed' _ declared elsewhere)

/-- A member that declares a field and requires others. -/
def rushMember (added : List String) : Json :=
  .obj [("required", .ofStrs added), ("properties", .obj [("rush", .obj [("type", .str "boolean")])])]

/-- A schema that requires fields itself and has such a member. -/
def rushSchema (own added : List String) : Json :=
  .obj [("required", .ofStrs own), ("allOf", .arr [rushMember added])]

/-- A document with this schema. -/
def requiring (own added : List String) : Document :=
  ⟨.obj [("swagger", .str "2.0"), ("definitions", .obj [("Order", rushSchema own added)])]⟩

theorem DeclaredBy.of_requiring {own added : List String}
    (declaredBy : DeclaredBy (requiring own added) m schema others) :
    schema = rushSchema own added ∧ others = [rushMember added] := by
  obtain ⟨declared, entry, resolved⟩ := declaredBy.named
  obtain ⟨-, rfl⟩ := Prod.mk.inj (List.mem_singleton.1 entry)
  cases resolved
  cases declaredBy.members
  exact ⟨rfl, rfl⟩

theorem required_as_declared_rush :
    let types : TypeMap := ⟨.standard, .plain⟩
    ∃ m, ofDocument (requiring [] ["rush"]) types = .ok [m] ∧ m.marksOfFields = [("rush", true)] ∧
      ∀ p ∈ m.properties, p.own.required = true →
        ∃ declaring ∈ [rushSchema [] ["rush"], rushMember ["rush"]],
          p.own.name ∈ requiredNames declaring := by
  intro types
  have made : ofDocument (requiring [] ["rush"]) types = .ok _ := rfl
  obtain ⟨schema, others, declaredBy, marks, listed, _⟩ :=
    required_as_declared made _ List.mem_cons_self
  obtain ⟨rfl, rfl⟩ := declaredBy.of_requiring
  exact ⟨_, made, marks, listed⟩

/-- A field that a member declares and the schema itself requires is optional. -/
theorem field_required_elsewhere :
    let types : TypeMap := ⟨.standard, .plain⟩
    ∃ m schema, ofDocument (requiring ["rush"] []) types = .ok [m] ∧
      DeclaredBy (requiring ["rush"] []) m schema [rushMember []] ∧
      "rush" ∈ requiredNames schema ∧ m.marksOfFields = [("rush", false)] := by
  intro types
  have made : ofDocument (requiring ["rush"] []) types = .ok _ := rfl
  obtain ⟨schema, others, declaredBy, marks⟩ := exists_marked_of_mem made _ List.mem_cons_self
  obtain ⟨rfl, rfl⟩ := declaredBy.of_requiring
  exact ⟨_, _, made, declaredBy, by decide, marks⟩

end Model

end SchemaBinder
