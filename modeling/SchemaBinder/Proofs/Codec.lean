import SchemaBinder.Operation.Codec
import SchemaBinder.Proofs.Tables
/-!
# Reading back what is written

The nodes of a hand-off document are read back from the values that they are written as.

An absent part is written as `null`, or left out, or has no place in the document at all.  The first
two are read back as absent (`Json.optional?_of_absent`).  The third are the typed copies of
operations, and an operation without them is what is read back (`Operation.ofJson?_toJson`).
-/

namespace SchemaBinder

/-! ## Fields -/

namespace Json

variable {α : Type} {fields : List (String × Json)} {key : String}

theorem field?_of_get? {read : Json → Option α} {v : Json} {a : α}
    (there : Assoc.get? key fields = some v) (reads : read v = some a) :
    field? fields key read = some a := by
  rw [field?, there]
  exact reads

/-- A field that is left out and a field that is `null` are both absent. -/
theorem optional?_of_absent {read : Json → Option α}
    (absent : Assoc.get? key fields = none ∨ Assoc.get? key fields = some null) :
    optional? fields key read = some none := by
  obtain out | null := absent
  · rw [optional?, out]
  · rw [optional?, null]

theorem optional?_of_get? {read : Json → Option α} {v : Json} {a : α}
    (there : Assoc.get? key fields = some v) (notNull : v ≠ null) (reads : read v = some a) :
    optional? fields key read = some (some a) := by
  rw [optional?, there]
  split
  · next none => cases none
  · next null =>
    cases null
    contradiction
  · next w _ same =>
    cases same
    rw [reads]
    rfl

theorem optional?_ofStr? {s : Option String} (there : Assoc.get? key fields = some (ofStr? s)) :
    optional? fields key asStr? = some s := by
  cases s with
  | none => exact optional?_of_absent (.inr there)
  | some s => exact optional?_of_get? there nofun rfl

/-- A field that is written only if it is there. -/
theorem optional?_map (write : α → Json) {read : Json → Option α} {a : Option α}
    (there : Assoc.get? key fields = a.map write) (notNull : ∀ a, write a ≠ null)
    (reads : ∀ a, read (write a) = some a) : optional? fields key read = some a := by
  cases a with
  | none => exact optional?_of_absent (.inl there)
  | some a => exact optional?_of_get? there (notNull a) (reads a)

/-- A case is read back by its name. -/
theorem optional?_case {cases : List (String × α)} {name : α → String} {a : Option α}
    (named : ∀ a, case? cases (str (name a)) = some a)
    (there : Assoc.get? key fields = some (ofStr? (a.map name))) :
    optional? fields key (case? cases) = some a := by
  cases a with
  | none => exact optional?_of_absent (.inr there)
  | some a => exact optional?_of_get? there nofun (named a)

/-- Items are read back one by one. -/
theorem list?_map {β : Type} {write : α → Json} {read : Json → Option β} {back : α → β}
    (reads : ∀ a, read (write a) = some (back a)) (items : List α) :
    list? read (arr (items.map write)) = some (items.map back) := by
  have each : read ∘ write = fun a => pure (back a) := funext reads
  show List.mapM read (items.map write) = _
  rw [List.mapM_map, each, List.mapM_pure]
  rfl

theorem strs?_ofStrs (texts : List String) : strs? (ofStrs texts) = some texts := by
  have each : ∀ text, asStr? (str text) = some (id text) := fun _ => rfl
  rw [strs?, ofStrs, list?_map each, List.map_id]

end Json

theorem Property.extensions?_toJson (extensions : Extensions) :
    extensions? extensions.toJson = some extensions :=
  congrArg some extensions.ofList_entries

/-! ## Cases -/

theorem ContainerKind.case?_name (kind : ContainerKind) :
    Json.case? cases (.str kind.name) = some kind := by
  cases kind <;> rfl

theorem ParameterLocation.case?_name (location : ParameterLocation) :
    Json.case? cases (.str location.name) = some location := by
  cases location <;> rfl

theorem AuthKind.case?_name (kind : AuthKind) :
    Json.case? cases (.str kind.name) = some kind := by
  cases kind <;> rfl

theorem KeyLocation.case?_name (location : KeyLocation) :
    Json.case? cases (.str location.name) = some location := by
  cases location <;> rfl

/-! ## Models -/

namespace Property

variable {own : Layer} {items v : Json} {fields : List (String × Json)}

/-- A layer is read back, whatever its element is. -/
theorem layer?_layerToJson (written : (layerToJson own items).record? fieldNames = some fields) :
    layer? fields = some own := by
  cases written
  rw [layer?, Json.optional?_ofStr? (s := own.format) rfl,
    Json.field?_of_get? rfl (Json.strs?_ofStrs own.typeArguments),
    Json.optional?_case (a := own.container) ContainerKind.case?_name rfl,
    Json.field?_of_get? rfl (extensions?_toJson own.extensions)]
  rfl

theorem ofJson?_of_null (read : v.record? fieldNames = some fields) (layer : layer? fields = some own)
    (there : Assoc.get? "items" fields = some .null) : ofJson? v = some (leaf own) := by
  rw [ofJson?]
  split
  · next none => cases none.symm.trans read
  · next fields' read' =>
    cases read'.symm.trans read
    rw [layer]
    dsimp only
    split <;> simp_all

theorem ofJson?_of_items (read : v.record? fieldNames = some fields) (layer : layer? fields = some own)
    (there : Assoc.get? "items" fields = some items) (notNull : items ≠ .null) :
    ofJson? v = (ofJson? items).map (nest own) := by
  rw [ofJson?]
  split
  · next none => cases none.symm.trans read
  · next fields' read' =>
    cases read'.symm.trans read
    rw [layer]
    dsimp only
    split <;> simp_all

theorem toJson_ne_null (p : Property) : p.toJson ≠ .null := by
  cases p <;> nofun

/-- A property is read back, however deep its elements are nested. -/
theorem ofJson?_toJson (p : Property) : ofJson? p.toJson = some p := by
  induction p with
  | leaf own => exact ofJson?_of_null rfl (layer?_layerToJson rfl) rfl
  | nest own element ih =>
    rw [toJson, ofJson?_of_items rfl (layer?_layerToJson rfl) rfl element.toJson_ne_null, ih]
    rfl

end Property

theorem ImportSet.ofJson?_toJson (s : ImportSet) : ofJson? s.toJson = some s := by
  rw [ofJson?, toJson, Json.strs?_ofStrs]
  rfl

theorem Model.ofJson?_toJson (m : Model) : ofJson? m.toJson = some m := by
  have properties : Json.list? Property.ofJson? (.arr (m.properties.map (·.toJson))) =
      some m.properties := by
    rw [Json.list?_map Property.ofJson?_toJson, List.map_id']
  rw [ofJson?, toJson, Json.record?, Option.bind_eq_bind, Option.bind_some,
    Json.optional?_ofStr? (s := m.description) rfl, Json.field?_of_get? rfl properties,
    Json.optional?_ofStr? (s := m.parent) rfl,
    Json.field?_of_get? rfl (Property.extensions?_toJson m.extensions),
    Json.field?_of_get? rfl m.imports.ofJson?_toJson]
  rfl

/-! ## Operations -/

theorem AuthMethod.ofJson?_toJson (m : AuthMethod) : ofJson? m.toJson = some m := by
  rw [ofJson?, toJson, Json.record?, Option.bind_eq_bind, Option.bind_some,
    Json.field?_of_get? rfl (AuthKind.case?_name m.kind),
    Json.optional?_ofStr? (s := m.keyName) rfl,
    Json.optional?_case (a := m.keyLocation) KeyLocation.case?_name rfl,
    Json.optional?_ofStr? (s := m.description) rfl]
  rfl

namespace Parameter

/-- What is read of a parameter from its container on.  The places of these fields depend on which
parts of the container are written. -/
theorem read_of_toJson {p : Parameter} {fields : List (String × Json)}
    (written : p.toJson = .obj fields) :
    Json.optional? fields "container" (Json.case? ContainerKind.cases) = some p.container ∧
      Json.optional? fields "items" Property.ofJson? = some p.items ∧
      Json.field? fields "isPrimitiveType" Json.asBool? = some p.isPrimitive ∧
      Json.field? fields "required" Json.asBool? = some p.required ∧
      Json.field? fields "hasMore" Json.asBool? = some p.hasMore ∧
      Json.optional? fields "rawSchemaFragment" Json.asStr? = some p.rawSchema ∧
      Json.field? fields "vendorExtensions" Property.extensions? = some p.extensions := by
  obtain ⟨_, _, _, _, _, _, _, _, _, container, items, _, _, _, _, extensions⟩ := p
  cases container <;> cases items <;> cases written
  all_goals
    exact ⟨Json.optional?_map (fun kind => .str kind.name) rfl nofun ContainerKind.case?_name,
      Json.optional?_map _ rfl Property.toJson_ne_null Property.ofJson?_toJson, rfl, rfl, rfl,
      Json.optional?_ofStr? rfl, Json.field?_of_get? rfl (Property.extensions?_toJson extensions)⟩

theorem ofJson?_toJson (p : Parameter) : ofJson? p.toJson = some p := by
  obtain ⟨fields, written⟩ : ∃ fields, p.toJson = .obj fields := ⟨_, rfl⟩
  obtain ⟨container, items, isPrimitive, required, hasMore, rawSchema, extensions⟩ :=
    read_of_toJson written
  rw [ofJson?, written, Json.record?, Option.bind_eq_bind, Option.bind_some, container, items,
    isPrimitive, required, hasMore, rawSchema, extensions]
  cases written
  rw [Json.field?_of_get? rfl p.location.case?_name, Json.optional?_ofStr? (s := p.description) rfl,
    Json.optional?_ofStr? (s := p.format) rfl]
  rfl

end Parameter

/-- A response without the type of its body. -/
def Response.untyped (r : Response) : Response := { r with schema := none }

theorem Response.ofJson?_toJson (r : Response) : ofJson? r.toJson = some r.untyped := by
  rw [ofJson?, toJson, Json.record?, Option.bind_eq_bind, Option.bind_some,
    Json.optional?_ofStr? (s := r.description) rfl, Json.optional?_ofStr? (s := r.baseType) rfl]
  rfl

/-- An operation without the typed copies of its types, which are no part of a document. -/
def Operation.untyped (o : Operation) : Operation :=
  { o with returnProperty := none, responses := o.responses.map (·.untyped) }

theorem Operation.ofJson?_toJson (o : Operation) : ofJson? o.toJson = some o.untyped := by
  have responses : Json.list? Response.ofJson? (.arr (o.responses.map (·.toJson))) =
      some o.untyped.responses := Json.list?_map Response.ofJson?_toJson o.responses
  have parameters : Json.list? Parameter.ofJson? (.arr (o.parameters.map (·.toJson))) =
      some o.parameters := by
    rw [Json.list?_map Parameter.ofJson?_toJson, List.map_id']
  have authMethods : Json.list? AuthMethod.ofJson? (.arr (o.authMethods.map (·.toJson))) =
      some o.authMethods := by
    rw [Json.list?_map AuthMethod.ofJson?_toJson, List.map_id']
  rw [ofJson?, toJson, Json.record?, Option.bind_eq_bind, Option.bind_some,
    Json.optional?_ofStr? (s := o.summary) rfl, Json.optional?_ofStr? (s := o.returnType) rfl,
    Json.field?_of_get? rfl responses, Json.field?_of_get? rfl parameters,
    Json.field?_of_get? rfl authMethods,
    Json.field?_of_get? rfl (Property.extensions?_toJson o.pathExtensions),
    Json.field?_of_get? rfl (Property.extensions?_toJson o.extensions),
    Json.field?_of_get? rfl o.imports.ofJson?_toJson]
  rfl

/-- The models and operations of a document are read back from the nodes it writes for them: a model
as it was, an operation without the typed copies of its types. A field that a node leaves out and
one that it writes as null are both read back as absent, and each choice from a fixed list as
itself. -/
theorem nodes_read_back :
    (∀ m : Model, Model.ofJson? m.toJson = some m) ∧
      ∀ o : Operation, Operation.ofJson? o.toJson =
        some { o with returnProperty := none,
                      responses := o.responses.map fun r => { r with schema := none } } :=
  ⟨Model.ofJson?_toJson, Operation.ofJson?_toJson⟩

end SchemaBinder
