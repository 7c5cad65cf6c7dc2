import SchemaBinder.Proofs.Binding.Containers
import SchemaBinder.Proofs.Binding.Fragments
import SchemaBinder.Proofs.Binding.RebindingOperations
import SchemaBinder.Proofs.Notations
import SchemaBinder.Url.PlainNames
/-!
# Documents without directives

Binding writes down the types of containers, responses, return values and parameters again, whether
or not there is a directive.  If a document has none, then all these types are written as they are.

A property is `Settled` if its containers are tied to their elements, no layer has a directive, and no
alias is the base type of a layer that is no container.  Binding leaves a settled property as it is
(`Property.Settled.bindAliases`), and the schemas of a document without directives become settled
properties (`TypeMap.settled_property`).  From there the same follows for models, responses, parameters
and operations.

The alias of a body is looked for in its JSON text, so the text must be read back even where there is
no alias.  Numbers can change by that, but keys and texts stay (`Json.Undirected.rounded`).  The text
is not read at all if the body is nested too deeply.
-/

namespace SchemaBinder

/-! ## Values without directives -/

namespace Json

/-- No field of an object is a vendor extension, and no format is an alias. -/
def Unmarked : Json → Prop
  | obj fields => ∀ field ∈ fields, Text.hasStart "x-" field.1 = false ∧
      (field.1 = "format" → ∀ s ∈ field.2.asStr?, Text.hasStart "x-" s = false)
  | _ => True

instance : DecidablePred Unmarked
  | obj fields => inferInstanceAs (Decidable (∀ field ∈ fields, Text.hasStart "x-" field.1 = false ∧
      (field.1 = "format" → ∀ s ∈ field.2.asStr?, Text.hasStart "x-" s = false)))
  | null | bool _ | int _ | float _ | str _ | arr _ => isTrue trivial

/-- Neither the value nor anything inside it has a directive. -/
def Undirected (v : Json) : Prop :=
  ∀ w ∈ v.parts, w.Unmarked

instance (v : Json) : Decidable v.Undirected := inferInstanceAs (Decidable (∀ w ∈ v.parts, _))

namespace Undirected

variable {v w : Json} {key : String}

theorem of_mem (undirected : w.Undirected) (part : v ∈ w.parts) : v.Undirected :=
  fun u inner => undirected u (mem_parts_trans inner part)

theorem extensions (undirected : v.Undirected) : Extensions.ofJson v = .empty := by
  unfold Extensions.ofJson
  split
  · next fields object =>
    obtain rfl := eq_obj_of_asObj? object
    have unmarked : (obj fields).Unmarked := undirected _ (self_mem_parts _)
    have none : fields.filter (fun field => Text.hasStart "x-" field.1) = [] :=
      List.filter_eq_nil_iff.2 fun field member => by simp [(unmarked field member).1]
    rw [Extensions.ofFields, none]
    rfl
  · rfl

theorem formatAlias? (undirected : v.Undirected) :
    Extensions.formatAlias? (v.getStr? "format") = none := by
  cases v with
  | obj fields =>
    cases found : (obj fields).getStr? "format" with
    | none => rfl
    | some s =>
      have unmarked : (obj fields).Unmarked := undirected _ (self_mem_parts _)
      obtain ⟨w, found, text⟩ := Option.bind_eq_some_iff.1 found
      have start := (unmarked _ (Assoc.mem_of_get? found)).2 rfl s text
      have none : Text.dropStart? "x-" s = none := by
        rw [Text.hasStart, Option.isSome_eq_false_iff, Option.isNone_iff_eq_none] at start
        rw [Text.dropStart?, start]
        rfl
      rw [Extensions.formatAlias?, Option.bind_some, none]
      rfl
  | _ => rfl

theorem find?_eq_none (undirected : v.Undirected) (marked : Text.hasStart "x-" key = true) :
    v.find? key = none := by
  rw [find?_eq_get?_entries]
  cases found : Assoc.get? key v.entries with
  | none => rfl
  | some w =>
    obtain ⟨fields, part, member⟩ := mem_entries_iff.1 (Assoc.mem_of_get? found)
    exact absurd marked (by simp [(undirected _ part _ member).1])

theorem bodyDirective? (undirected : v.Undirected) : Parameter.bodyDirective? v = none := by
  rw [Parameter.bodyDirective?]
  cases found : v.find? "schema" with
  | none => rfl
  | some schema =>
    rw [find?_eq_get?_entries] at found
    obtain ⟨fields, part, member⟩ := mem_entries_iff.1 (Assoc.mem_of_get? found)
    exact (undirected.of_mem (mem_parts_trans (mem_parts_of_field member) part)).find?_eq_none rfl

theorem asStr?_rounded (inRange : v.InRange) : v.rounded.asStr? = v.asStr? := by
  cases v with
  | float x =>
    obtain ⟨y, same⟩ := rounded_float (inRange _ (self_mem_parts _))
    rw [same]
    rfl
  | _ => rfl

/-- Rounding changes neither keys nor texts. -/
theorem rounded (undirected : v.Undirected) (inRange : v.InRange) : v.rounded.Undirected := by
  induction v using induct with
  | float x =>
    obtain ⟨y, same⟩ := rounded_float (inRange _ (self_mem_parts _))
    rw [same]
    exact List.forall_mem_singleton.2 trivial
  | arr items ih =>
    rw [Json.rounded, roundedItems_eq]
    refine forall_parts_arr.2 ⟨trivial, List.forall_mem_map.2 fun v member => ?_⟩
    exact ih v member (undirected.of_mem (mem_parts_of_item member))
      (inRange.of_mem (mem_parts_of_item member))
  | obj fields ih =>
    obtain ⟨unmarked, _⟩ := forall_parts_obj.1 undirected
    rw [Json.rounded, roundedFields_eq]
    refine forall_parts_obj.2 ⟨List.forall_mem_map.2 fun field member => ?_,
      List.forall_mem_map.2 fun field member => ?_⟩
    · rw [asStr?_rounded (inRange.of_mem (mem_parts_of_field member))]
      exact unmarked field member
    · exact ih field member (undirected.of_mem (mem_parts_of_field member))
        (inRange.of_mem (mem_parts_of_field member))
  | _ => exact undirected

end Undirected

end Json

/-! ## Properties -/

variable {registry : TypeRegistry} {entity : String}

/-- No alias is the base type of a layer that is no container. -/
def TypeRegistry.Apart (registry : TypeRegistry) (layers : List Layer) : Prop :=
  ∀ own ∈ layers, own.container = none → registry.get? own.baseType = none

/-- Without vendor extensions only a format could name an alias. -/
theorem Extensions.symbolicType_empty (declared : String) {format : Option String}
    (noAlias : formatAlias? format = none) :
    symbolicType declared format .empty entity = .ok none := by
  rw [symbolicType]
  split
  · show Except.ok (formatAlias? format) = _
    rw [noAlias]
  · rfl

namespace Layer

/-- The layer has no directive. -/
structure Undirected (own : Layer) : Prop where
  extensions : own.extensions = .empty
  format : Extensions.formatAlias? own.format = none

variable {own : Layer}

theorem Undirected.bindAliases (undirected : own.Undirected)
    (apart : own.container = none → registry.get? own.baseType = none) (entity : String) :
    own.bindAliases registry entity = .ok (own, []) := by
  have reads : Reads own entity none none := by
    refine ⟨?_, ?_⟩ <;> rw [undirected.extensions]
    · exact Extensions.symbolicType_empty own.declaredType undirected.format
    · rfl
  have named : Named registry own none own [] := by
    cases container : own.container with
    | none => exact .unknown container (apart container)
    | some kind => exact .container container
  exact bindAliases_eq_ok_iff.2 ⟨none, none, reads, .intro named .plain⟩

theorem around_of_tied {element : Property}
    (tied : Tied own.container (some element) own.baseType own.resolvedType) :
    own.around element.own = own := by
  obtain ⟨name, declared, format, base, resolved, isGeneric, arguments, container⟩ := own
  cases tied with
  | container kind => rfl

end Layer

namespace Property

/-- Binding has nothing to do: no layer has a directive, containers are tied to their elements, and
the innermost layer has a type that is no alias. -/
inductive Settled (registry : TypeRegistry) : Property → Prop where
  | leaf {own : Layer} : own.Undirected → own.container = none → own.resolvedType = own.baseType →
      registry.get? own.baseType = none → Settled registry (.leaf own)
  | nest {own : Layer} {element : Property} : own.Undirected →
      Tied own.container (some element) own.baseType own.resolvedType →
      Settled registry element → Settled registry (.nest own element)

variable {p : Property}

theorem Settled.bindAliases (settled : p.Settled registry) (entity : String) :
    p.bindAliases registry entity = .ok (p, []) := by
  induction settled generalizing entity with
  | leaf undirected container _ missing =>
    exact bind_eq_ok_iff.2 ⟨_, undirected.bindAliases (fun _ => missing) entity, rfl⟩
  | @nest own element undirected tied _ ih =>
    obtain ⟨kind, container⟩ := tied.exists_kind
    refine bind_eq_ok_iff.2 ⟨_, ih _, bind_eq_ok_iff.2 ⟨(own, []), ?_, rfl⟩⟩
    rw [Layer.around_of_tied tied]
    exact undirected.bindAliases (fun plain => by simp [container] at plain) entity

theorem Settled.elementType_eq (settled : p.Settled registry) : p.elementType = p.baseType := by
  induction settled with
  | leaf _ _ same _ => exact same
  | @nest own element _ tied _ ih =>
    have base : own.baseType = element.baseType := by
      generalize own.container = container, own.resolvedType = resolved at tied
      generalize own.baseType = base at tied ⊢
      cases tied with
      | container => rfl
    exact ih.trans base.symm

theorem Settled.mapRequired (settled : p.Settled registry) (required : Bool) :
    (p.mapOwn ({ · with required })).Settled registry := by
  cases settled with
  | leaf undirected container same missing =>
    exact .leaf ⟨undirected.extensions, undirected.format⟩ container same missing
  | nest undirected tied element =>
    exact .nest ⟨undirected.extensions, undirected.format⟩ tied element

theorem apart_of_mapRequired {required : Bool}
    (apart : registry.Apart (p.mapOwn ({ · with required })).layers) : registry.Apart p.layers := by
  cases p with
  | leaf own => exact List.forall_mem_singleton.2 (List.forall_mem_singleton.1 apart)
  | nest own element =>
    obtain ⟨inner, outer⟩ := List.forall_mem_append.1 apart
    exact List.forall_mem_append.2
      ⟨inner, List.forall_mem_singleton.2 (List.forall_mem_singleton.1 outer)⟩

end Property

namespace TypeMap

variable {schema e : Json} {kind : ContainerKind}

theorem undirected_element (undirected : schema.Undirected)
    (container : element? schema = some (kind, e)) : e.Undirected := by
  unfold element? at container
  split at container
  · cases container
  · split at container
    · cases container
      cases found : schema.get? "items" with
      | none => exact List.forall_mem_singleton.2 trivial
      | some items => exact undirected.of_mem (Json.mem_parts_of_get? found)
    · split at container
      · obtain ⟨items, found, same⟩ := Option.map_eq_some_iff.1 container
        cases same
        exact undirected.of_mem (Json.mem_parts_of_get? (Option.filter_eq_some_iff.1 found).1)
      · cases container

theorem leafLayer_types (types : TypeMap) (name : String) (schema : Json) :
    (types.leafLayer name schema).1.resolvedType = (types.leafLayer name schema).1.baseType := by
  unfold leafLayer
  split <;> rfl

theorem format_leafLayer (types : TypeMap) (name : String) (undirected : schema.Undirected) :
    Extensions.formatAlias? (types.leafLayer name schema).1.format = none := by
  unfold leafLayer
  split
  · rfl
  · exact undirected.formatAlias?

theorem undirected_property (types : TypeMap) (name : String) (undirected : schema.Undirected) :
    (types.property name schema).1.own.Undirected := by
  cases found : element? schema with
  | some element =>
    rw [property_of_element types name found]
    exact ⟨undirected.extensions, undirected.formatAlias?⟩
  | none =>
    rw [property_of_leaf types name found]
    exact ⟨undirected.extensions, types.format_leafLayer name undirected⟩

/-- What a schema without directives becomes is settled, unless one of its types is an alias. -/
theorem settled_property (types : TypeMap) (name : String) (undirected : schema.Undirected)
    (apart : registry.Apart (types.property name schema).1.layers) :
    (types.property name schema).1.Settled registry := by
  have own := types.undirected_property name undirected
  induction schema using property_induct with
  | element schema kind e container ih =>
    rw [property_of_element types name container] at apart own ⊢
    have inner := undirected_element undirected container
    exact .nest own (.container kind _)
      (ih inner (List.forall_mem_append.1 apart).1 (types.undirected_property name inner))
  | leaf schema leaf =>
    rw [property_of_leaf types name leaf] at apart own ⊢
    have plain := types.container_leafLayer name schema
    exact .leaf own plain (types.leafLayer_types name schema)
      (List.forall_mem_singleton.1 apart plain)

/-- So is its element. -/
theorem settled_element (types : TypeMap) (name : String) (undirected : schema.Undirected)
    {items : Property} (element : (types.property name schema).1.element? = some items)
    (apart : registry.Apart items.layers) : items.Settled registry := by
  cases found : element? schema with
  | some element' =>
    rw [property_of_element types name found] at element
    cases element
    exact types.settled_property name (undirected_element undirected found) apart
  | none =>
    rw [property_of_leaf types name found] at element
    cases element

end TypeMap

/-- Parts that binding leaves as they are give no names to import. -/
theorem bindParts_of_untouched {α : Type} {bind : α → Except Fault (α × List String)} {l : List α}
    (each : ∀ a ∈ l, bind a = .ok (a, [])) : bindParts bind l = .ok (l, []) := by
  obtain ⟨names, done, none⟩ := @bindParts_of_fixed _ bind l [] fun a member =>
    ⟨[], each a member, List.Subset.refl []⟩
  rw [done, List.subset_nil.1 none]

/-! ## Models -/

variable {doc : Document} {types : TypeMap}

theorem Model.bound_of_undirected {name : String} {schema : Json} {m : Model}
    (undirected : doc.root.Undirected) (part : schema ∈ doc.root.parts)
    (made : ofSchema doc types name schema = .ok m) (apart : registry.Apart m.layers) :
    m.bound registry = .ok m := by
  have extensions : m.extensions = .empty := by
    obtain ⟨_, _, same⟩ := bind_eq_ok_iff.1 made
    cases same
    exact (undirected.of_mem part).extensions
  have parent : m.boundParent registry = .ok (none, []) := by
    rw [boundParent, extensions]
    rfl
  have fields : boundFields registry m.name m.properties = .ok (m.properties, []) := by
    rw [boundFields_eq]
    refine bindParts_of_untouched fun p member => Property.Settled.bindAliases ?_ _
    obtain ⟨declaring, origin, field, there, required, rfl⟩ := exists_field_of_mem made p member
    have declaringPart : declaring ∈ doc.root.parts := by
      rcases origin with rfl | ⟨reference, listed, resolved⟩
      · exact part
      · exact Document.mem_parts_of_resolve resolved
          (Json.mem_parts_trans (Json.mem_parts_of_getArr?_getD listed) part)
    have fieldPart := Json.mem_parts_trans (Json.mem_parts_of_getObj?_getD there) declaringPart
    refine (types.settled_property field.1 (undirected.of_mem fieldPart) ?_).mapRequired required
    exact Property.apart_of_mapRequired fun own layer =>
      apart own (List.mem_flatMap.2 ⟨_, member, layer⟩)
  exact bind_eq_ok_iff.2 ⟨_, parent, bind_eq_ok_iff.2 ⟨_, fields, rfl⟩⟩

/-! ## Responses and parameters -/

/-- Binding has nothing to do in a response. -/
structure Response.Settled (registry : TypeRegistry) (r : Response) : Prop where
  baseType : r.baseType = r.schema.map (·.baseType)
  schema : ∀ p, r.schema = some p → p.Settled registry

theorem Response.Settled.bindAliases {r : Response} (settled : r.Settled registry)
    (entity : String) : r.bindAliases registry entity = .ok (r, []) := by
  obtain ⟨code, description, base, body⟩ := r
  obtain ⟨named, each⟩ := settled
  cases body with
  | none =>
    cases named
    rfl
  | some p =>
    cases named
    refine bind_eq_ok_iff.2 ⟨(p, []), (each p rfl).bindAliases entity, ?_⟩
    show Except.ok ((⟨code, description, some p.elementType, some p⟩ : Response), _) = _
    rw [(each p rfl).elementType_eq]

theorem Response.settled_ofSchema (types : TypeMap) (olderLayout : Bool) (code : String)
    {response : Json} (undirected : response.Undirected)
    (apart : ∀ p, (ofSchema types olderLayout code response).1.schema = some p →
      registry.Apart p.layers) :
    (ofSchema types olderLayout code response).1.Settled registry := by
  have part : ∀ schema, schema? olderLayout response = some schema → schema ∈ response.parts := by
    intro schema found
    unfold schema? at found
    split at found
    · exact Json.mem_parts_of_get? found
    · obtain ⟨media, first, found⟩ := Option.bind_eq_some_iff.1 found
      exact Json.mem_parts_trans (Json.mem_parts_of_get? found)
        (Parameter.mem_parts_of_firstMedia? first)
  rw [ofSchema] at apart ⊢
  cases found : schema? olderLayout response with
  | none =>
    refine ⟨rfl, fun p none => ?_⟩
    cases none
  | some schema =>
    rw [found] at apart
    refine ⟨rfl, fun p same => ?_⟩
    cases same
    exact types.settled_property code (undirected.of_mem (part schema found)) (apart _ rfl)

namespace Parameter

/-- Binding has nothing to do in a parameter: the text of a body can be read and has no directive; any
other parameter has none either and is tied to a settled element. -/
inductive Settled (registry : TypeRegistry) (p : Parameter) : Prop where
  | body {text : String} {fragment : Json} : p.isBody = true → p.rawSchema = some text →
      Json.read? text = some fragment → bodyDirective? fragment = none → Settled registry p
  | field : p.isBody = false → p.extensions = .empty → Extensions.formatAlias? p.format = none →
      Tied p.container p.items p.baseType p.resolvedType →
      (∀ items, p.items = some items → items.Settled registry) → Settled registry p

variable {p : Parameter}

theorem Settled.hasMore (settled : p.Settled registry) (hasMore : Bool) :
    ({ p with hasMore } : Parameter).Settled registry := by
  cases settled with
  | body isBody raw read none => exact .body isBody raw read none
  | field notBody extensions format tied items => exact .field notBody extensions format tied items

theorem elementBound_of_tied (tied : Tied p.container p.items p.baseType p.resolvedType)
    (settled : ∀ items, p.items = some items → items.Settled registry) (entity : String) :
    ElementBound registry entity p p [] := by
  cases element : p.items with
  | none => exact .plain (.inr element)
  | some items =>
    rw [element] at tied
    obtain ⟨kind, container⟩ := tied.exists_kind
    have same : p.withElement kind items = p := by
      obtain ⟨name, location, description, declared, format, base, resolved, isBody, isContainer,
        kind', items'⟩ := p
      cases element
      cases container
      cases tied
      rfl
    have bound : ElementBound registry entity p (p.withElement kind items) [] :=
      .element container element ((settled items element).bindAliases _)
    rwa [same] at bound

theorem Settled.bindAliases (settled : p.Settled registry) (entity : String) :
    p.bindAliases registry entity = .ok (p, []) := by
  cases settled with
  | body isBody raw read none =>
    rw [bindAliases_of_rawSchema isBody raw read, none]
    rfl
  | field notBody extensions format tied items =>
    refine bindAliases_eq_ok_iff.2 (.field notBody (elementBound_of_tied tied items entity) ?_ .plain)
    rw [extensions]
    exact Extensions.symbolicType_empty p.declaredType format

/-- A parameter of a document without directives is settled, if its body can be read at all. -/
theorem MadeOf.settled {operationId : String} {item methodItem source : Json}
    (made : p.MadeOf doc types operationId item methodItem source)
    (undirected : source.Undirected) (wellFormed : source.WellFormed) (inRange : source.InRange)
    (bounded : p.isBody = true → source.depth ≤ Json.Stage.maxOpen)
    (apart : ∀ items, p.items = some items → registry.Apart items.layers) :
    p.Settled registry := by
  cases isBody : p.isBody with
  | true =>
    exact .body isBody (made.rawSchema isBody)
      (Json.read?_render_rounded wellFormed inRange (bounded isBody))
      (undirected.rounded inRange).bodyDirective?
  | false =>
    cases made with
    | media _ _ _ made =>
      obtain ⟨_, _, _, _, rfl, _⟩ := ofRequestBody_eq_some_iff.1 made
      cases isBody
    | parameter _ _ made =>
      obtain ⟨name, location, _, _, rfl, _⟩ := ofSchema_eq_ok_iff.1 made
      have schema : ((source.get? "schema").getD source).Undirected := by
        cases found : source.get? "schema" with
        | none => exact undirected
        | some schema => exact undirected.of_mem (Json.mem_parts_of_get? found)
      have own := types.undirected_property name schema
      have tied := (types.regular_property name ((source.get? "schema").getD source)).consistent _
        (Property.self_mem_nodes _)
      have element := fun items => @TypeMap.settled_element registry _ types name schema items
      generalize (types.property name ((source.get? "schema").getD source)).1 = typed
        at apart own tied element isBody ⊢
      have place : (location == .body) = false := isBody
      have items : (ofTyped source name location typed).items = typed.element? :=
        if_neg (by simp [place])
      refine .field isBody ?_ own.format ?_ fun items' same => ?_
      · show typed.own.extensions.union (Extensions.ofJson source) = .empty
        rw [own.extensions, undirected.extensions]
        rfl
      · rw [items]
        exact tied
      · exact element items' (items.symm.trans same) (apart items' same)

end Parameter

/-! ## Operations -/

/-- The values that the bodies of some operations are made of are nested no deeper than this. -/
def Api.BodiesWithin (api : Api) (doc : Document) (types : TypeMap) (depth : Nat) : Prop :=
  ∀ o ∈ api.operations, ∀ (item methodItem : Json) (p : Parameter) (source : Json),
    o.DeclaredBy doc types item methodItem →
      p.MadeOf doc types o.operationId item methodItem source → p.isBody = true →
        source.depth ≤ depth

/-- The bodies of a document are nested no deeper than the document. -/
theorem Api.bodiesWithin_of_depth (api : Api) (types : TypeMap) {depth : Nat}
    (bounded : doc.root.depth ≤ depth) : api.BodiesWithin doc types depth := by
  intro o _ item methodItem p source declared made _
  obtain ⟨itemPart, methodPart⟩ := declared.mem_parts
  exact Nat.le_trans (Json.depth_le_of_mem (made.mem_parts itemPart methodPart)) bounded

namespace Operation

variable {o : Operation} {item methodItem : Json}

theorem DeclaredBy.settled_responses (declared : o.DeclaredBy doc types item methodItem)
    (undirected : doc.root.Undirected) (apart : registry.Apart o.layers) :
    ∀ r ∈ o.responses, r.Settled registry := by
  obtain ⟨_, methodPart⟩ := declared.mem_parts
  obtain ⟨_, made⟩ := responses_of_ofSchema declared.made
  intro r member
  obtain ⟨entry, there, response, resolved, same⟩ := Response.exists_declared_of_mem made r member
  have part : response ∈ doc.root.parts := Document.mem_parts_of_resolve resolved
    (Json.mem_parts_trans (Json.mem_parts_of_getObj?_getD there) methodPart)
  rw [same]
  refine Response.settled_ofSchema types _ r.code (undirected.of_mem part) fun p schema => ?_
  rw [← same] at schema
  exact fun own layer => apart own (List.mem_flatMap.2
    ⟨p, mem_properties.2 (.inr (.inl ⟨r, member, schema⟩)), layer⟩)

theorem DeclaredBy.settled_parameters (declared : o.DeclaredBy doc types item methodItem)
    (undirected : doc.root.Undirected) (wellFormed : doc.root.WellFormed)
    (inRange : doc.root.InRange) (apart : registry.Apart o.layers)
    (bounded : ∀ (p : Parameter) (source : Json),
      p.MadeOf doc types o.operationId item methodItem source → p.isBody = true →
        source.depth ≤ Json.Stage.maxOpen) :
    ∀ p ∈ o.parameters, p.Settled registry := by
  obtain ⟨itemPart, methodPart⟩ := declared.mem_parts
  intro p member
  obtain ⟨q, source, same, made⟩ := declared.exists_madeOf p member
  have part := made.mem_parts itemPart methodPart
  have items : q.items = p.items := by rw [same]
  rw [same]
  refine (made.settled (undirected.of_mem part) (wellFormed.of_mem part) (inRange.of_mem part)
    (bounded q source made) fun items' there => ?_).hasMore p.hasMore
  exact fun own layer => apart own (List.mem_flatMap.2
    ⟨items', mem_properties.2 (.inr (.inr ⟨p, member, items ▸ there⟩)), layer⟩)

/-- Binding changes nothing in an operation but its group. -/
theorem bound_of_settled {options : OperationOptions} {basePath : Option String}
    (built : o.Built doc types) (responses : ∀ r ∈ o.responses, r.Settled registry)
    (parameters : ∀ p ∈ o.parameters, p.Settled registry)
    (noHeaders : options.securityHeaders = false) :
    o.bound registry options basePath = .ok { o with groupKey := o.group basePath } := by
  have ofReturn : o.boundReturn registry = .ok (o.returnProperty, o.returnType, []) := by
    rw [boundReturn_eq_ok_iff built.typed.returned, built.returnType]
    cases returned : o.returnProperty with
    | none => exact .plain returned
    | some p =>
      obtain ⟨r, member, schema⟩ := Response.exists_of_returned (built.returned.symm.trans returned)
      exact .value returned (((responses r member).schema p schema).bindAliases _)
  have ofResponses : Response.bindEach registry o.operationId o.responses =
      .ok (o.responses, []) := by
    rw [Response.bindEach_eq]
    exact bindParts_of_untouched fun r member => (responses r member).bindAliases _
  have ofParameters : Parameter.bindEach registry o.operationId o.parameters =
      .ok (o.parameters, []) := by
    rw [Parameter.bindEach_eq]
    exact bindParts_of_untouched fun p member => (parameters p member).bindAliases _
  refine bound_eq_ok_iff.2 ⟨_, _, _, _, _, _, _, ofReturn, ofResponses, ofParameters, ?_⟩
  have linked : Parameter.link o.parameters = o.parameters := by
    obtain ⟨ps, listed, _⟩ := built.parameters
    rw [listed, Parameter.link_link]
  rw [withParts, withHeaders, noHeaders, if_neg (by decide), linked]
  rfl

end Operation

section Undirected

variable {doc : Document} {types : TypeMap} {registry : TypeRegistry}
  (undirected : doc.root.Undirected)
include undirected

/-- Binding leaves the models of a document without directives as they are. -/
theorem Model.bindAll_of_undirected {models : List Model}
    (produced : ofDocument doc types = .ok models) (apart : ∀ m ∈ models, registry.Apart m.layers) :
    bindAll registry models = ⟨models, none⟩ := by
  refine Progress.ofEach_of_fixed (commits_bindAliases registry) fun m member => ?_
  obtain ⟨entry, there, schema, resolved, made⟩ := exists_schema_of_mem produced m member
  have part := Document.mem_parts_of_resolve resolved (mem_parts_of_schemas there)
  exact bound_of_undirected undirected part made (apart m member)

/-- Binding changes nothing in the operations of a document without directives but their groups. -/
theorem Api.bindAll_of_undirected [DomainNames] {api : Api} {options : OperationOptions}
    (produced : ofDocument doc types = .ok api) (storable : doc.root.Storable)
    (bounded : api.BodiesWithin doc types Json.Stage.maxOpen)
    (apart : ∀ o ∈ api.operations, registry.Apart o.layers)
    (noHeaders : options.securityHeaders = false) :
    api.bindAll registry options = ⟨api.operations.map fun o => { o with
      groupKey := Naming.resourceGroup o.path (options.rootPath api.basePath) }, none⟩ := by
  have commits := Operation.commits_bindAndGroup registry options (options.rootPath api.basePath)
  refine Progress.ofEach_of_done commits fun o member => ?_
  obtain ⟨item, methodItem, declared⟩ := declaredBy_of_ofDocument produced o member
  have responses := declared.settled_responses undirected (apart o member)
  have parameters := declared.settled_parameters undirected storable.wellFormed storable.inRange
    (apart o member) fun p source => bounded o member item methodItem p source declared
  have group : o.group (options.rootPath api.basePath) =
      Naming.resourceGroup o.path (options.rootPath api.basePath) := by
    rw [Operation.group, declared.pathExtensions,
      (undirected.of_mem declared.mem_parts.1).extensions]
    rfl
  rw [← group]
  exact Operation.bound_of_settled (Operation.built_of_ofSchema declared.made) responses parameters
    noHeaders

end Undirected

/-- If a document has no directive, and no alias is the base type of a layer that is no container, then
binding its models succeeds and leaves all of them as they are.  Binding its operations succeeds too,
if the bodies are nested no deeper than can be read back from their texts, and then changes nothing but
their groups, unless headers of credentials are asked for.  The texts are those of values that can be
stored, and a document that is read is such a value (`binding_parsed_without_directives`). -/
theorem binding_without_directives [DomainNames] (doc : Document) (types : TypeMap)
    (registry : TypeRegistry) (undirected : doc.root.Undirected) :
    (∀ models, Model.ofDocument doc types = .ok models →
      (∀ m ∈ models, registry.Apart m.layers) →
        Model.bindAll registry models = ⟨models, none⟩) ∧
    ∀ api options, Api.ofDocument doc types = .ok api → doc.root.WellFormed → doc.root.InRange →
      api.BodiesWithin doc types Json.Stage.maxOpen → (∀ o ∈ api.operations, registry.Apart o.layers) →
      options.securityHeaders = false →
        api.bindAll registry options = ⟨api.operations.map fun o => { o with
          groupKey := Naming.resourceGroup o.path (options.rootPath api.basePath) }, none⟩ :=
  ⟨fun _ produced apart => Model.bindAll_of_undirected undirected produced apart,
    fun _ _ produced wellFormed inRange bounded apart noHeaders =>
      Api.bindAll_of_undirected undirected produced ⟨wellFormed, inRange⟩ bounded apart noHeaders⟩

/-- The same of a document that is read from a text, of which nothing has to be asked but how deep its
bodies are nested. -/
theorem binding_parsed_without_directives [DomainNames] {text : String} {doc : Document}
    (parsed : Document.parse text = .ok doc) (types : TypeMap) (registry : TypeRegistry)
    (undirected : doc.root.Undirected) :
    (∀ models, Model.ofDocument doc types = .ok models →
      (∀ m ∈ models, registry.Apart m.layers) →
        Model.bindAll registry models = ⟨models, none⟩) ∧
    ∀ api options, Api.ofDocument doc types = .ok api →
      api.BodiesWithin doc types Json.Stage.maxOpen → (∀ o ∈ api.operations, registry.Apart o.layers) →
      options.securityHeaders = false →
        api.bindAll registry options = ⟨api.operations.map fun o => { o with
          groupKey := Naming.resourceGroup o.path (options.rootPath api.basePath) }, none⟩ :=
  ⟨fun _ produced apart => Model.bindAll_of_undirected undirected produced apart,
    fun _ _ produced bounded apart noHeaders => Api.bindAll_of_undirected undirected produced
      (Document.storable_of_parse parsed) bounded apart noHeaders⟩

/-- The schema of a level, which is at least a half. -/
def levelSchema : Json :=
  .obj [("type", .str "number"), ("format", .str "double"), ("minimum", .float ⟨false, 2 ^ 52, -53⟩)]

/-- The body that takes a level. -/
def levelParameter : Json :=
  .obj [("name", .str "level"), ("in", .str "body"), ("schema", levelSchema)]

/-- The schema of a list of models of a level. -/
def levelsSchema : Json :=
  .obj [("type", .str "array"), ("items", .obj [("$ref", .str "#/definitions/Level")])]

/-- An operation that takes a level and returns a list. -/
def levelsMethod : Json :=
  .obj [("operationId", .str "add"), ("parameters", .arr [levelParameter]),
    ("responses", .obj [("200", .obj [("schema", levelsSchema)])])]

/-- A document with that model and that operation. -/
def levelsDocument : Document :=
  ⟨.obj [("swagger", .str "2.0"),
    ("definitions", .obj [("Level", .obj [("properties", .obj [("value", levelSchema)])])]),
    ("paths", .obj [("/levels", .obj [("post", levelsMethod)])])]⟩

/-- The model of the document. -/
def levelModel : Model where
  name := "Level"
  className := "Level"
  description := none
  properties := [.leaf { Layer.plain "value" "number" "Double" with format := some "double" }]
  parent := none
  extensions := .empty
  imports := .empty

/-- The type of the response. -/
def levelsProperty : Property :=
  .nest { Layer.plain "200" "array" "List<Level>" with
      baseType := "Level"
      container := some .list }
    (.leaf (Layer.plain "200" "object" "Level"))

/-- The operation of the document. -/
def levelsOperation : Operation where
  operationId := "add"
  method := "post"
  path := "/levels"
  summary := none
  returnType := some "List<Level>"
  returnProperty := some levelsProperty
  responses := [⟨"200", none, some "Level", some levelsProperty⟩]
  parameters := [{ Parameter.plain "level" .body "number" "Double" with
    format := some "double"
    isPrimitive := true
    rawSchema := some levelParameter.render }]
  authMethods := []
  groupKey := "/levels"
  pathExtensions := .empty
  extensions := .empty
  imports := ⟨["java.util.List"]⟩

theorem property_levelSchema (name : String) :
    (⟨.standard, .plain⟩ : TypeMap).property name levelSchema =
      (.leaf { Layer.plain name "number" "Double" with format := some "double" }, []) :=
  TypeMap.property_of_leaf _ name rfl

theorem levelsDocument_models :
    Model.ofDocument levelsDocument ⟨.standard, .plain⟩ = .ok [levelModel] := by
  let types : TypeMap := ⟨.standard, .plain⟩
  have made : Model.ofDocument levelsDocument types =
      .ok [⟨"Level", "Level", none,
        [(types.property "value" levelSchema).1.mapOwn ({ · with required := false })], none,
        .empty, ImportSet.empty.extend ((types.property "value" levelSchema).2 ++ [])⟩] := rfl
  rw [made, property_levelSchema]
  rfl

theorem levelsDocument_operations [DomainNames] :
    Api.ofDocument levelsDocument ⟨.standard, .plain⟩ = .ok ⟨none, [levelsOperation]⟩ := by
  let types : TypeMap := ⟨.standard, .plain⟩
  have levels : types.property "200" levelsSchema = (levelsProperty, ["java.util.List"]) := by
    have container : TypeMap.element? levelsSchema =
      some (.list, .obj [("$ref", .str "#/definitions/Level")]) := rfl
    rw [types.property_of_element "200" container, types.property_of_leaf "200" rfl]
    rfl
  have declared : Parameter.ofSchemas types "add" [levelParameter] =
      .ok (levelsOperation.parameters, []) :=
    Parameter.ofSchemas_singleton rfl rfl (property_levelSchema "level") rfl
  have responses : Response.ofSchemas levelsDocument types
      [("200", .obj [("schema", levelsSchema)])] =
      .ok (levelsOperation.responses, ["java.util.List"]) :=
    Response.ofSchemas_singleton rfl rfl levels rfl
  have method : Operation.ofSchema levelsDocument types "/levels" "post" levelsMethod [] .empty =
      .ok levelsOperation :=
    bind_eq_ok_iff.2 ⟨[levelParameter], rfl, bind_eq_ok_iff.2 ⟨_, declared,
      bind_eq_ok_iff.2 ⟨([], []), rfl, bind_eq_ok_iff.2 ⟨_, responses, rfl⟩⟩⟩⟩
  exact Api.ofDocument_of_method rfl rfl (by decide) method

/-- The float in the body is read back from its text, and nothing is changed but the group. -/
theorem binding_without_directives_levels :
    let registry := Model.pagedTypes
    levelsDocument.root.Undirected ∧ levelsDocument.root.WellFormed ∧ levelsDocument.root.InRange ∧
      Model.ofDocument levelsDocument ⟨.standard, .plain⟩ = .ok [levelModel] ∧
      Api.ofDocument levelsDocument ⟨.standard, .plain⟩ = .ok ⟨none, [levelsOperation]⟩ ∧
      registry.Apart levelModel.layers ∧ registry.Apart levelsOperation.layers ∧
      Model.bindAll registry [levelModel] = ⟨[levelModel], none⟩ ∧
      Api.bindAll registry ⟨false, false⟩ ⟨none, [levelsOperation]⟩ =
        ⟨[{ levelsOperation with groupKey := "levels" }], none⟩ := by
  intro registry
  have undirected : levelsDocument.root.Undirected := by decide
  have wellFormed : levelsDocument.root.WellFormed := by decide
  have inRange : levelsDocument.root.InRange := by decide
  have models := levelsDocument_models
  have api := levelsDocument_operations
  have ofModel : registry.Apart levelModel.layers := by
    unfold TypeRegistry.Apart
    decide
  have ofOperation : registry.Apart levelsOperation.layers := by
    unfold TypeRegistry.Apart
    decide
  have both := binding_without_directives levelsDocument ⟨.standard, .plain⟩ registry undirected
  have bounded := Api.bodiesWithin_of_depth ⟨none, [levelsOperation]⟩ ⟨.standard, .plain⟩
    (show levelsDocument.root.depth ≤ Json.Stage.maxOpen by decide)
  exact ⟨undirected, wellFormed, inRange, models, api, ofModel, ofOperation,
    both.1 _ models (List.forall_mem_singleton.2 ofModel),
    both.2 _ ⟨false, false⟩ api wellFormed inRange bounded
      (List.forall_mem_singleton.2 ofOperation) rfl⟩

/-- A list inside of so many others. -/
def nestedLists : Nat → Json
  | 0 => .arr []
  | n + 1 => .arr [nestedLists n]

/-- An operation that refers to the whole document for its body. -/
def deepMethod : Json :=
  .obj [("operationId", .str "add"), ("parameters", .arr [.obj [("$ref", .str "#")]])]

/-- A document with this operation, one list deeper than what can be read from a text. -/
def deepDocument : Document :=
  ⟨.obj [("swagger", .str "2.0"), ("name", .str "n"), ("in", .str "body"),
    ("deep", nestedLists 126), ("paths", .obj [("/p", .obj [("post", deepMethod)])])]⟩

/-- Its body. -/
def deepBody : Parameter :=
  { Parameter.plain "n" .body "object" "Object" with rawSchema := some deepDocument.root.render }

/-- Its operation. -/
def deepOperation : Operation where
  operationId := "add"
  method := "post"
  path := "/p"
  summary := none
  returnType := none
  returnProperty := none
  responses := []
  parameters := [deepBody]
  authMethods := []
  groupKey := "/p"
  pathExtensions := .empty
  extensions := .empty
  imports := .empty

theorem deepDocument_operations [DomainNames] :
    Api.ofDocument deepDocument ⟨.standard, .plain⟩ = .ok ⟨none, [deepOperation]⟩ := by
  let types : TypeMap := ⟨.standard, .plain⟩
  have typed : types.property "n" deepDocument.root = (.leaf (Layer.plain "n" "object" "Object"), []) :=
    types.property_of_leaf "n" rfl
  have declared : Parameter.ofSchemas types "add" [deepDocument.root] = .ok ([deepBody], []) :=
    Parameter.ofSchemas_singleton rfl rfl typed rfl
  have method : Operation.ofSchema deepDocument types "/p" "post" deepMethod [] .empty =
      .ok deepOperation :=
    bind_eq_ok_iff.2 ⟨[deepDocument.root], rfl, bind_eq_ok_iff.2 ⟨_, declared,
      bind_eq_ok_iff.2 ⟨([], []), rfl, bind_eq_ok_iff.2 ⟨([], []), rfl, rfl⟩⟩⟩⟩
  exact Api.ofDocument_of_method rfl rfl (by decide) method

/-- One list more than can be read, and binding fails although there is nothing to bind. -/
theorem binding_refuses_deep_body :
    deepDocument.root.Undirected ∧ deepDocument.root.WellFormed ∧ deepDocument.root.InRange ∧
      Api.ofDocument deepDocument ⟨.standard, .plain⟩ = .ok ⟨none, [deepOperation]⟩ ∧
      TypeRegistry.empty.Apart deepOperation.layers ∧
      Api.bindAll .empty ⟨false, false⟩ ⟨none, [deepOperation]⟩ =
        ⟨[deepOperation], some (.schema (.malformedFragment "add.n"))⟩ := by
  have wellFormed : deepDocument.root.WellFormed := by decide +kernel
  have integral : deepDocument.root.Integral := by decide +kernel
  have unread : Json.read? deepDocument.root.render = none := by
    rw [Json.read?_render_eq wellFormed integral.inRange, Json.rounded_of_integral integral,
      ← Option.isNone_iff_eq_none]
    decide +kernel
  have body : deepBody.bindAliases .empty "add.n" =
      .error (.schema (.malformedFragment "add.n")) :=
    Parameter.bindAliases_of_unread rfl rfl unread
  have refused : deepOperation.bound .empty ⟨false, false⟩ none =
      .error (.schema (.malformedFragment "add.n")) := by
    refine bind_eq_error_iff.2 (.inr ⟨_, rfl, ?_⟩)
    refine bind_eq_error_iff.2 (.inr ⟨_, rfl, ?_⟩)
    refine bind_eq_error_iff.2 (.inl ?_)
    exact bind_eq_error_iff.2 (.inl body)
  exact ⟨by decide +kernel, wellFormed, integral.inRange, deepDocument_operations, List.forall_mem_nil _,
    Progress.ofEach_cons_of_error (Operation.commits_bindAndGroup _ _ _) [] refused⟩

end SchemaBinder
