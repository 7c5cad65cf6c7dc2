import SchemaBinder.Proofs.Schema
import SchemaBinder.Proofs.Text
/-!
# References to named schemas

A reference is read in two ways.  Its pointer leads to a schema, key by key, with escapes replaced
(`Document.target_of_addresses`).  What follows its last slash is the name of a class, taken as it
stands (`Naming.refName`).

The two agree on the last key up to its escapes (`Document.unescape_refName`).  So a reference
without escapes there names the class of the schema it leads to, and no other reference does unless
the naming of classes happens to make both names one.
-/

namespace SchemaBinder

/-! ## Escapes -/

namespace Json

variable {cs : List Char}

theorem length_replace_le (code mark : Char) (cs : List Char) :
    (unescapeSegment.replace code mark cs).length ≤ cs.length := by
  induction cs using unescapeSegment.replace.induct code with
  | case1 rest ih =>
    rw [unescapeSegment.replace, if_pos rfl]
    exact (Nat.succ_le_succ ih).trans (Nat.le_succ _)
  | case2 c rest other ih =>
    rw [unescapeSegment.replace, if_neg other]
    exact Nat.succ_le_succ ih
  | case3 c rest alone ih =>
    rw [unescapeSegment.replace.eq_2 _ _ _ _ alone]
    exact Nat.succ_le_succ ih
  | case4 => exact le_rfl

/-- Replacing an escape leaves a text without it as it is, and makes every other text shorter. -/
theorem replace_cases (code mark : Char) (cs : List Char) :
    (¬ ['~', code] <:+: cs ∧ unescapeSegment.replace code mark cs = cs) ∨
      (['~', code] <:+: cs ∧ (unescapeSegment.replace code mark cs).length < cs.length) := by
  induction cs using unescapeSegment.replace.induct code with
  | case1 rest =>
    refine .inr ⟨⟨[], rest, rfl⟩, ?_⟩
    rw [unescapeSegment.replace, if_pos rfl]
    exact Nat.succ_lt_succ (Nat.lt_succ_of_le (length_replace_le code mark rest))
  | case2 c rest other ih =>
    have here : ¬ ['~', code] <+: '~' :: c :: rest := by simp [Ne.symm other]
    rw [List.infix_cons_iff, or_iff_right here, unescapeSegment.replace, if_neg other]
    simpa using ih
  | case3 c rest alone ih =>
    have here : ¬ ['~', code] <+: c :: rest := by
      rintro ⟨behind, same⟩
      obtain ⟨rfl, rfl⟩ := List.cons.inj same
      exact alone code behind rfl rfl
    rw [List.infix_cons_iff, or_iff_right here, unescapeSegment.replace.eq_2 _ _ _ _ alone]
    simpa using ih
  | case4 => exact .inl ⟨by simp, rfl⟩

/-- The segment holds `~0` or `~1`. -/
def HasEscape (segment : List Char) : Prop :=
  ['~', '0'] <:+: segment ∨ ['~', '1'] <:+: segment

instance (segment : List Char) : Decidable (HasEscape segment) :=
  inferInstanceAs (Decidable (_ ∨ _))

/-- Exactly the segments without escapes stand for themselves. -/
theorem unescapeSegment_eq_self_iff : unescapeSegment cs = cs ↔ ¬ HasEscape cs := by
  rw [unescapeSegment, HasEscape, not_or]
  obtain ⟨noSlash, same⟩ | ⟨slash, shorter⟩ := replace_cases '1' '/' cs
  · rw [same]
    obtain ⟨noTilde, same⟩ | ⟨tilde, shorter⟩ := replace_cases '0' '~' cs
    · simp only [same, noTilde, noSlash, not_false_eq_true, and_self]
    · simp only [tilde, not_true_eq_false, false_and, iff_false]
      exact fun same => shorter.ne (congrArg List.length same)
  · simp only [slash, not_true_eq_false, and_false, iff_false]
    intro same
    have twice := (length_replace_le '0' '~' (unescapeSegment.replace '1' '/' cs)).trans_lt shorter
    exact twice.ne (congrArg List.length same)

/-! ## Pointers -/

/-- The keys that a pointer goes through. -/
def pointerPath? (pointer : String) : Option (List (List Char)) :=
  match pointer.toList with
  | [] => some []
  | c :: cs => if c = '/' then some ((Text.split '/' cs).map unescapeSegment) else none

/-- The part of a value that is reached through some keys. -/
def descend? (path : List (List Char)) (v : Json) : Option Json :=
  path.foldl (fun v key => v.bind (child? · key)) (some v)

/-- A pointer names what its keys lead to. -/
theorem pointer?_eq_descend? (pointer : String) (v : Json) :
    v.pointer? pointer = (pointerPath? pointer).bind (descend? · v) := by
  unfold pointer? pointerPath?
  cases pointer.toList with
  | nil => rfl
  | cons c cs =>
    dsimp only
    split
    · rw [Option.bind_some, descend?, List.foldl_map]
    · rfl

theorem child?_of_get? {v w : Json} {key : String} (found : v.get? key = some w) :
    v.child? key.toList = some w := by
  cases v with
  | obj fields => rwa [child?, String.ofList_toList]
  | _ => cases found

end Json

/-! ## What a reference leads to -/

/-- The name in a reference is its last segment. -/
theorem Naming.getLast?_split_refName (reference : String) :
    (Text.split '/' reference.toList).getLast? = some (refName reference).toList := by
  unfold refName
  split
  · next found => rw [Text.getLast?_split_of_splitLast found, String.toList_ofList]
  · next none => rw [Text.split_of_notMem ((Text.splitLast_eq_none_iff '/' _).1 none)]; rfl

namespace Document

variable {doc : Document} {reference name : String}

/-- The keys under which a document holds a named schema. -/
def schemaPath (doc : Document) (name : String) : List (List Char) :=
  if doc.isOlderLayout then ["definitions".toList, name.toList]
  else ["components".toList, "schemas".toList, name.toList]

/-- The pointer of a reference goes through the keys of a named schema. -/
def Addresses (doc : Document) (reference name : String) : Prop :=
  ∃ pointer, reference = "#" ++ pointer ∧ Json.pointerPath? pointer = some (doc.schemaPath name)

theorem getLast?_schemaPath (doc : Document) (name : String) :
    (doc.schemaPath name).getLast? = some name.toList := by
  unfold schemaPath
  split <;> rfl

/-- Such a reference leads to the schema. -/
theorem target_of_addresses {listing : List (String × Json)} {schema : Json}
    (listed : doc.schemas = some listing) (found : Assoc.get? name listing = some schema)
    (addresses : doc.Addresses reference name) : doc.target reference = .ok schema := by
  obtain ⟨pointer, starts, path⟩ := addresses
  have entry : (Json.obj listing).child? name.toList = some schema := Json.child?_of_get? found
  have leads : Json.descend? (doc.schemaPath name) doc.root = some schema := by
    unfold schemas at listed
    unfold schemaPath
    split at listed
    · next older =>
      obtain ⟨part, here, isObject⟩ := Option.bind_eq_some_iff.1 listed
      obtain rfl := Json.eq_obj_of_asObj? isObject
      rw [if_pos older]
      simp only [Json.descend?, List.foldl_cons, List.foldl_nil, Option.bind_some,
        Json.child?_of_get? here, entry]
    · next newer =>
      obtain ⟨components, here, listed⟩ := Option.bind_eq_some_iff.1 listed
      obtain ⟨part, within, isObject⟩ := Option.bind_eq_some_iff.1 listed
      obtain rfl := Json.eq_obj_of_asObj? isObject
      rw [if_neg newer]
      simp only [Json.descend?, List.foldl_cons, List.foldl_nil, Option.bind_some,
        Json.child?_of_get? here, Json.child?_of_get? within, entry]
  unfold target
  rw [Text.dropStart?_eq_some_iff.2 starts]
  dsimp only
  rw [Json.pointer?_eq_descend?, path, Option.bind_some, leads]

/-- What follows the last slash of such a reference is the name of the schema, with its escapes. -/
theorem unescape_refName (addresses : doc.Addresses reference name) :
    Json.unescapeSegment (Naming.refName reference).toList = name.toList := by
  obtain ⟨pointer, rfl, path⟩ := addresses
  obtain ⟨behind, slash, keys⟩ : ∃ behind, pointer.toList = '/' :: behind ∧
      (Text.split '/' behind).map Json.unescapeSegment = doc.schemaPath name := by
    rw [Json.pointerPath?] at path
    have last := doc.getLast?_schemaPath name
    cases chars : pointer.toList with
    | nil =>
      rw [chars] at path
      rw [← Option.some.inj path] at last
      cases last
    | cons c behind =>
      rw [chars] at path
      dsimp only at path
      split at path
      · next slash => exact ⟨behind, by rw [slash], Option.some.inj path⟩
      · cases path
  have last : (Text.split '/' behind).getLast?.map Json.unescapeSegment = some name.toList := by
    rw [← List.getLast?_map, keys, getLast?_schemaPath]
  obtain ⟨key, isLast, unescaped⟩ := Option.map_eq_some_iff.1 last
  have whole : (Text.split '/' ("#" ++ pointer).toList).getLast? = some key := by
    rw [String.toList_append, slash, Text.split_append, List.getLast?_append, isLast,
      Option.some_or]
  rw [Naming.getLast?_split_refName] at whole
  rw [Option.some.inj whole, unescaped]

end Document

/-! ## What a reference names -/

/-- A schema with a reference has the class that the reference names. -/
theorem TypeMap.property_of_reference (types : TypeMap) (field : String) {schema : Json}
    {reference : String} (refers : schema.getStr? "$ref" = some reference) :
    (types.property field schema).1.own.resolvedType =
      types.names.modelName (Naming.refName reference) := by
  have leaf : element? schema = none := by rw [element?, refers]; rfl
  rw [property_of_leaf types field leaf, leafLayer, refers]
  rfl

namespace Model

/-- The first reference in the `allOf` list of a schema. -/
def parentReference? (schema : Json) : Option String :=
  ((schema.getArr? "allOf").getD []).findSome? (·.getStr? "$ref")

/-- The first reference names the parent, unless there is one already. -/
theorem parent_of_members {doc : Document} {names : NamePolicy} {list : List Json}
    {parent final : Option String} {others : List Json}
    (parted : members doc names parent list = .ok (final, others)) :
    final = parent.or ((list.findSome? (·.getStr? "$ref")).map fun reference =>
      names.modelName (Naming.refName reference)) := by
  induction list generalizing parent others with
  | nil =>
    cases parted
    simp
  | cons member rest ih =>
    unfold members at parted
    split at parted
    · next reference refers =>
      rw [ih parted, List.findSome?_cons, refers]
      rfl
    · next known _ _ given =>
      obtain ⟨schema, _, parted⟩ := bind_eq_ok_iff.1 parted
      obtain ⟨⟨later, schemas⟩, more, parted⟩ := bind_eq_ok_iff.1 parted
      cases parted
      rw [ih more, List.findSome?_cons]
      cases known with
      | some => rfl
      | none =>
        cases refers : member.getStr? "$ref" with
        | none => rfl
        | some reference => exact (given reference rfl refers).elim

theorem parent_of_ofSchema {doc : Document} {types : TypeMap} {name : String} {schema : Json}
    {m : Model} (made : ofSchema doc types name schema = .ok m) :
    m.parent = (parentReference? schema).map fun reference =>
      types.names.modelName (Naming.refName reference) := by
  obtain ⟨⟨parent, others⟩, parted, made⟩ := bind_eq_ok_iff.1 made
  cases made
  exact (parent_of_members parted).trans Option.none_or

/-- The models of a document are its named schemas, in their order, each with its class. -/
theorem names_of_ofDocument {doc : Document} {types : TypeMap} {models : List Model}
    (made : ofDocument doc types = .ok models) :
    models.map (fun m => (m.name, m.className)) =
      (doc.schemas.getD []).map fun p => (p.1, types.names.modelName p.1) := by
  refine map_eq_of_mapM ?_ made
  rintro ⟨name, schema⟩ m made
  obtain ⟨resolved, _, made⟩ := bind_eq_ok_iff.1 made
  obtain ⟨_, _, made⟩ := bind_eq_ok_iff.1 made
  cases made
  rfl

end Model

/-! ## References and classes -/

/-- Without escapes at its end, a reference to a named schema is spelled as the schema. -/
theorem Document.refName_eq_iff {doc : Document} {reference name : String}
    (addresses : doc.Addresses reference name) :
    Naming.refName reference = name ↔ ¬ Json.HasEscape (Naming.refName reference).toList := by
  rw [← Json.unescapeSegment_eq_self_iff, Document.unescape_refName addresses, String.toList_inj,
    eq_comm]

/-- A reference that leads to a named schema gives a property and a parent the class of what follows
its last slash.  With its escapes replaced that is the name of the schema, from which the model of
the schema has its class.  So without escapes the classes are the same; with escapes the names
differ, and with them the classes unless models have an ending. -/
theorem references_name_classes (doc : Document) (types : TypeMap) (reference name : String)
    (listing : List (String × Json)) (schema : Json) (listed : doc.schemas = some listing)
    (found : Assoc.get? name listing = some schema) (addresses : doc.Addresses reference name) :
    doc.target reference = .ok schema ∧
      Json.unescapeSegment (Naming.refName reference).toList = name.toList ∧
      (∀ field v, v.getStr? "$ref" = some reference →
        (types.property field v).1.own.resolvedType =
          types.names.modelName (Naming.refName reference)) ∧
      (∀ heir v m, Model.ofSchema doc types heir v = .ok m →
        Model.parentReference? v = some reference →
        m.parent = some (types.names.modelName (Naming.refName reference))) ∧
      (∀ models, Model.ofDocument doc types = .ok models →
        (∃ m ∈ models, m.name = name) ∧
          ∀ m ∈ models, m.name = name → m.className = types.names.modelName name) ∧
      (¬ Json.HasEscape (Naming.refName reference).toList →
        types.names.modelName (Naming.refName reference) = types.names.modelName name) ∧
      (Json.HasEscape (Naming.refName reference).toList → types.names.modelSuffix = none →
        types.names.modelName (Naming.refName reference) ≠ types.names.modelName name) := by
  refine ⟨Document.target_of_addresses listed found addresses, Document.unescape_refName addresses,
    fun field v refers => types.property_of_reference field refers, ?_, ?_, ?_, ?_⟩
  · intro heir v m made first
    rw [Model.parent_of_ofSchema made, first, Option.map_some]
  · intro models made
    have pairs := Model.names_of_ofDocument made
    rw [listed, Option.getD_some] at pairs
    constructor
    · have member : (name, types.names.modelName name) ∈
          listing.map fun p => (p.1, types.names.modelName p.1) :=
        List.mem_map.2 ⟨(name, schema), Assoc.mem_of_get? found, rfl⟩
      rw [← pairs] at member
      obtain ⟨m, isModel, same⟩ := List.mem_map.1 member
      exact ⟨m, isModel, congrArg Prod.fst same⟩
    · rintro m isModel rfl
      have member : (m.name, m.className) ∈ models.map fun m => (m.name, m.className) :=
        List.mem_map_of_mem isModel
      rw [pairs] at member
      obtain ⟨p, _, same⟩ := List.mem_map.1 member
      obtain ⟨named, classed⟩ := Prod.mk.inj same
      rw [← classed, named]
  · intro plain
    rw [(Document.refName_eq_iff addresses).2 plain]
  · intro escaped noEnding same
    simp only [NamePolicy.modelName, noEnding] at same
    exact (Document.refName_eq_iff addresses).1 same escaped

/-- A document with two schemas, one of which is made from the other. -/
def inheriting (base reference : String) : Document :=
  ⟨.obj [("swagger", .str "2.0"), ("definitions", .obj [(base, .obj []),
    ("Heir", .obj [("allOf", .arr [.obj [("$ref", .str reference)]])])])]⟩

/-- The types of a document without endings of names. -/
def plainTypes : TypeMap := ⟨.java8LocalDateTime, .plain⟩

theorem references_name_classes_pet :
    (inheriting "Pet" "#/definitions/Pet").Addresses "#/definitions/Pet" "Pet" ∧
      ¬ Json.HasEscape (Naming.refName "#/definitions/Pet").toList ∧
      (plainTypes.property "pet" (.obj [("$ref", .str "#/definitions/Pet")])).1.own.resolvedType =
        plainTypes.names.modelName "Pet" := by
  have addresses : (inheriting "Pet" "#/definitions/Pet").Addresses "#/definitions/Pet" "Pet" :=
    ⟨"/definitions/Pet", rfl, rfl⟩
  have plain : ¬ Json.HasEscape (Naming.refName "#/definitions/Pet").toList := by decide
  obtain ⟨_, _, typed, _, _, same, _⟩ := references_name_classes
    (inheriting "Pet" "#/definitions/Pet") plainTypes "#/definitions/Pet" "Pet" _ _ rfl rfl addresses
  exact ⟨addresses, plain, (typed "pet" _ rfl).trans (same plain)⟩

/-- A schema whose name holds a slash has one class, and a reference to it names another. -/
theorem escaped_reference_misnamed :
    (inheriting "a/b" "#/definitions/a~1b").Addresses "#/definitions/a~1b" "a/b" ∧
      (plainTypes.property "pet" (.obj [("$ref", .str "#/definitions/a~1b")])).1.own.resolvedType =
        "a~1b" ∧
      (Model.ofDocument (inheriting "a/b" "#/definitions/a~1b") plainTypes).map
          (·.map fun m => (m.className, m.parent)) =
        .ok [("a/b", none), ("Heir", some "a~1b")] := by
  have refers : (Json.obj [("$ref", .str "#/definitions/a~1b")]).getStr? "$ref" =
      some "#/definitions/a~1b" := rfl
  exact ⟨⟨"/definitions/a~1b", rfl, rfl⟩, plainTypes.property_of_reference "pet" refers, rfl⟩

end SchemaBinder
