import SchemaBinder.Proofs.Schema
/-!
# What the type of a schema needs to import

A schema stands for a number of containers around an innermost element (`TypeMap.Nests`).  Its type
is written as the type of the element inside the types of the containers, and the imports are listed
beside it: first the class of the element, if it is one of a library, and then the classes of the
containers from the inside out.

Both are made by one recursion, so they are compared with the nesting by induction on it
(`TypeMap.WrittenAs.container`).
-/

namespace SchemaBinder

/-- The type of a container starts with the simple name of its class, which is one of `java.util`. -/
theorem ContainerKind.exists_simpleName (kind : ContainerKind) :
    ∃ simple, kind.className = "java.util." ++ simple ∧
      ∀ element, ∃ front, kind.wrap element = simple ++ "<" ++ front ++ element ++ ">" := by
  cases kind with
  | list => exact ⟨"List", rfl, fun element => ⟨"", by simp [wrap]⟩⟩
  | set => exact ⟨"Set", rfl, fun element => ⟨"", by simp [wrap]⟩⟩
  | map => exact ⟨"Map", rfl, fun element => ⟨"String, ", by simp [wrap]⟩⟩

namespace TypeMap

variable {types : TypeMap} {schema innermost values : Json} {kinds : List ContainerKind}
  {name : String}

/-! ## Nested schemas -/

/-- A schema stands for containers, from the outermost inwards, around an innermost element. -/
inductive Nests : Json → List ContainerKind → Json → Prop where
  | array {schema innermost : Json} {kinds : List ContainerKind} :
      schema.getStr? "$ref" = none → declaredType schema = "array" →
      Nests ((schema.get? "items").getD .null) kinds innermost →
      Nests schema
        ((if schema.getBool? "uniqueItems" = some true then .set else .list) :: kinds) innermost
  | map {schema values innermost : Json} {kinds : List ContainerKind} :
      schema.getStr? "$ref" = none → declaredType schema = "object" →
      schema.get? "additionalProperties" = some values → values.isObj = true →
      Nests values kinds innermost → Nests schema (.map :: kinds) innermost
  | reference {schema : Json} {reference : String} : schema.getStr? "$ref" = some reference →
      Nests schema [] schema
  | plain {schema : Json} : schema.getStr? "$ref" = none → declaredType schema ≠ "array" →
      (declaredType schema = "object" →
        ∀ values, schema.get? "additionalProperties" = some values → values.isObj = false) →
      Nests schema [] schema

theorem element?_of_array (noReference : schema.getStr? "$ref" = none)
    (array : declaredType schema = "array") :
    element? schema = some (if schema.getBool? "uniqueItems" = some true then .set else .list,
      (schema.get? "items").getD .null) := by
  simp [element?, noReference, array]

theorem element?_of_map (noReference : schema.getStr? "$ref" = none)
    (object : declaredType schema = "object")
    (found : schema.get? "additionalProperties" = some values) (isObj : values.isObj = true) :
    element? schema = some (.map, values) := by
  simp [element?, noReference, object, mapElement?, found, isObj]

theorem element?_of_reference {reference : String}
    (refers : schema.getStr? "$ref" = some reference) : element? schema = none := by
  simp [element?, refers]

theorem element?_of_plain (notArray : declaredType schema ≠ "array")
    (noValues : declaredType schema = "object" →
      ∀ values, schema.get? "additionalProperties" = some values → values.isObj = false) :
    element? schema = none := by
  have noMap : declaredType schema = "object" → mapElement? schema = none := fun object =>
    Option.filter_eq_none_iff.2 fun values found => by simp [noValues object values found]
  rw [element?, if_neg notArray]
  split
  · rfl
  · split
    · next object => rw [noMap object, Option.map_none]
    · rfl

/-- Every schema stands for containers around an innermost element. -/
theorem exists_nests (schema : Json) : ∃ kinds innermost, Nests schema kinds innermost := by
  cases refers : schema.getStr? "$ref" with
  | some reference => exact ⟨[], schema, .reference refers⟩
  | none =>
    by_cases array : declaredType schema = "array"
    · have smaller := sizeOf_element? (element?_of_array refers array)
      obtain ⟨kinds, innermost, nests⟩ := exists_nests ((schema.get? "items").getD .null)
      exact ⟨_, innermost, .array refers array nests⟩
    · by_cases isMap : declaredType schema = "object" ∧
          ∃ values, schema.get? "additionalProperties" = some values ∧ values.isObj = true
      · obtain ⟨object, values, found, isObj⟩ := isMap
        have smaller := sizeOf_element? (element?_of_map refers object found isObj)
        obtain ⟨kinds, innermost, nests⟩ := exists_nests values
        exact ⟨_, innermost, .map refers object found isObj nests⟩
      · refine ⟨[], schema, .plain refers array fun object values found => ?_⟩
        exact eq_false_of_ne_true fun isObj => isMap ⟨object, values, found, isObj⟩
termination_by schema

/-! ## The innermost element -/

/-- A declared type and format stand for a class of a library. -/
inductive LibraryClass (dates : DateLibrary) (declared : String) (format : Option String) :
    String → Prop where
  | date : declared = "string" → format = some "date" →
      LibraryClass dates declared format dates.dateType
  | dateTime : declared = "string" → format = some "date-time" →
      LibraryClass dates declared format dates.dateTimeType
  | uuid : declared = "string" → format = some "uuid" →
      LibraryClass dates declared format "java.util.UUID"
  | number : declared = "number" → format ≠ some "float" → format ≠ some "double" →
      LibraryClass dates declared format "java.math.BigDecimal"
  | file : declared = "file" → LibraryClass dates declared format "java.io.File"

/-- The types that need no import. -/
def builtIn : List String :=
  ["byte[]", "String", "Long", "Integer", "Float", "Double", "Boolean", "Object"]

theorem primitive_cases (types : TypeMap) (declared : String) (format : Option String) :
    (∃ q, LibraryClass types.dates declared format q ∧
        types.primitive declared format = (Naming.simpleName q, [q])) ∨
      (∀ q, ¬LibraryClass types.dates declared format q) ∧
        ∃ type ∈ builtIn, types.primitive declared format = (type, []) := by
  unfold primitive
  split
  · exact .inl ⟨_, .date rfl rfl, rfl⟩
  · exact .inl ⟨_, .dateTime rfl rfl, rfl⟩
  · exact .inl ⟨_, .uuid rfl rfl, rfl⟩
  case h_11 => exact .inl ⟨_, .number rfl ‹_› ‹_›, rfl⟩
  case h_13 => exact .inl ⟨_, .file rfl, rfl⟩
  all_goals
    refine .inr ⟨fun q library => ?_, _, by decide, rfl⟩
    cases library <;> simp_all

/-- What an innermost element needs to import for its type: nothing if it is a reference or its type
is built in, and otherwise the class of a library, whose simple name the type is. -/
inductive ElementImports (types : TypeMap) (innermost : Json) : String → List String → Prop where
  | reference {reference : String} : innermost.getStr? "$ref" = some reference →
      ElementImports types innermost (types.names.modelName (Naming.refName reference)) []
  | library {q : String} : innermost.getStr? "$ref" = none →
      LibraryClass types.dates (declaredType innermost) (innermost.getStr? "format") q →
      ElementImports types innermost (Naming.simpleName q) [q]
  | builtIn {type : String} : innermost.getStr? "$ref" = none →
      (∀ q, ¬LibraryClass types.dates (declaredType innermost) (innermost.getStr? "format") q) →
      type ∈ builtIn → ElementImports types innermost type []

theorem elementImports_leafLayer (types : TypeMap) (name : String) (innermost : Json) :
    ElementImports types innermost (types.leafLayer name innermost).1.resolvedType
      (types.leafLayer name innermost).2 := by
  rw [leafLayer]
  cases refers : innermost.getStr? "$ref" with
  | some reference => exact .reference refers
  | none =>
    show ElementImports types innermost (types.primitive _ _).1 (types.primitive _ _).2
    obtain ⟨q, library, same⟩ | ⟨noLibrary, type, known, same⟩ :=
      types.primitive_cases (declaredType innermost) (innermost.getStr? "format")
    · rw [same]
      exact .library refers library
    · rw [same]
      exact .builtIn refers noLibrary known

/-! ## The property -/

/-- The type of a property is that of its element inside containers, and its imports are those of the
element, followed by the classes of the containers from the inside out. -/
structure WrittenAs (types : TypeMap) (kinds : List ContainerKind) (innermost : Json) (p : Property)
    (imports : List String) : Prop where
  type : p.resolvedType = kinds.foldr ContainerKind.wrap p.elementType
  imports : ∃ own, ElementImports types innermost p.elementType own ∧
    imports = own ++ kinds.reverse.map ContainerKind.className

theorem writtenAs_of_leaf (types : TypeMap) (name : String) {schema : Json}
    (leaf : element? schema = none) :
    WrittenAs types [] schema (types.property name schema).1 (types.property name schema).2 := by
  rw [types.property_of_leaf name leaf]
  exact ⟨rfl, _, types.elementImports_leafLayer name schema, (List.append_nil _).symm⟩

theorem WrittenAs.container {e : Json} {kind : ContainerKind}
    (element : WrittenAs types kinds innermost (types.property name e).1 (types.property name e).2)
    (container : element? schema = some (kind, e)) :
    WrittenAs types (kind :: kinds) innermost (types.property name schema).1
      (types.property name schema).2 := by
  obtain ⟨own, ofElement, imports⟩ := element.imports
  rw [types.property_of_element name container]
  refine ⟨congrArg kind.wrap element.type, own, ofElement, ?_⟩
  rw [imports, List.reverse_cons, List.map_append, List.append_assoc]
  rfl

/-- The property of a schema has the type of its innermost element inside the containers that the
schema stands for.  What it needs to import is the class of the element, if this is one of a library,
and then the class of each container from the inside out, whose simple name its type starts with. -/
theorem property_imports_needed (types : TypeMap) (name : String) (schema : Json) :
    (∃ kinds innermost, Nests schema kinds innermost) ∧
      (∀ kinds innermost, Nests schema kinds innermost →
        WrittenAs types kinds innermost (types.property name schema).1
          (types.property name schema).2) ∧
      ∀ kind : ContainerKind, ∃ simple, kind.className = "java.util." ++ simple ∧
        ∀ element, ∃ front, kind.wrap element = simple ++ "<" ++ front ++ element ++ ">" := by
  refine ⟨exists_nests schema, fun kinds innermost nests => ?_, ContainerKind.exists_simpleName⟩
  induction nests with
  | array noReference array _ ih => exact ih.container (element?_of_array noReference array)
  | map noReference object found isObj _ ih =>
    exact ih.container (element?_of_map noReference object found isObj)
  | reference refers => exact writtenAs_of_leaf types name (element?_of_reference refers)
  | plain _ notArray noValues =>
    exact writtenAs_of_leaf types name (element?_of_plain notArray noValues)

/-- A time. -/
def timeSchema : Json := .obj [("type", .str "string"), ("format", .str "date-time")]

/-- A set of times. -/
def timeSetSchema : Json :=
  .obj [("type", .str "array"), ("uniqueItems", .bool true), ("items", timeSchema)]

/-- The class of a time, and then those of the set and the map around it. -/
theorem property_imports_needed_times :
    let types : TypeMap := ⟨.joda, .plain⟩
    let schema : Json := .obj [("additionalProperties", timeSetSchema)]
    Nests schema [.map, .set] timeSchema ∧
      (types.property "times" schema).1.resolvedType = "Map<String, Set<DateTime>>" ∧
      (types.property "times" schema).2 =
        ["org.joda.time.DateTime", "java.util.Set", "java.util.Map"] ∧
      WrittenAs types [.map, .set] timeSchema (types.property "times" schema).1
        (types.property "times" schema).2 := by
  intro types schema
  have nests : Nests schema [.map, .set] timeSchema :=
    .map rfl rfl rfl rfl (.array rfl rfl (.plain rfl (by decide) (fun object => nomatch object)))
  have outer : element? schema = some (.map, timeSetSchema) := rfl
  have inner : element? timeSetSchema = some (.set, timeSchema) := rfl
  refine ⟨nests, ?_, ?_, (property_imports_needed types "times" schema).2.1 _ _ nests⟩ <;>
    rw [types.property_of_element "times" outer, types.property_of_element "times" inner,
      types.property_of_leaf "times" rfl] <;> decide

end TypeMap

end SchemaBinder
