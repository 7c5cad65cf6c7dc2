import SchemaBinder.Json.Record
import SchemaBinder.Property.Basic
/-!
# Properties in JSON

The JSON form of a property.  Its fields are always written, an absent value as `null`.
-/

namespace SchemaBinder

namespace Property

/-- The fields of a property in writing order. -/
def fieldNames : List String :=
  ["name", "declaredType", "format", "baseType", "resolvedType", "isGeneric", "templateArguments",
    "container", "items", "required", "vendorExtensions"]

/-- The object of a layer around the value of its element. -/
def layerToJson (own : Layer) (items : Json) : Json :=
  .obj [("name", .str own.name), ("declaredType", .str own.declaredType),
    ("format", .ofStr? own.format), ("baseType", .str own.baseType),
    ("resolvedType", .str own.resolvedType), ("isGeneric", .bool own.isGeneric),
    ("templateArguments", .ofStrs own.typeArguments),
    ("container", .ofStr? (own.container.map (·.name))), ("items", items),
    ("required", .bool own.required), ("vendorExtensions", own.extensions.toJson)]

/-- A property in JSON. -/
def toJson : Property → Json
  | leaf own => layerToJson own .null
  | nest own element => layerToJson own element.toJson

/-- A property that may be absent in JSON. -/
def toJson? : Option Property → Json
  | some p => p.toJson
  | none => .null

/-- Vendor extensions from JSON. -/
def extensions? (v : Json) : Option Extensions := v.asObj?.map .ofList

/-- The outermost layer from the fields of a property. -/
def layer? (fields : List (String × Json)) : Option Layer := do
  return {
    name := ← Json.field? fields "name" Json.asStr?
    declaredType := ← Json.field? fields "declaredType" Json.asStr?
    format := ← Json.optional? fields "format" Json.asStr?
    baseType := ← Json.field? fields "baseType" Json.asStr?
    resolvedType := ← Json.field? fields "resolvedType" Json.asStr?
    isGeneric := ← Json.field? fields "isGeneric" Json.asBool?
    typeArguments := ← Json.field? fields "templateArguments" Json.strs?
    container := ← Json.optional? fields "container" (Json.case? ContainerKind.cases)
    required := ← Json.field? fields "required" Json.asBool?
    extensions := ← Json.field? fields "vendorExtensions" extensions? }

theorem sizeOf_record? {v w : Json} {fields : List (String × Json)} {key : String}
    {names : List String} (h : v.record? names = some fields) (g : Assoc.get? key fields = some w) :
    sizeOf w < sizeOf v := by
  cases v with
  | obj fs =>
    simp only [Json.record?, Option.some.injEq] at h
    subst h
    have := Json.sizeOf_assoc_get? g
    simp only [Json.obj.sizeOf_spec]
    omega
  | arr items =>
    simp only [Json.record?] at h
    split at h
    · obtain rfl := Option.some.inj h
      have : sizeOf w < sizeOf items := by
        clear h
        rename_i hl
        clear hl
        induction names generalizing items with
        | nil => simp [Assoc.get?] at g
        | cons n ns ih =>
          cases items with
          | nil => simp [Assoc.get?] at g
          | cons x xs =>
            simp only [List.zip_cons_cons, Assoc.get?] at g
            simp only [List.cons.sizeOf_spec]
            split at g
            · obtain rfl := Option.some.inj g
              omega
            · have := ih xs g
              omega
      simp only [Json.arr.sizeOf_spec]
      omega
    · simp at h
  | _ => simp [Json.record?] at h

/-- A property from JSON. -/
def ofJson? (v : Json) : Option Property :=
  match h : v.record? fieldNames with
  | none => none
  | some fields =>
    match layer? fields with
    | none => none
    | some own =>
      match g : Assoc.get? "items" fields with
      | none => some (leaf own)
      | some .null => some (leaf own)
      | some items =>
        have : sizeOf items < sizeOf v := sizeOf_record? h g
        (ofJson? items).map (nest own)
termination_by v

/-- A property that may be absent from JSON. -/
def optional? (v : Option Json) : Option (Option Property) :=
  match v with
  | none => some none
  | some .null => some none
  | some w => (ofJson? w).map some

end Property

end SchemaBinder
