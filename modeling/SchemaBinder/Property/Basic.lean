import SchemaBinder.Extension
/-!
# Properties

A property is a typed field of a model, or the type of a response or a parameter.  A container
property has an element, which is a property again, so a property is a chain of *layers* from
the outermost container to the innermost element.

A layer holds two types: the *base* type, which is an alias, a model name or the type of the
innermost element, and the *resolved* type, which is written into generated code.
-/

namespace SchemaBinder

/-- The kinds of containers. -/
inductive ContainerKind where
  | list
  | set
  | map
deriving DecidableEq, Repr

namespace ContainerKind

/-- The name of a kind. -/
def name : ContainerKind → String
  | list => "list"
  | set => "set"
  | map => "map"

/-- The kinds by their names. -/
def cases : List (String × ContainerKind) := [("list", list), ("set", set), ("map", map)]

/-- The type of a container of elements of a type. -/
def wrap (kind : ContainerKind) (element : String) : String :=
  match kind with
  | list => "List<" ++ element ++ ">"
  | set => "Set<" ++ element ++ ">"
  | map => "Map<String, " ++ element ++ ">"

/-- The class of a container. -/
def className : ContainerKind → String
  | list => "java.util.List"
  | set => "java.util.Set"
  | map => "java.util.Map"

end ContainerKind

/-- One level of a property. -/
structure Layer where
  /-- The name of the field. -/
  name : String
  /-- The type that the schema declares. -/
  declaredType : String
  /-- The format that the schema declares. -/
  format : Option String
  /-- The type before aliases are bound. -/
  baseType : String
  /-- The type in generated code. -/
  resolvedType : String
  /-- Does the type have arguments? -/
  isGeneric : Bool
  /-- The arguments as the directive gives them. -/
  typeArguments : List String
  /-- The kind of the container, if it is one. -/
  container : Option ContainerKind
  /-- Must the field be present? -/
  required : Bool
  /-- The vendor extensions of the schema. -/
  extensions : Extensions

/-- The layer of a plain type, which is both its types. -/
def Layer.plain (name declaredType type : String) : Layer where
  name := name
  declaredType := declaredType
  format := none
  baseType := type
  resolvedType := type
  isGeneric := false
  typeArguments := []
  container := none
  required := false
  extensions := .empty

/-- A property, from its outermost layer inwards. -/
inductive Property where
  /-- A property without an element. -/
  | leaf (own : Layer)
  /-- A property with an element. -/
  | nest (own : Layer) (element : Property)

namespace Property

/-- The outermost layer. -/
def own : Property → Layer
  | leaf own => own
  | nest own _ => own

/-- The element. -/
def element? : Property → Option Property
  | leaf _ => none
  | nest _ element => some element

/-- The property with a change to its outermost layer. -/
def mapOwn (f : Layer → Layer) : Property → Property
  | leaf own => leaf (f own)
  | nest own element => nest (f own) element

/-- Is the property a container? -/
def isContainer (p : Property) : Bool := p.own.container.isSome

/-- The type of the property in generated code. -/
def resolvedType (p : Property) : String := p.own.resolvedType

/-- The type of the property before aliases are bound. -/
def baseType (p : Property) : String := p.own.baseType

/-- The type of the innermost element in generated code. -/
def elementType : Property → String
  | leaf own => own.resolvedType
  | nest _ element => element.elementType

end Property

end SchemaBinder
