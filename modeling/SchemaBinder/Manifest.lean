import SchemaBinder.Scope
/-!
# Type manifests

A manifest lists the classes that generated code can refer to, and their kinds.  A package scan
finds the listed classes whose namespace is in a scope, in the order of the manifest, each as
often as it is listed.
-/

namespace SchemaBinder

/-- The kind of a class. -/
inductive TypeKind where
  | class_
  | abstract_
  | interface
  | enum
  | annotation_
  | record
deriving DecidableEq, Repr

namespace TypeKind

/-- The kinds and their names. -/
def names : List (String × TypeKind) :=
  [("class", class_), ("abstract", abstract_), ("interface", interface), ("enum", enum),
    ("annotation", annotation_), ("record", record)]

/-- The name of a kind. -/
def name : TypeKind → String
  | class_ => "class"
  | abstract_ => "abstract"
  | interface => "interface"
  | enum => "enum"
  | annotation_ => "annotation"
  | record => "record"

end TypeKind

/-- A class that a manifest lists. -/
structure KnownType where
  /-- The qualified name. -/
  qualifiedName : String
  /-- The kind. -/
  kind : TypeKind
deriving DecidableEq, Repr

namespace KnownType

/-- The name without the namespace. -/
def simpleName (t : KnownType) : String := Naming.simpleName t.qualifiedName

/-- The namespace. -/
def space (t : KnownType) : String := Naming.namespaceOf t.qualifiedName

end KnownType

/-- The classes that generated code can refer to. -/
structure Manifest where
  /-- The classes in listed order. -/
  types : List KnownType
deriving DecidableEq, Repr

namespace Manifest

/-- The manifest that lists nothing. -/
def empty : Manifest := ⟨[]⟩

instance : Inhabited Manifest := ⟨empty⟩

/-- The manifest of plain classes. -/
def ofNames (names : List String) : Manifest :=
  ⟨names.map fun n => ⟨n, .class_⟩⟩

/-- One manifest followed by another. -/
def append (m n : Manifest) : Manifest := ⟨m.types ++ n.types⟩

/-- The classes in a scope. -/
def discover (m : Manifest) (scope : Scope) : List KnownType :=
  m.types.filter fun t => scope.covers t.space

end Manifest

end SchemaBinder
