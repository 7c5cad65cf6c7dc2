import SchemaBinder.Fault
import SchemaBinder.FileTree.Access
import SchemaBinder.Manifest
import SchemaBinder.Setting.Reader
import SchemaBinder.Yaml.Reader
/-!
# Type manifests as files

A manifest is a table in YAML with a list `types`.  An entry of the list is a qualified name, or
a table with the name and the kind of a class.
-/

namespace SchemaBinder

namespace KnownType

/-- The fields of an entry in its long form. -/
def fieldNames : List String := ["name", "kind"]

/-- The entry in its long form with one field read. -/
def readField (entry : Option String × TypeKind) (key : String) (v : Setting) :
    Setting.Reading (Option String × TypeKind) :=
  match key with
  | "name" => do return (some (← v.readTextSettled), entry.2)
  | "kind" => do return (entry.1, ← v.readCase TypeKind.names)
  | _ => .ok entry

/-- The class that an entry lists.  An entry must have a known type. -/
def ofSetting (v : Setting) : Setting.Reading KnownType := do
  match v.settle with
  | .text name => return ⟨name, .class_⟩
  | .table fields =>
    if v.toJson?.isNone then throw .wrongShape
    else
      match ← Setting.readInto fieldNames readField (none, .class_) fields with
      | (some name, kind) => return ⟨name, kind⟩
      | (none, _) => throw .wrongShape
  | _ => throw .wrongShape

end KnownType

namespace Manifest

/-- The manifest with one field read. -/
def readField (m : Manifest) (key : String) (v : Setting) : Setting.Reading Manifest :=
  match key with
  | "types" => do return { m with types := ← (← v.readList).mapM KnownType.ofSetting }
  | _ => .ok m

/-- The manifest of a setting. -/
def ofSetting (v : Setting) : Setting.Reading Manifest := do
  Setting.readInto ["types"] readField empty (← v.readTable)

/-- The manifest that a text writes. -/
def parse (text : String) : Except Fault Manifest :=
  match (Yaml.read? text).map ofSetting with
  | some (.ok m) => .ok m
  | _ => .error .yaml

variable {m : Type → Type} [Monad m] [FileAccess m]

/-- Loads a manifest from a file. -/
def load (path : String) : ExceptT Fault m Manifest := do
  match ← FileAccess.readText (m := m) path with
  | .error e => throw (.settings (.unreadableManifest path e))
  | .ok text =>
    match parse text with
    | .ok manifest => return manifest
    | .error _ => throw (.settings (.malformedManifest path))

/-- Loads several manifests into one. -/
def loadAll : List String → ExceptT Fault m Manifest
  | [] => return empty
  | path :: rest => do
    let first ← load path
    return first.append (← loadAll rest)

end Manifest

end SchemaBinder
