import SchemaBinder.Fault
import SchemaBinder.Naming
import SchemaBinder.Assoc
/-!
# The registry of types

A registry maps an *alias*, the name that a schema uses for a type, to the class that stands for
it in generated code.  Registering an alias again replaces its class.

`instantiate` writes a class with its type arguments, and says which names the result needs.
-/

namespace SchemaBinder

/-- An alias and the class it stands for. -/
structure TypeDescriptor where
  /-- The name that schemas use. -/
  alias_ : String
  /-- The qualified name of the class. -/
  qualifiedName : String
deriving DecidableEq, Repr

namespace TypeDescriptor

/-- The name of the class without its namespace. -/
def simpleName (d : TypeDescriptor) : String := Naming.simpleName d.qualifiedName

end TypeDescriptor

/-- The classes that aliases stand for. -/
structure TypeRegistry where
  /-- The descriptors by their aliases. -/
  table : SortedTable TypeDescriptor

namespace TypeRegistry

/-- The registry without aliases. -/
def empty : TypeRegistry := ⟨.empty⟩

instance : Inhabited TypeRegistry := ⟨empty⟩

/-- The descriptor of an alias. -/
def get? (registry : TypeRegistry) (name : String) : Option TypeDescriptor :=
  registry.table.get? name

/-- Registers a descriptor.  Also returns the one that it replaced. -/
def insert (registry : TypeRegistry) (d : TypeDescriptor) : Option TypeDescriptor × TypeRegistry :=
  (registry.get? d.alias_, ⟨registry.table.insert d.alias_ d⟩)

/-- The registry that results from registering descriptors one after the other. -/
def extend (registry : TypeRegistry) (ds : List TypeDescriptor) : TypeRegistry :=
  ds.foldl (fun r d => (r.insert d).2) registry

/-- The registry of some descriptors, where later ones win. -/
def ofList (ds : List TypeDescriptor) : TypeRegistry := empty.extend ds

theorem get?_insert (registry : TypeRegistry) (d : TypeDescriptor) (name : String) :
    (registry.insert d).2.get? name = if name = d.alias_ then some d else registry.get? name :=
  registry.table.get?_insert d.alias_ name d

theorem extend_append (registry : TypeRegistry) (ds es : List TypeDescriptor) :
    registry.extend (ds ++ es) = (registry.extend ds).extend es :=
  List.foldl_append

/-- The last of the registered descriptors of an alias is the one that is found; what was there
before is found if there is none. -/
theorem get?_extend (registry : TypeRegistry) (ds : List TypeDescriptor) (name : String) :
    (registry.extend ds).get? name =
      ((ds.filter (·.alias_ = name)).getLast?).or (registry.get? name) := by
  induction ds generalizing registry with
  | nil => rfl
  | cons d rest ih =>
    show ((registry.insert d).2.extend rest).get? name = _
    rw [ih, get?_insert]
    by_cases same : d.alias_ = name
    · rw [List.filter_cons_of_pos (by simpa using same), List.getLast?_cons, if_pos same.symm]
      cases (rest.filter (·.alias_ = name)).getLast? <;> rfl
    · rw [List.filter_cons_of_neg (by simpa using same), if_neg (Ne.symm same)]

/-- Is an alias registered? -/
def contains (registry : TypeRegistry) (name : String) : Bool :=
  (registry.get? name).isSome

/-- The number of aliases. -/
def size (registry : TypeRegistry) : Nat := registry.table.size

/-- Is nothing registered? -/
def isEmpty (registry : TypeRegistry) : Bool := registry.table.isEmpty

/-- The descriptors in ascending order of their aliases. -/
def descriptors (registry : TypeRegistry) : List TypeDescriptor :=
  registry.table.entries.map (·.2)

/-- The descriptor of an alias that must be registered. -/
def require (registry : TypeRegistry) (name entity : String) : Except Fault TypeDescriptor :=
  match registry.get? name with
  | some d => .ok d
  | none => .error (.unresolvedAlias name entity)

theorem require_eq_ok_iff {registry : TypeRegistry} {name entity : String} {d : TypeDescriptor} :
    registry.require name entity = .ok d ↔ registry.get? name = some d := by
  rw [require]
  cases registry.get? name <;> simp

/-- The name of a type in generated code, and the names that it makes necessary to import: the
class of a registered alias, or the name itself. -/
def substitute (registry : TypeRegistry) (name : String) : String × List String :=
  match registry.get? name with
  | some d => (d.simpleName, [d.qualifiedName])
  | none => (name, [])

/-- The type argument that is left open.  It is never looked up. -/
def wildcard : String := "?"

/-- The name of a type argument and the names that it makes necessary to import. -/
def substituteArgument (registry : TypeRegistry) (argument : String) : String × List String :=
  if argument = wildcard then (argument, []) else registry.substitute argument

/-- A type with its arguments, and the names that they make necessary to import.  Without
arguments it is the type itself. -/
def instantiate (registry : TypeRegistry) (base : String) (arguments : List String) :
    String × List String :=
  if arguments.isEmpty then (base, [])
  else
    let resolved := arguments.map registry.substituteArgument
    (base ++ "<" ++ ", ".intercalate (resolved.map (·.1)) ++ ">", resolved.flatMap (·.2))

end TypeRegistry

end SchemaBinder
