import SchemaBinder.Property.Basic
import SchemaBinder.TypeRegistry
/-!
# Binding the aliases of a property

Binding replaces the aliases of a property by the classes of a registry, from the innermost
layer outwards.

A container takes its types from its bound element.  Then a layer with an alias of its own takes
the class of that alias, which must be registered; a layer that is no container takes the class
of its base type if that is registered.  Last, type arguments are written behind the class.
They may not stand on a container.

The result comes with the names that the classes make necessary to import, in the order in which
they were looked up, with repetitions.
-/

namespace SchemaBinder

/-- The text before the first angle bracket, without blanks around it. -/
def rawType (type : String) : String :=
  String.ofList (Text.trimChars (type.toList.takeWhile (· ≠ '<')))

namespace Layer

/-- The layer with the class of its alias, or of its base type. -/
def bindName (own : Layer) (registry : TypeRegistry) (entity : String) :
    Except Fault (Layer × List String) :=
  match own.extensions.symbolicType own.declaredType own.format entity with
  | .error e => .error e
  | .ok (some name) =>
    match registry.require name entity with
    | .error e => .error e
    | .ok d => .ok ({ own with resolvedType := d.simpleName, baseType := name }, [d.qualifiedName])
  | .ok none =>
    if own.container.isSome then .ok (own, [])
    else
      match registry.get? own.baseType with
      | some d => .ok ({ own with resolvedType := d.simpleName }, [d.qualifiedName])
      | none => .ok (own, [])

/-- The class that type arguments are written behind, and the names to import for it. -/
def genericBase (own : Layer) (registry : TypeRegistry) : String × List String :=
  match registry.get? own.baseType with
  | some d => (d.simpleName, [d.qualifiedName])
  | none => (rawType own.resolvedType, [])

/-- The layer with its type arguments. -/
def bindArguments (own : Layer) (registry : TypeRegistry) (entity : String) :
    Except Fault (Layer × List String) :=
  match own.extensions.typeArguments Extensions.argumentsKey entity with
  | .error e => .error e
  | .ok none => .ok (own, [])
  | .ok (some arguments) =>
    if own.container.isSome then .error (.schema (.containerArguments entity))
    else
      let (base, baseImports) := own.genericBase registry
      let (type, imports) := registry.instantiate base arguments
      .ok ({ own with
        isGeneric := true, typeArguments := arguments, baseType := type, resolvedType := type },
        baseImports ++ imports)

/-- The layer with its aliases bound. -/
def bindAliases (own : Layer) (registry : TypeRegistry) (entity : String) :
    Except Fault (Layer × List String) := do
  let (own, imports) ← own.bindName registry entity
  let (own, more) ← own.bindArguments registry entity
  return (own, imports ++ more)

/-- The layer around an element, with the types that follow from it. -/
def around (own element : Layer) : Layer :=
  match own.container with
  | some kind =>
    { own with baseType := element.baseType, resolvedType := kind.wrap element.resolvedType }
  | none => own

end Layer

namespace Property

/-- The property with its aliases bound. -/
def bindAliases (registry : TypeRegistry) (entity : String) :
    Property → Except Fault (Property × List String)
  | leaf own => do
    let (own, imports) ← own.bindAliases registry entity
    return (leaf own, imports)
  | nest own element => do
    let (element, imports) ← element.bindAliases registry (entity ++ "[]")
    let (own, more) ← (own.around element.own).bindAliases registry entity
    return (nest own element, imports ++ more)

end Property

end SchemaBinder
