import SchemaBinder.Binding
import SchemaBinder.Model.Basic
import SchemaBinder.Property.Binding
/-!
# Binding the aliases of models

A model with a parent alias takes the class of that alias as its parent, with the type arguments
of the parent if it has any; the alias must be registered.  Then its fields are bound.  The names
to import are added to the ones it has.
-/

namespace SchemaBinder

namespace Model

/-- The parent of a model that names one, and the names to import for it. -/
def boundParent (m : Model) (registry : TypeRegistry) :
    Except Fault (Option String × List String) :=
  match m.extensions.parentAlias m.name with
  | .error e => .error e
  | .ok none => .ok (none, [])
  | .ok (some name) => do
    let d ← registry.require name m.name
    let arguments ← m.extensions.typeArguments Extensions.parentArgumentsKey m.name
    let (type, imports) := registry.instantiate d.simpleName (arguments.getD [])
    return (some type, d.qualifiedName :: imports)

/-- The bound fields of the model of a name, and the names to import for them. -/
def boundFields (registry : TypeRegistry) (modelName : String) :
    List Property → Except Fault (List Property × List String)
  | [] => .ok ([], [])
  | p :: rest => do
    let (p, imports) ← p.bindAliases registry (modelName ++ "." ++ p.own.name)
    let (rest, more) ← boundFields registry modelName rest
    return (p :: rest, imports ++ more)

/-- Binds the aliases of a model.  Its fields are bound apart from it, and it is changed when
nothing can fail any more. -/
def bindAliases (registry : TypeRegistry) : Change Model Unit := do
  let m ← get
  let (parent, parentImports) ← ExceptT.mk (pure (m.boundParent registry))
  let (properties, imports) ← ExceptT.mk (pure (boundFields registry m.name m.properties))
  if let some type := parent then modify fun m => { m with parent := some type }
  modify fun m => { m with properties }
  modify fun m => { m with imports := m.imports.extend (parentImports ++ imports) }

/-- Binds the aliases of models one after the other. -/
def bindAll (registry : TypeRegistry) (models : List Model) : Progress Model :=
  .ofEach (bindAliases registry) models

end Model

end SchemaBinder
