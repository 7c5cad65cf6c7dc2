import SchemaBinder.Binding
import SchemaBinder.Json.Reader
import SchemaBinder.Json.Search
import SchemaBinder.Operation.Basic
import SchemaBinder.Property.Binding
/-!
# Binding the aliases of operations

Binding an operation binds the types of its return value, its responses and its parameters, adds
the headers that carry its credentials to its parameters, and decides its group.

The alias of a body is looked for in the JSON text of the body: it is the first `x-type` inside
the first `schema`.  A body that is a container keeps its type and only records the alias.
-/

namespace SchemaBinder

/-! ## Parameters -/

namespace Parameter

/-- The parameter with the types that follow from its bound element, and the names to import. -/
def bindElement (p : Parameter) (registry : TypeRegistry) (entity : String) :
    Except Fault (Parameter × List String) :=
  match p.container, p.items with
  | some kind, some items => do
    let (items, imports) ← items.bindAliases registry (entity ++ "[]")
    return ({ p with
      items := some items
      baseType := items.baseType
      resolvedType := kind.wrap items.resolvedType }, imports)
  | _, _ => .ok (p, [])

/-- The parameter with the class of its alias, and the names to import. -/
def bindName (p : Parameter) (registry : TypeRegistry) (entity : String) :
    Except Fault (Parameter × List String) :=
  match p.extensions.symbolicType p.declaredType p.format entity with
  | .error e => .error e
  | .ok none => .ok (p, [])
  | .ok (some name) => do
    let d ← registry.require name entity
    return ({ p with resolvedType := d.simpleName, baseType := name }, [d.qualifiedName])

/-- The value of `x-type` in the schema of a body. -/
def bodyDirective? (fragment : Json) : Option Json :=
  (fragment.find? "schema").bind (Json.find? Extensions.typeKey)

/-- The alias that the JSON text of a body names. -/
def bodyAlias (entity text : String) : Except Fault (Option String) :=
  match Json.read? text with
  | none => .error (.schema (.malformedFragment entity))
  | some fragment =>
    match bodyDirective? fragment with
    | none => .ok none
    | some (.str s) => .ok (Text.nonBlank? s)
    | some v => .error (.schema (.aliasNotText entity v))

/-- The body with the class of an alias. -/
def withBodyType (p : Parameter) (d : TypeDescriptor) (name : String) : Parameter :=
  let p := { p with extensions := p.extensions.insert Extensions.typeKey (.str name) }
  if p.isContainer then p
  else { p with baseType := name, resolvedType := d.simpleName, isPrimitive := true }

/-- The body with its alias bound, and the names to import. -/
def bindBody (p : Parameter) (registry : TypeRegistry) (entity : String) :
    Except Fault (Parameter × List String) :=
  match p.rawSchema with
  | none => .ok (p, [])
  | some text =>
    match bodyAlias entity text with
    | .error e => .error e
    | .ok none => .ok (p, [])
    | .ok (some name) => do
      let d ← registry.require name entity
      return (p.withBodyType d name, [d.qualifiedName])

/-- The parameter with its aliases bound, and the names to import. -/
def bindAliases (p : Parameter) (registry : TypeRegistry) (entity : String) :
    Except Fault (Parameter × List String) :=
  if p.isBody then p.bindBody registry entity
  else do
    let (p, imports) ← p.bindElement registry entity
    let (p, more) ← p.bindName registry entity
    return (p, imports ++ more)

/-- The bound parameters of an operation, and the names to import. -/
def bindEach (registry : TypeRegistry) (operationId : String) :
    List Parameter → Except Fault (List Parameter × List String)
  | [] => .ok ([], [])
  | p :: rest => do
    let (p, imports) ← p.bindAliases registry (operationId ++ "." ++ p.name)
    let (rest, more) ← bindEach registry operationId rest
    return (p :: rest, imports ++ more)

/-- Is a parameter the header of a name?  Capitals do not matter. -/
def isHeader (name : String) (p : Parameter) : Bool :=
  p.location == .header && Text.sameIgnoringCase p.name name

/-- Parameters followed by the header of a credential, unless it is among them. -/
def addHeader (ps : List Parameter) (m : AuthMethod) : List Parameter :=
  match m.headerName? with
  | none => ps
  | some name => if ps.any (isHeader name) then ps else ps ++ [securityHeader name m.description]

/-- Parameters followed by the headers that carry credentials. -/
def addHeaders (ps : List Parameter) (methods : List AuthMethod) : List Parameter :=
  methods.foldl addHeader ps

end Parameter

/-! ## Responses -/

namespace Response

/-- The response with its aliases bound, and the names to import. -/
def bindAliases (r : Response) (registry : TypeRegistry) (entity : String) :
    Except Fault (Response × List String) :=
  match r.schema, r.baseType with
  | some schema, _ => do
    let (schema, imports) ← schema.bindAliases registry entity
    return ({ r with schema := some schema, baseType := some schema.elementType }, imports)
  | none, some type =>
    let (type, imports) := registry.substitute type
    .ok ({ r with baseType := some type }, imports)
  | none, none => .ok (r, [])

/-- The bound responses of an operation, and the names to import. -/
def bindEach (registry : TypeRegistry) (operationId : String) :
    List Response → Except Fault (List Response × List String)
  | [] => .ok ([], [])
  | r :: rest => do
    let (r, imports) ← r.bindAliases registry (operationId ++ "." ++ r.code)
    let (rest, more) ← bindEach registry operationId rest
    return (r :: rest, imports ++ more)

end Response

/-! ## Operations -/

/-- How operations are bound. -/
structure OperationOptions where
  /-- Do the headers that carry credentials become parameters? -/
  securityHeaders : Bool
  /-- Does the first segment of the base path name the group? -/
  basePathAsRoot : Bool
deriving DecidableEq, Repr

/-- The base path that decides groups. -/
def OperationOptions.rootPath (options : OperationOptions) (basePath : Option String) :
    Option String :=
  if options.basePathAsRoot then basePath.filter fun p => p.toList.any (· ≠ '/') else none

namespace Operation

/-- The bound type of the value that the operation returns, and the names to import. -/
def boundReturn (o : Operation) (registry : TypeRegistry) :
    Except Fault (Option Property × Option String × List String) :=
  match o.returnProperty, o.returnType with
  | some p, _ => do
    let (p, imports) ← p.bindAliases registry (o.operationId ++ ".return")
    return (some p, some p.resolvedType, imports)
  | none, some type =>
    let (type, imports) := registry.substitute type
    .ok (none, some type, imports)
  | none, none => .ok (none, none, [])

/-- The group of the operation: the interface that its path names, or else the first segment of
its path below a base path. -/
def group (o : Operation) (basePath : Option String) : String :=
  match o.pathExtensions.interfaceName? with
  | some name => name
  | none => Naming.resourceGroup o.path basePath

/-- Binds the aliases of an operation.  Its parts are bound apart from it, and it is changed when
nothing can fail any more. -/
def bindAliases (registry : TypeRegistry) (options : OperationOptions) : Change Operation Unit := do
  let o ← get
  let (returnProperty, returnType, imports) ← ExceptT.mk (pure (o.boundReturn registry))
  let (responses, responseImports) ←
    ExceptT.mk (pure (Response.bindEach registry o.operationId o.responses))
  let (parameters, parameterImports) ←
    ExceptT.mk (pure (Parameter.bindEach registry o.operationId o.parameters))
  let parameters :=
    if options.securityHeaders then Parameter.addHeaders parameters o.authMethods else parameters
  modify fun o => { o with returnType }
  modify fun o => { o with returnProperty }
  modify fun o => { o with responses }
  modify fun o => { o with parameters := Parameter.link parameters }
  modify fun o =>
    { o with imports := o.imports.extend (imports ++ responseImports ++ parameterImports) }

/-- Binds the aliases of an operation, and then decides its group. -/
def bindAndGroup (registry : TypeRegistry) (options : OperationOptions)
    (basePath : Option String) : Change Operation Unit := do
  bindAliases registry options
  modify fun o => { o with groupKey := o.group basePath }

end Operation

/-- Binds the aliases of the operations of a document one after the other. -/
def Api.bindAll (registry : TypeRegistry) (options : OperationOptions) (api : Api) :
    Progress Operation :=
  .ofEach (Operation.bindAndGroup registry options (options.rootPath api.basePath)) api.operations

end SchemaBinder
