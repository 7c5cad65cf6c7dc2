import SchemaBinder.Document
import SchemaBinder.Json.Printer
import SchemaBinder.Operation.Basic
import SchemaBinder.Property.Typing
/-!
# The operations of a document

Every method of every path becomes an operation.  Its parameters are those of the path followed
by its own; of several with one name and place the last one counts, and stands where it is last
declared.  In the newer layout the body of the request is one parameter more.

The type that an operation returns is the one of its first response whose code starts with `2`,
or else of its `default` response.  Its credentials are the security schemes that its own
requirements name, or those of the document if it has no requirements.
-/

namespace SchemaBinder

/-- The media type of a body or a response: JSON if there is one, or else the first. -/
def firstMedia? (v : Json) : Option Json :=
  (v.getObj? "content").bind fun content =>
    Assoc.get? "application/json" content <|> (content.head?.map (·.2))

/-! ## Parameters -/

namespace Parameter

/-- Is a declared type one of the simple types of the schema language? -/
def isPrimitiveName (declared : String) : Bool :=
  ["string", "integer", "number", "boolean"].contains declared

/-- Do two parameters have one name and place?  They are compared as they stand in the
document. -/
def sameKey (p q : Json) : Bool :=
  Json.same? (p.get? "name") (q.get? "name") && Json.same? (p.get? "in") (q.get? "in")

/-- Parameters followed by one more, which takes the place of the ones with its name and
place. -/
def override (params : List Json) (p : Json) : List Json :=
  params.filter (!sameKey · p) ++ [p]

/-- The parameter that a document declares, and the names to import for it. -/
def ofSchema (types : TypeMap) (operationId : String) (param : Json) :
    Except Fault (Parameter × List String) :=
  match param.getStr? "name" with
  | none => .error (.schema (.unnamedParameter operationId))
  | some name =>
    let place := (param.getStr? "in").getD ""
    match ParameterLocation.parse? place with
    | none => .error (.schema (.unknownLocation place operationId name))
    | some location =>
      let (typed, imports) := types.property name ((param.get? "schema").getD param)
      let own := typed.own
      let isBody := location == .body
      .ok ({ plain name location own.declaredType own.resolvedType with
        description := param.getStr? "description"
        format := own.format
        baseType := own.baseType
        isContainer := own.container.isSome
        container := own.container
        items := if isBody then none else typed.element?
        isPrimitive := isPrimitiveName own.declaredType && own.container.isNone
        required := location == .path || (param.getBool? "required").getD false
        rawSchema := if isBody then some param.render else none
        extensions := own.extensions.union (Extensions.ofJson param) }, imports)

/-- The declared parameters, and the names to import for them. -/
def ofSchemas (types : TypeMap) (operationId : String) :
    List Json → Except Fault (List Parameter × List String)
  | [] => .ok ([], [])
  | param :: rest => do
    let (p, imports) ← ofSchema types operationId param
    let (ps, more) ← ofSchemas types operationId rest
    return (p :: ps, imports ++ more)

/-- The parameter of the body of a request, and the names to import for it.  A body without a
schema is no parameter. -/
def ofRequestBody (types : TypeMap) (body : Json) : Option (Parameter × List String) := do
  let media ← firstMedia? body
  let schema ← media.get? "schema"
  let name := (body.getStr? "x-codegen-request-body-name").getD "body"
  let (typed, imports) := types.property name schema
  let own := typed.own
  return ({ plain name .body own.declaredType own.resolvedType with
    description := body.getStr? "description"
    format := own.format
    baseType := own.baseType
    isContainer := own.container.isSome
    required := (body.getBool? "required").getD false
    rawSchema := some media.render
    extensions := Extensions.ofJson body }, imports)

end Parameter

/-! ## Credentials -/

namespace AuthMethod

/-- The kind of the credential that a security scheme declares. -/
def kind? (scheme : Json) : Option AuthKind :=
  match scheme.getStr? "type" with
  | some "apiKey" => some .apiKey
  | some "basic" => some .basic
  | some "http" =>
    match (scheme.getStr? "scheme").map fun s => String.ofList (s.toList.map Char.toLower) with
    | some "basic" => some .basic
    | some "bearer" => some .bearer
    | _ => none
  | some "oauth2" => some .oAuth2
  | some "openIdConnect" => some .openIdConnect
  | _ => none

/-- The credential of a security scheme of a name.  A scheme of unknown kind has none. -/
def ofScheme (name : String) (scheme : Json) : Option AuthMethod :=
  (kind? scheme).map fun kind => {
    name
    kind
    keyName := if kind = .apiKey then scheme.getStr? "name" else none
    keyLocation :=
      if kind = .apiKey then (scheme.getStr? "in").bind fun s => Assoc.get? s KeyLocation.cases
      else none
    description := scheme.getStr? "description" }

/-- Credentials followed by the one of a security scheme, unless it is among them. -/
def addNamed (schemes : List (String × Json)) (methods : List AuthMethod) (name : String) :
    List AuthMethod :=
  if methods.any (·.name == name) then methods
  else
    match (Assoc.get? name schemes).bind (ofScheme name) with
    | some m => methods ++ [m]
    | none => methods

/-- The names of the schemes that requirements mention, in order. -/
def requiredNames (requirements : List Json) : List String :=
  requirements.flatMap fun r => (r.asObj?.getD []).map (·.1)

/-- The credentials that requirements name, each once. -/
def ofRequirements (schemes : List (String × Json)) (requirements : List Json) :
    List AuthMethod :=
  (requiredNames requirements).foldl (addNamed schemes) []

end AuthMethod

/-! ## Responses -/

namespace Response

/-- The schema of the body of a response. -/
def schema? (olderLayout : Bool) (response : Json) : Option Json :=
  if olderLayout then response.get? "schema"
  else (firstMedia? response).bind (Json.get? "schema")

/-- The response of a code, and the names to import for its body. -/
def ofSchema (types : TypeMap) (olderLayout : Bool) (code : String) (response : Json) :
    Response × List String :=
  let typed := (schema? olderLayout response).map (types.property code)
  ({ code
     description := response.getStr? "description"
     baseType := typed.map (·.1.baseType)
     schema := typed.map (·.1) }, (typed.map (·.2)).getD [])

/-- The responses of an operation, and the names to import for them. -/
def ofSchemas (doc : Document) (types : TypeMap) :
    List (String × Json) → Except Fault (List Response × List String)
  | [] => .ok ([], [])
  | (code, response) :: rest => do
    let response ← doc.resolve response
    let (r, imports) := ofSchema types doc.isOlderLayout code response
    let (rs, more) ← ofSchemas doc types rest
    return (r :: rs, imports ++ more)

/-- The type of the body of the response that an operation returns. -/
def returned (responses : List Response) : Option Property :=
  match responses.find? fun r => Text.hasStart "2" r.code with
  | some r => r.schema
  | none => (responses.find? (·.code == "default")).bind (·.schema)

end Response

/-! ## Operations -/

namespace Operation

/-- The methods that a path can have, in the order of its operations. -/
def methods : List String :=
  ["get", "put", "post", "delete", "options", "head", "patch", "trace"]

/-- The identifier of an operation that declares none. -/
def defaultId (method path : String) : String :=
  let trimmed := path.toList.dropWhile (· == '/')
  method ++ "_" ++ String.ofList (trimmed.map fun c => if c = '/' then '_' else c)

/-- The parameters that count, of a path and of an operation, with their references followed. -/
def declaredParameters (doc : Document) (shared own : List Json) : Except Fault (List Json) := do
  return (← (shared ++ own).mapM doc.resolve).foldl Parameter.override []

/-- The parameter of the body of a request, and the names to import for it. -/
def bodyParameter (doc : Document) (types : TypeMap) (item : Json) :
    Except Fault (List Parameter × List String) :=
  match item.get? "requestBody" with
  | none => .ok ([], [])
  | some body => do
    match Parameter.ofRequestBody types (← doc.resolve body) with
    | some (p, imports) => return ([p], imports)
    | none => return ([], [])

/-- The operation of a method of a path.  `shared` are the parameters of the path. -/
def ofSchema (doc : Document) (types : TypeMap) (path method : String) (item : Json)
    (shared : List Json) (pathExtensions : Extensions) : Except Fault Operation := do
  let operationId := (item.getStr? "operationId").getD (defaultId method path)
  let declared ← declaredParameters doc shared ((item.getArr? "parameters").getD [])
  let (parameters, imports) ← Parameter.ofSchemas types operationId declared
  let (body, bodyImports) ← bodyParameter doc types item
  let (responses, responseImports) ← Response.ofSchemas doc types ((item.getObj? "responses").getD [])
  let returned := Response.returned responses
  let requirements := (item.getArr? "security").or doc.globalSecurity
  return {
    operationId
    method
    path
    summary := item.getStr? "summary"
    returnType := returned.map (·.resolvedType)
    returnProperty := returned
    responses
    parameters := Parameter.link (parameters ++ body)
    authMethods :=
      AuthMethod.ofRequirements (doc.securitySchemes.getD []) (requirements.getD [])
    groupKey := path
    pathExtensions
    extensions := Extensions.ofJson item
    imports := ImportSet.empty.extend (imports ++ bodyImports ++ responseImports) }

/-- The operations of a path. -/
def ofPath (doc : Document) (types : TypeMap) (path : String) (item : Json) :
    Except Fault (List Operation) := do
  let item ← doc.resolve item
  if item.isObj then
    let present := methods.filterMap fun method =>
      ((item.get? method).filter (·.isObj)).map (method, ·)
    present.mapM fun (method, methodItem) =>
      ofSchema doc types path method methodItem ((item.getArr? "parameters").getD [])
        (Extensions.ofJson item)
  else return []

end Operation

/-- The operations of a document. -/
def Api.ofDocument [DomainNames] (doc : Document) (types : TypeMap) : Except Fault Api := do
  let operations ← (doc.paths.getD []).mapM fun (path, item) => Operation.ofPath doc types path item
  return { basePath := doc.basePath, operations := operations.flatten }

end SchemaBinder
