import SchemaBinder.ImportSet
import SchemaBinder.Property.Basic
/-!
# Operations

An operation is a method of a path that becomes a method of an interface: its parameters, its
responses, the type that it returns and the credentials that it needs.

Every parameter but the last carries the mark `hasMore`, by which a template knows where to put
commas; `Parameter.link` sets it.
-/

namespace SchemaBinder

/-! ## Parameters -/

/-- Where a parameter is sent. -/
inductive ParameterLocation where
  | path
  | query
  | header
  | cookie
  | body
  | formData
deriving DecidableEq, Repr

namespace ParameterLocation

/-- The location that a schema names. -/
def parse? : String → Option ParameterLocation
  | "path" => some path
  | "query" => some query
  | "header" => some header
  | "cookie" => some cookie
  | "body" => some body
  | "formData" => some formData
  | _ => none

/-- The name of a location in a hand-off document. -/
def name : ParameterLocation → String
  | path => "path"
  | query => "query"
  | header => "header"
  | cookie => "cookie"
  | body => "body"
  | formData => "formdata"

/-- The locations by their names. -/
def cases : List (String × ParameterLocation) :=
  [("path", path), ("query", query), ("header", header), ("cookie", cookie), ("body", body),
    ("formdata", formData)]

end ParameterLocation

/-- A parameter of an operation. -/
structure Parameter where
  /-- The name. -/
  name : String
  /-- Where it is sent. -/
  location : ParameterLocation
  /-- The description. -/
  description : Option String
  /-- The type that the schema declares. -/
  declaredType : String
  /-- The format that the schema declares. -/
  format : Option String
  /-- The type before aliases are bound. -/
  baseType : String
  /-- The type in generated code. -/
  resolvedType : String
  /-- Is it the body of the request? -/
  isBody : Bool
  /-- Is its type a container? -/
  isContainer : Bool
  /-- The kind of the container, where it is kept. -/
  container : Option ContainerKind
  /-- The element of the container, where it is kept. -/
  items : Option Property
  /-- Is its type one of the simple types of the schema language? -/
  isPrimitive : Bool
  /-- Must it be sent? -/
  required : Bool
  /-- Does another parameter follow? -/
  hasMore : Bool
  /-- The JSON text of the schema of a body. -/
  rawSchema : Option String
  /-- The vendor extensions. -/
  extensions : Extensions

namespace Parameter

/-- A parameter whose base type is its type. -/
def plain (name : String) (location : ParameterLocation) (declaredType type : String) :
    Parameter where
  name := name
  location := location
  description := none
  declaredType := declaredType
  format := none
  baseType := type
  resolvedType := type
  isBody := location == .body
  isContainer := false
  container := none
  items := none
  isPrimitive := false
  required := location == .path
  hasMore := false
  rawSchema := none
  extensions := .empty

/-- The header that carries a credential. -/
def securityHeader (name : String) (description : Option String) : Parameter :=
  { plain name .header "string" "String" with
    description, required := true, isPrimitive := true }

/-- The parameters with the mark set on every one but the last. -/
def link : List Parameter → List Parameter
  | [] => []
  | [p] => [{ p with hasMore := false }]
  | p :: rest => { p with hasMore := true } :: link rest

end Parameter

/-! ## Credentials -/

/-- The kinds of credentials. -/
inductive AuthKind where
  | apiKey
  | basic
  | bearer
  | oAuth2
  | openIdConnect
deriving DecidableEq, Repr

namespace AuthKind

/-- The name of a kind. -/
def name : AuthKind → String
  | apiKey => "apiKey"
  | basic => "basic"
  | bearer => "bearer"
  | oAuth2 => "oAuth2"
  | openIdConnect => "openIdConnect"

/-- The kinds by their names. -/
def cases : List (String × AuthKind) :=
  [("apiKey", apiKey), ("basic", basic), ("bearer", bearer), ("oAuth2", oAuth2),
    ("openIdConnect", openIdConnect)]

end AuthKind

/-- Where a key is sent. -/
inductive KeyLocation where
  | header
  | query
  | cookie
deriving DecidableEq, Repr

namespace KeyLocation

/-- The name of a location. -/
def name : KeyLocation → String
  | header => "header"
  | query => "query"
  | cookie => "cookie"

/-- The locations by their names. -/
def cases : List (String × KeyLocation) :=
  [("header", header), ("query", query), ("cookie", cookie)]

end KeyLocation

/-- A credential that an operation needs. -/
structure AuthMethod where
  /-- The name of the security scheme. -/
  name : String
  /-- The kind. -/
  kind : AuthKind
  /-- The name under which a key is sent. -/
  keyName : Option String
  /-- Where a key is sent. -/
  keyLocation : Option KeyLocation
  /-- The description. -/
  description : Option String

/-- The header that a key is sent in. -/
def AuthMethod.headerName? (m : AuthMethod) : Option String :=
  if m.kind = .apiKey ∧ m.keyLocation = some .header then m.keyName else none

/-! ## Operations -/

/-- A response of an operation. -/
structure Response where
  /-- The status code, or `default`. -/
  code : String
  /-- The description. -/
  description : Option String
  /-- The type of the body, or of its innermost element once aliases are bound. -/
  baseType : Option String
  /-- The type of the body. -/
  schema : Option Property

/-- A method of a path. -/
structure Operation where
  /-- The identifier. -/
  operationId : String
  /-- The method in small letters. -/
  method : String
  /-- The path. -/
  path : String
  /-- The summary. -/
  summary : Option String
  /-- The type that is returned, in generated code. -/
  returnType : Option String
  /-- The type that is returned. -/
  returnProperty : Option Property
  /-- The responses in document order. -/
  responses : List Response
  /-- The parameters. -/
  parameters : List Parameter
  /-- The credentials. -/
  authMethods : List AuthMethod
  /-- The group that decides the interface. -/
  groupKey : String
  /-- The vendor extensions of the path. -/
  pathExtensions : Extensions
  /-- The vendor extensions of the operation. -/
  extensions : Extensions
  /-- The names to import. -/
  imports : ImportSet

/-- The operations of a document. -/
structure Api where
  /-- The path that all paths are below. -/
  basePath : Option String
  /-- The operations in document order. -/
  operations : List Operation

/-- The interface that some operations belong to. -/
structure Interface where
  /-- The name of the interface. -/
  name : String
  /-- The group of its first operation. -/
  groupKey : String
  /-- Its operations. -/
  operations : List Operation
  /-- The names to import. -/
  imports : ImportSet

end SchemaBinder
