import SchemaBinder.Extension
import SchemaBinder.Url.Reader
/-!
# Schema documents

A document is a JSON value in one of two layouts.  The older one is marked by the field
`swagger`; its schemas, security schemes and base path are fields of the document itself.  In
the newer one they are fields of `components` and the path of the first server.

`resolve` follows references inside the document.  A reference is a field `$ref` with a number
sign and a JSON pointer; the value it names may be a reference again, up to `maxReferences`
times.
-/

namespace SchemaBinder

/-- A schema document. -/
structure Document where
  /-- The value of the document. -/
  root : Json

namespace Document

/-! ## Parts -/

/-- The title of the document. -/
def title (doc : Document) : Option String :=
  (doc.root.get? "info").bind (Json.getStr? "title")

/-- The version of the document. -/
def version (doc : Document) : Option String :=
  (doc.root.get? "info").bind (Json.getStr? "version")

/-- Is the document in the older layout? -/
def isOlderLayout (doc : Document) : Bool := (doc.root.get? "swagger").isSome

/-- The paths and their items. -/
def paths (doc : Document) : Option (List (String × Json)) := doc.root.getObj? "paths"

/-- The named schemas. -/
def schemas (doc : Document) : Option (List (String × Json)) :=
  if doc.isOlderLayout then doc.root.getObj? "definitions"
  else (doc.root.get? "components").bind (Json.getObj? "schemas")

/-- The named security schemes. -/
def securitySchemes (doc : Document) : Option (List (String × Json)) :=
  if doc.isOlderLayout then doc.root.getObj? "securityDefinitions"
  else (doc.root.get? "components").bind (Json.getObj? "securitySchemes")

/-- The security requirements of operations that have none of their own. -/
def globalSecurity (doc : Document) : Option (List Json) := doc.root.getArr? "security"

/-! ## The base path -/

variable [DomainNames]

/-- The path of a server.  A server that is no URL is a path itself. -/
def serverPath (url : String) : String :=
  match Url.parse url with
  | .ok u => String.ofList u.path.text
  | .error _ => url

/-- A base path without blanks around it and slashes at its end, with a slash at its front.
There is none if nothing else is left. -/
def normalBasePath (text : String) : Option String :=
  match Text.dropEnd (· == '/') (Text.trimChars text.toList) with
  | [] => none
  | c :: cs => some (String.ofList (if c = '/' then c :: cs else '/' :: c :: cs))

/-- The text of the base path. -/
def basePathText (doc : Document) : Option String :=
  if doc.isOlderLayout then doc.root.getStr? "basePath"
  else
    ((doc.root.getArr? "servers").bind List.head?).bind fun server =>
      (server.getStr? "url").map serverPath

/-- The path that all paths of the document are below. -/
def basePath (doc : Document) : Option String :=
  doc.basePathText.bind normalBasePath

/-! ## References -/

/-- The greatest number of references that are followed one after the other. -/
def maxReferences : Nat := 32

/-- The value that one reference names. -/
def target (doc : Document) (reference : String) : Except Fault Json :=
  match Text.dropStart? "#" reference with
  | none => .error (.schema (.externalReference reference))
  | some pointer =>
    match doc.root.pointer? pointer with
    | none => .error (.schema (.danglingReference reference))
    | some v => .ok v

/-- Follows at most so many references from a value; `start` is the first of them. -/
def resolveFrom (doc : Document) (start : Json) : Nat → Json → Except Fault Json
  | 0, _ => .error (.schema (.deepReference maxReferences start))
  | n + 1, v =>
    match v.getStr? "$ref" with
    | none => .ok v
    | some reference =>
      match doc.target reference with
      | .error e => .error e
      | .ok w => doc.resolveFrom start n w

/-- The value that a value stands for once all references are followed. -/
def resolve (doc : Document) (v : Json) : Except Fault Json :=
  doc.resolveFrom v maxReferences v

end Document

end SchemaBinder
