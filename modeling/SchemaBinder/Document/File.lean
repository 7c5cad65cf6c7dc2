import SchemaBinder.Document
import SchemaBinder.Json.Reader
import SchemaBinder.Network.Access
import SchemaBinder.Yaml.Reader
/-!
# Schema documents as files

The text of a document is in JSON or in YAML.  What can be read as JSON is taken as it is; a
value in YAML must be an object.

A document is at a place: a path, or a URL of which the scheme is spelled in small letters.  A URL
is asked for on the network, with no limit of time.
-/

namespace SchemaBinder.Document

/-- The document that a text writes. -/
def parse (text : String) : Except DocumentFailure Document :=
  match Json.read? text with
  | some v => .ok ⟨v⟩
  | none =>
    match (Yaml.read? text).bind Setting.toJson? with
    | some v => if v.isObj then .ok ⟨v⟩ else .error .notObject
    | none => .error .noNotation

/-- Is a place on the network, and not a path? -/
def isRemote (place : String) : Bool :=
  Text.hasStart "http://" place || Text.hasStart "https://" place

/-- The document at a place, of which the text has been read or could not be read. -/
def ofRead (place : String) : Except SettingsFault String → Except Fault Document
  | .error e => .error (.settings e)
  | .ok text =>
    match parse text with
    | .ok doc => .ok doc
    | .error e =>
      .error (.schema (if isRemote place then .unreadableResponse place e
        else .unreadableDocument place e))

variable {m : Type → Type} [Monad m] [FileAccess m] [NetworkAccess m]

/-- Reads the text of the document at a place. -/
def readPlace (place : String) : m (Except SettingsFault String) := do
  if isRemote place then
    return (← NetworkAccess.request place).text.mapError (.unfetchableSchema place)
  else
    return (← FileAccess.readText place).mapError (.unreadableSchema place)

/-- Loads the document at a place. -/
def load (place : String) : ExceptT Fault m Document :=
  ExceptT.mk do return ofRead place (← readPlace place)

end SchemaBinder.Document
