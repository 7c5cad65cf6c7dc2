import SchemaBinder.Config.Basic
import SchemaBinder.Fault
import SchemaBinder.Mapping.Basic
import SchemaBinder.Network.Access
import SchemaBinder.Url.FilePath
import SchemaBinder.Yaml.Reader
/-!
# Mapping documents

A mapping document is a mapping in YAML.  A text of blanks and a document without a value are
the mapping without sources.

A document is named by a URL.  One of the scheme `file` is read from a file, and one of the schemes
`http` and `https` is asked for on the network, where it must be there in time.  There are no
others.
-/

namespace SchemaBinder.Mapping

/-- The mapping that a text writes. -/
def parse (text : String) : Except Fault Mapping :=
  if Text.trim text = "" then .ok empty
  else
    match Yaml.read? text with
    | none => .error .yaml
    | some v =>
      if v.isAbsent then .ok empty
      else
        match ofSetting false v with
        | .ok m => .ok m
        | .error _ => .error .yaml

/-- The mapping document at a URL, of which the text has been read or could not be read. -/
def ofRead (url : Url) : Except SettingsFault String → Except Fault Mapping
  | .error e => .error (.settings e)
  | .ok text =>
    match parse text with
    | .ok mapping => .ok mapping
    | .error _ => .error (.settings (.malformedResource url.render))

variable {m : Type → Type} [Monad m]

/-- Loads the mapping document at a URL with a given way to read texts. -/
def fetch (read : Url → m (Except SettingsFault String)) (url : Url) : ExceptT Fault m Mapping :=
  ExceptT.mk do return ofRead url (← read url)

variable [FileAccess m] [NetworkAccess m]

/-- Reads the text of the mapping document at a URL, which must be there within a number of seconds
if it comes over the network. -/
def readResource (seconds : UInt64) (url : Url) : m (Except SettingsFault String) := do
  let scheme := String.ofList url.scheme
  if scheme = "http" || scheme = "https" then
    match ← NetworkAccess.requestWithin (m := m) seconds url.render with
    | some reply => return reply.text.mapError (.unfetchableResource url.render)
    | none => return .error (.slowResource seconds url.render)
  else if scheme = "file" then
    match url.toFilePath? with
    | none => return .error (.invalidFileUrl url.render)
    | some path => return (← FileAccess.readText path).mapError (.unreadableResource path)
  else return .error (.unsupportedScheme scheme url.render)

/-- Loads the mapping document at a URL within a number of seconds. -/
def loadWithin (seconds : UInt64) (url : Url) : ExceptT Fault m Mapping :=
  fetch (readResource seconds) url

/-- Loads the mapping document at a URL within the time that holds unless another is chosen. -/
def load (url : Url) : ExceptT Fault m Mapping := loadWithin Config.standardFetchSeconds url

end SchemaBinder.Mapping
