import SchemaBinder.Config.File
import SchemaBinder.Document.File
import SchemaBinder.Session
/-!
# Generation

A run processes the schema documents of a configuration one after the other and writes a
hand-off document for each.  The first fault ends the run; what was written before stays.

The file of a hand-off document has the name of its schema document with the ending `.json`, and
lies in the output directory.
-/

namespace SchemaBinder

namespace Generation

/-- The name of the file of a hand-off document without its ending.  Of a URL, a query and a
fragment do not count. -/
def stem (source : String) : String :=
  let path := source.toList.takeWhile fun c => c ≠ '?' && c ≠ '#'
  (PathName.stem? (String.ofList path)).getD "schema"

/-- The path of the hand-off document of a schema document. -/
def outputPath (directory source : String) : String :=
  PathName.join directory (stem source ++ ".json")

variable [DomainNames] {m : Type → Type} [Monad m] [Iterates m] [FileAccess m] [NetworkAccess m]

/-- A file operation whose failure is a fault of the run. -/
def orFault {α : Type} (operation : m (Except FileFailure α)) : ExceptT Fault m α := do
  match ← operation with
  | .ok a => return a
  | .error e => throw (.io e)

/-- Processes one schema document and writes its hand-off document.  The result is the path of
that, and the session afterwards. -/
def processSource (s : Session) (target : Target) (source : String) :
    ExceptT Fault m (String × Session) := do
  let doc ← Document.load source
  let (handOff, s) ← s.process (m := m) doc target
  let path := outputPath s.config.outputDirectory source
  let handOff ← ExceptT.mk (pure handOff)
  orFault (m := m) (FileAccess.writeText path handOff.toJson.pretty)
  return (path, s)

/-- Processes schema documents one after the other.  The result is the paths of their hand-off
documents. -/
def processAll (target : Target) : Session → List String → ExceptT Fault m (List String)
  | _, [] => return []
  | s, source :: rest => do
    let (path, s) ← processSource s target source
    return path :: (← processAll target s rest)

/-- Runs a configuration. -/
def run (config : Config) (target : Target) : ExceptT Fault m (List String) := do
  if config.sources.isEmpty then throw (.settings .noSources)
  else
    let s ← Session.start config
    orFault (m := m) (FileAccess.makeDirectories config.outputDirectory)
    processAll target s config.sources

end Generation

end SchemaBinder
