import SchemaBinder.HandOff
import SchemaBinder.Manifest.File
import SchemaBinder.Mapping.File
import SchemaBinder.Mapping.Registry
/-!
# Sessions

A session processes schema documents under one configuration.  It builds its registry when it is
first needed and keeps it from then on; a build that fails is tried again the next time.
-/

namespace SchemaBinder

/-- A configuration at work. -/
structure Session where
  /-- The configuration. -/
  config : Config
  /-- The classes that package scans look at. -/
  manifest : Manifest
  /-- The registry, once it is built. -/
  registry : Option TypeRegistry

namespace Session

/-- The session with a given manifest, before its first use. -/
def ofManifest (config : Config) (manifest : Manifest) : Session := ⟨config, manifest, none⟩

variable [DomainNames] {m : Type → Type} [Monad m] [Iterates m] [FileAccess m] [NetworkAccess m]

/-- The session of a configuration, whose manifests are loaded. -/
def start (config : Config) : ExceptT Fault m Session := do
  return ofManifest config (← Manifest.loadAll config.manifests)

/-- Builds the registry from the files and the network as they are. -/
def build (s : Session) : ExceptT Fault m TypeRegistry :=
  s.config.mapping.buildRegistry s.manifest (Mapping.loadWithin s.config.fetchTimeout)

/-- The registry, which is built if it is not there yet, and the session after that. -/
def getRegistry (s : Session) : m (Except Fault TypeRegistry × Session) := do
  match s.registry with
  | some registry => return (.ok registry, s)
  | none =>
    match ← s.build.run with
    | .ok registry => return (.ok registry, { s with registry := some registry })
    | .error e => return (.error e, s)

/-- The hand-off document of a schema document, and the session after that. -/
def process (s : Session) (doc : Document) (target : Target) :
    m (Except Fault HandOff × Session) := do
  let (registry, s) ← s.getRegistry
  return (registry.bind fun r => HandOff.ofDocument s.config r doc target, s)

end Session

end SchemaBinder
