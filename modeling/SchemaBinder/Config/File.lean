import SchemaBinder.Config.Codec
import SchemaBinder.Fault
import SchemaBinder.FileTree.Access
import SchemaBinder.Toml.Printer
import SchemaBinder.Toml.Reader
import SchemaBinder.Yaml.Printer
import SchemaBinder.Yaml.Reader
/-!
# Configuration files

A configuration file is in TOML if its name ends in `.toml`, and in YAML otherwise.
-/

namespace SchemaBinder

namespace Config

/-- Is a configuration file of a path in TOML? -/
def isToml (path : String) : Bool :=
  match PathName.ending? path with
  | some ending => Text.sameIgnoringCase ending "toml"
  | none => false

/-- The configuration that the text of a file writes. -/
def parse (inToml : Bool) (text : String) : Except Fault Config :=
  if inToml then
    match (Toml.read? text).map (ofSetting true) with
    | some (.ok c) => .ok c
    | _ => .error .toml
  else
    match (Yaml.read? text).map (ofSetting false) with
    | some (.ok c) => .ok c
    | _ => .error .yaml

/-- The text of the file of a configuration. -/
def render (inToml : Bool) (c : Config) : Except Fault String :=
  if inToml then
    match Toml.render? c.toSetting with
    | some text => .ok text
    | none => .error (.settings .unwritableNumber)
  else .ok (Yaml.render c.toSetting)

variable {m : Type → Type} [Monad m] [FileAccess m]

/-- Loads a configuration from a file. -/
def load (path : String) : ExceptT Fault m Config := do
  match ← FileAccess.readText (m := m) path with
  | .ok text => ExceptT.mk (pure (parse (isToml path) text))
  | .error e => throw (.io e)

/-- Saves a configuration to a file. -/
def save (c : Config) (path : String) : ExceptT Fault m Unit := do
  match c.render (isToml path) with
  | .error e => throw e
  | .ok text =>
    match ← FileAccess.writeText (m := m) path text with
    | .ok () => return ()
    | .error e => throw (.io e)

end Config

end SchemaBinder
