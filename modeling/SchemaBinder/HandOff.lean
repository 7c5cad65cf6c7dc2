import SchemaBinder.Config.Basic
import SchemaBinder.Document
import SchemaBinder.Model.Binding
import SchemaBinder.Model.Codec
import SchemaBinder.Model.Schema
import SchemaBinder.Operation.Binding
import SchemaBinder.Operation.Codec
import SchemaBinder.Operation.Grouping
import SchemaBinder.Operation.Schema
/-!
# Hand-off documents

What a template needs to write code for one schema document: its bound models, its interfaces,
or both.

Models are made before interfaces, so of two faults the one in the models wins.
-/

namespace SchemaBinder

/-- Which parts are made. -/
inductive Target where
  | models
  | apis
  | all
deriving DecidableEq, Repr, Inhabited

namespace Target

/-- The name of a target. -/
def name : Target → String
  | models => "models"
  | apis => "apis"
  | all => "all"

/-- The targets by their names. -/
def cases : List (String × Target) := [("models", models), ("apis", apis), ("all", all)]

/-- Are models made? -/
def hasModels (t : Target) : Bool := t ≠ apis

/-- Are interfaces made? -/
def hasApis (t : Target) : Bool := t ≠ models

end Target

/-- What a template needs for one schema document. -/
structure HandOff where
  /-- The title of the document. -/
  title : Option String
  /-- The version of the document. -/
  version : Option String
  /-- The models. -/
  models : Option (List Model)
  /-- The interfaces. -/
  interfaces : Option (List Interface)
  /-- What the configuration hands on. -/
  additionalProperties : List (String × Json)

namespace HandOff

variable [DomainNames]

/-- The bound models of a document. -/
def boundModels (config : Config) (registry : TypeRegistry) (doc : Document) :
    Except Fault (List Model) := do
  (Model.bindAll registry (← Model.ofDocument doc config.types)).result

/-- The interfaces of a document, whose operations are bound. -/
def boundInterfaces (config : Config) (registry : TypeRegistry) (doc : Document) :
    Except Fault (List Interface) := do
  let api ← Api.ofDocument doc config.types
  let operations ← (api.bindAll registry config.options.operations).result
  return Interface.ofOperations config.options.names operations

/-- A part if it is wanted. -/
def part {α : Type} (wanted : Bool) (make : Except Fault α) : Except Fault (Option α) :=
  if wanted then make.map some else .ok none

/-- The hand-off document of a schema document. -/
def ofDocument (config : Config) (registry : TypeRegistry) (doc : Document) (target : Target) :
    Except Fault HandOff := do
  let models ← part target.hasModels (boundModels config registry doc)
  let interfaces ← part target.hasApis (boundInterfaces config registry doc)
  return {
    title := doc.title
    version := doc.version
    models
    interfaces
    additionalProperties := config.additionalProperties }

/-- A hand-off document in JSON.  Parts that are not made are left out. -/
def toJson (h : HandOff) : Json :=
  .obj ([("title", .ofStr? h.title), ("version", .ofStr? h.version)]
    ++ (h.models.map fun ms => ("models", Json.arr (ms.map (·.toJson)))).toList
    ++ (h.interfaces.map fun is => ("apis", Json.arr (is.map (·.toJson)))).toList
    ++ [("additionalProperties", .obj h.additionalProperties)])

end HandOff

end SchemaBinder
