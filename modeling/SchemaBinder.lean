import SchemaBinder.Assoc
import SchemaBinder.Binding
import SchemaBinder.CommandLine
import SchemaBinder.Config.Basic
import SchemaBinder.Config.Codec
import SchemaBinder.Config.File
import SchemaBinder.DateLibrary
import SchemaBinder.Decimal.Double
import SchemaBinder.Decimal.Shortest
import SchemaBinder.Decimal.Text
import SchemaBinder.Decimal.Word
import SchemaBinder.Document
import SchemaBinder.Document.File
import SchemaBinder.Extension
import SchemaBinder.Fault
import SchemaBinder.FileTree.Access
import SchemaBinder.FileTree.Basic
import SchemaBinder.FileTree.Failure
import SchemaBinder.FileTree.PathName
import SchemaBinder.Generation
import SchemaBinder.HandOff
import SchemaBinder.ImportSet
import SchemaBinder.Iteration
import SchemaBinder.Json.Basic
import SchemaBinder.Json.Number
import SchemaBinder.Json.Printer
import SchemaBinder.Json.Reader
import SchemaBinder.Json.Record
import SchemaBinder.Json.Search
import SchemaBinder.Json.Token
import SchemaBinder.Main
import SchemaBinder.Manifest
import SchemaBinder.Manifest.File
import SchemaBinder.Mapping.Basic
import SchemaBinder.Mapping.File
import SchemaBinder.Mapping.Registry
import SchemaBinder.Model.Basic
import SchemaBinder.Model.Binding
import SchemaBinder.Model.Codec
import SchemaBinder.Model.Schema
import SchemaBinder.Naming
import SchemaBinder.Network.Access
import SchemaBinder.Network.Basic
import SchemaBinder.Operation.Basic
import SchemaBinder.Operation.Binding
import SchemaBinder.Operation.Codec
import SchemaBinder.Operation.Grouping
import SchemaBinder.Operation.Schema
import SchemaBinder.Property.Basic
import SchemaBinder.Property.Binding
import SchemaBinder.Property.Codec
import SchemaBinder.Property.Typing
import SchemaBinder.Scope
import SchemaBinder.Session
import SchemaBinder.Setting.Basic
import SchemaBinder.Setting.Plain
import SchemaBinder.Setting.Reader
import SchemaBinder.Setting.Settled
import SchemaBinder.Text.Blank
import SchemaBinder.Text.Letter
import SchemaBinder.Text.LetterTable
import SchemaBinder.Text.Octets
import SchemaBinder.Toml.Printer
import SchemaBinder.Toml.Reader
import SchemaBinder.Toml.Value
import SchemaBinder.TypeRegistry
import SchemaBinder.Url.Basic
import SchemaBinder.Url.Domain
import SchemaBinder.Url.Failure
import SchemaBinder.Url.FilePath
import SchemaBinder.Url.Host
import SchemaBinder.Url.Percent
import SchemaBinder.Url.PlainNames
import SchemaBinder.Url.Punycode
import SchemaBinder.Url.Reader
import SchemaBinder.Yaml.Gap
import SchemaBinder.Yaml.Mark
import SchemaBinder.Yaml.Printer
import SchemaBinder.Yaml.Reader
import SchemaBinder.Yaml.Scalar
import SchemaBinder.Yaml.Token
import SchemaBinder.Proofs.Mapping.Documents
import SchemaBinder.Proofs.Mapping.Entries
import SchemaBinder.Proofs.Mapping.Precedence
import SchemaBinder.Proofs.Mapping.Chain
import SchemaBinder.Proofs.Mapping.Termination
import SchemaBinder.Proofs.Binding.Atomic
import SchemaBinder.Proofs.Binding.Imports
import SchemaBinder.Proofs.Binding.Steps
import SchemaBinder.Proofs.Binding.Demands
import SchemaBinder.Proofs.Binding.Rebinding
import SchemaBinder.Proofs.Binding.Parameters
import SchemaBinder.Proofs.Binding.Operations
import SchemaBinder.Proofs.Binding.RebindingOperations
import SchemaBinder.Proofs.Binding.Containers
import SchemaBinder.Proofs.Schema
import SchemaBinder.Proofs.Text
import SchemaBinder.Proofs.Iteration
import SchemaBinder.Proofs.Machine
import SchemaBinder.Proofs.Mapping.Files
import SchemaBinder.Proofs.Json.Parts
import SchemaBinder.Proofs.Json.Reading
import SchemaBinder.Proofs.Endpoints
import SchemaBinder.Proofs.Binding.Fragments
import SchemaBinder.Proofs.Bodies
import SchemaBinder.Proofs.Session
import SchemaBinder.Proofs.Interfaces
import SchemaBinder.Proofs.FileTree
import SchemaBinder.Proofs.Generation
import SchemaBinder.Proofs.Json.WellFormed
import SchemaBinder.Proofs.Setting
import SchemaBinder.Proofs.Yaml
import SchemaBinder.Proofs.Codec
import SchemaBinder.Proofs.Runs
import SchemaBinder.Proofs.References
import SchemaBinder.Proofs.Spelling
import SchemaBinder.Proofs.Config
import SchemaBinder.Proofs.Binding.Frame
import SchemaBinder.Proofs.Binding.OperationImports
import SchemaBinder.Proofs.Binding.SoundOperations
import SchemaBinder.Proofs.Decimal.Rounding
import SchemaBinder.Proofs.Binding.Undirected
import SchemaBinder.Proofs.Targets
import SchemaBinder.Proofs.Fields
import SchemaBinder.Proofs.Naming
import SchemaBinder.Proofs.Classes
import SchemaBinder.Proofs.Binding.Elements
import SchemaBinder.Proofs.Binding.Credentials
import SchemaBinder.Proofs.Binding.ReferencedClasses
import SchemaBinder.Proofs.Outcomes
import SchemaBinder.Proofs.Leftovers
import SchemaBinder.Proofs.Lists
import SchemaBinder.Proofs.ReferenceChains
import SchemaBinder.Proofs.Transparency
import SchemaBinder.Proofs.Binding.Overriding
import SchemaBinder.Proofs.Binding.Returned
import SchemaBinder.Proofs.Scopes
import SchemaBinder.Proofs.Notations
import SchemaBinder.Proofs.Searching
import SchemaBinder.Proofs.TypeImports
import SchemaBinder.Proofs.Groups
import SchemaBinder.Proofs.Tables
import SchemaBinder.Proofs.ImportCalls
import SchemaBinder.Proofs.Registrations
import SchemaBinder.Proofs.Arguments
import SchemaBinder.Proofs.SnakeCase
