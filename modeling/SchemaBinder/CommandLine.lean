import SchemaBinder.Generation
import SchemaBinder.Url.PlainNames
/-!
# The command line

Two commands: `generate` runs a configuration, and `registry` prints its registry of types, an
alias and its class to a line.

Arguments are read from left to right, and the first one that is wrong decides.  An option is
written as `--name value` or `--name=value`, and the two with a letter also as `-c value`,
`-c=value` or `-cvalue`; letters without a value may be joined.  Of all options only `--source`
may be repeated.
-/

namespace SchemaBinder

/-- A command. -/
inductive Command where
  /-- Runs a configuration. -/
  | generate
  /-- Prints a registry. -/
  | registry
deriving DecidableEq, Repr

/-- What the arguments of a command say. -/
structure CommandOptions where
  /-- The path of the configuration. -/
  config : Option String
  /-- Which parts are made. -/
  target : Option Target
  /-- The schema documents, instead of the ones of the configuration. -/
  sources : List String
  /-- The directory to write to, instead of the one of the configuration. -/
  outputDirectory : Option String
  /-- The library for dates, instead of the one of the configuration. -/
  dateLibrary : Option DateLibrary
  /-- Is the run to be reported at length? -/
  verbose : Bool

/-- What a list of arguments asks for. -/
inductive Request where
  /-- A command with the path of its configuration. -/
  | run (command : Command) (config : String) (options : CommandOptions)
  /-- The version of the program. -/
  | version
  /-- How the program is used. -/
  | help
  /-- Nothing that the program knows. -/
  | wrong

/-! ## Reading arguments -/

namespace CommandOptions

/-- Options of which nothing has been said. -/
def none : CommandOptions := ⟨.none, .none, [], .none, .none, false⟩

/-- A value where there is none yet and another is given. -/
def once {α : Type} (old new : Option α) : Option (Option α) :=
  if old.isSome || new.isNone then .none else some new

/-- A path, which has at least one character. -/
def path? (s : String) : Option String := if s = "" then .none else some s

/-- The options with one more, by its name and value. -/
def set? (o : CommandOptions) (command : Command) (name value : String) :
    Option CommandOptions :=
  match command, name with
  | _, "config" => (once o.config (path? value)).map ({ o with config := · })
  | .generate, "target" =>
    (once o.target (Assoc.get? value Target.cases)).map ({ o with target := · })
  | .generate, "source" => some { o with sources := o.sources ++ [value] }
  | .generate, "output-dir" =>
    (once o.outputDirectory (path? value)).map ({ o with outputDirectory := · })
  | .generate, "date-library" =>
    (once o.dateLibrary (DateLibrary.ofName? value)).map ({ o with dateLibrary := · })
  | _, _ => .none

/-- The options with the one that asks for a long report. -/
def setVerbose? (o : CommandOptions) : Option CommandOptions :=
  if o.verbose then .none else some { o with verbose := true }

end CommandOptions

namespace Request

/-- Can an argument be the value of the option before it? -/
def isValue (arg : String) : Bool := arg = "-" || !Text.hasStart "-" arg

/-- The name of a long option and the value behind its equals sign. -/
def splitLong (name : String) : String × Option String :=
  match Text.splitFirst '=' name.toList with
  | some (name, value) => (String.ofList name, some (String.ofList value))
  | none => (name, none)

/-- What one argument of a command says. -/
inductive ArgumentStep where
  /-- The options so far. -/
  | next (o : CommandOptions)
  /-- The name of an option whose value is the next argument. -/
  | needsValue (o : CommandOptions) (name : String)
  /-- The request is complete. -/
  | complete (r : Request)

/-- The step to options, if there are any. -/
def ArgumentStep.ofOptions? : Option CommandOptions → ArgumentStep
  | some o => next o
  | none => complete .wrong

/-- The value that is joined to its letter. -/
def joinedValue : List Char → String
  | '=' :: cs => String.ofList cs
  | cs => String.ofList cs

/-- Reads joined letters. -/
def readLetters (command : Command) (o : CommandOptions) : List Char → ArgumentStep
  | [] => .next o
  | 'v' :: cs =>
    match o.setVerbose? with
    | some o => readLetters command o cs
    | none => .complete .wrong
  | ['c'] => .needsValue o "config"
  | 'c' :: cs => .ofOptions? (o.set? command "config" (joinedValue cs))
  | 'h' :: _ => .complete .help
  | _ => .complete .wrong

/-- Reads a long option. -/
def readLong (command : Command) (o : CommandOptions) (long : String) : ArgumentStep :=
  match splitLong long with
  | ("help", none) => .complete .help
  | ("verbose", none) => .ofOptions? o.setVerbose?
  | (name, some value) => .ofOptions? (o.set? command name value)
  | (name, none) => .needsValue o name

/-- Reads one argument of a command. -/
def readArgument (command : Command) (o : CommandOptions) (arg : String) : ArgumentStep :=
  match Text.dropStart? "--" arg, Text.dropStart? "-" arg with
  | some long, _ => readLong command o long
  | none, some letters =>
    if letters = "" then .complete .wrong else readLetters command o letters.toList
  | none, none => .complete .wrong

/-- The request of a command whose arguments are all read. -/
def ofOptions (command : Command) (o : CommandOptions) : Request :=
  match o.config with
  | some config => .run command config o
  | none => .wrong

/-- Reads the arguments of a command. -/
def readOptions (command : Command) (o : CommandOptions) : List String → Request
  | [] => ofOptions command o
  | arg :: rest =>
    if arg = "--" then (if rest.isEmpty then ofOptions command o else .wrong)
    else
      match readArgument command o arg with
      | .complete r => r
      | .next o => readOptions command o rest
      | .needsValue o name =>
        match rest with
        | [] => .wrong
        | value :: rest =>
          match if isValue value then o.set? command name value else none with
          | some o => readOptions command o rest
          | none => .wrong

/-- Reads the letters in front of a command: the request that they complete, if they do, and
whether they ask for a long report. -/
def readFrontLetters (verbose : Bool) : List Char → Except Request Bool
  | [] => .ok verbose
  | 'v' :: cs => if verbose then .error .wrong else readFrontLetters true cs
  | 'V' :: _ => .error .version
  | 'h' :: _ => .error .help
  | _ => .error .wrong

/-- Reads arguments.  `verbose` tells whether a long report has been asked for. -/
def read (verbose : Bool) : List String → Request
  | [] => .wrong
  | arg :: rest =>
    match arg with
    | "generate" => readOptions .generate .none rest
    | "registry" => readOptions .registry .none rest
    | "help" => .help
    | "--help" => .help
    | "--version" => .version
    | "--verbose" => if verbose then .wrong else read true rest
    | _ =>
      match Text.dropStart? "-" arg with
      | none => .wrong
      | some letters =>
        if letters = "" then .wrong
        else
          match readFrontLetters verbose letters.toList with
          | .error r => r
          | .ok verbose => read verbose rest

/-- The request of a list of arguments. -/
def ofArguments (args : List String) : Request := read false args

end Request

/-! ## Running requests -/

/-- What a run of the program shows. -/
structure Outcome where
  /-- The exit code. -/
  exitCode : UInt8
  /-- The text for the standard output. -/
  output : String
  /-- The text for the standard error. -/
  report : String

namespace Outcome

/-- A run that succeeds. -/
def success (output : String) : Outcome := ⟨0, output, ""⟩

/-- A run that fails at something. -/
def failure (what : String) (cause : Fault) : Outcome :=
  ⟨1, "", "Error: " ++ what ++ "\n\nCaused by:\n    " ++ cause.message ++ "\n"⟩

/-- A run without a request. -/
def wrongUse (report : String) : Outcome := ⟨2, "", report⟩

end Outcome

namespace CommandLine

/-- The name of the program and its version. -/
def versionText : String := "typeweaver 0.1.0\n"

/-- How the program is used. -/
def usageText : String :=
  "Usage: typeweaver [-v] generate -c <CONFIG> [--target <models|apis|all>] [--source <SOURCE>]...\n"
    ++ "           [--output-dir <DIR>] [--date-library <LIBRARY>]\n"
    ++ "       typeweaver [-v] registry -c <CONFIG>\n"

/-- The configuration with what options replace in it. -/
def override (config : Config) (o : CommandOptions) : Config :=
  { config with
    sources := if o.sources.isEmpty then config.sources else o.sources
    outputDirectory := o.outputDirectory.getD config.outputDirectory
    options.dateLibrary := o.dateLibrary.getD config.options.dateLibrary }

/-- The lines of texts. -/
def unlines (lines : List String) : String := String.join (lines.map (· ++ "\n"))

/-- The lines of a registry. -/
def registryText (registry : TypeRegistry) : String :=
  unlines (registry.descriptors.map fun d => d.alias_ ++ " -> " ++ d.qualifiedName)

variable {m : Type → Type} [Monad m] [Iterates m] [FileAccess m] [NetworkAccess m]

/-- Runs `generate` under a configuration. -/
def runGenerate (config : Config) (o : CommandOptions) : m Outcome := do
  match ← (Generation.run (m := m) (override config o) (o.target.getD .all)).run with
  | .ok paths => return .success (unlines paths)
  | .error e => return .failure "Generation failed" e

/-- Runs `registry` under a configuration. -/
def runRegistry (config : Config) : m Outcome := do
  match ← (Session.start (m := m) config).run with
  | .error e => return .failure "Failed to load type manifests" e
  | .ok session =>
    match (← session.getRegistry).1 with
    | .ok registry => return .success (registryText registry)
    | .error e => return .failure "Failed to build the type registry" e

/-- Runs the program. -/
def run (args : List String) : m Outcome := do
  match Request.ofArguments args with
  | .version => return .success versionText
  | .help => return .success usageText
  | .wrong => return .wrongUse usageText
  | .run command path options =>
    match ← (Config.load (m := m) path).run with
    | .error e => return .failure ("Failed to load config " ++ path) e
    | .ok config =>
      match command with
      | .generate => runGenerate config options
      | .registry => runRegistry config

end CommandLine

end SchemaBinder
