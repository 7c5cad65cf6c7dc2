import SchemaBinder.CommandLine
/-!
# The program

The only module that acts: it runs the command line on the files of the machine.  It is offline, so
a document that has to come over the network is missing.
-/

namespace SchemaBinder

/-- The number and the words of an error of the system. -/
def systemError? : IO.Error → Option (UInt32 × String)
  | .alreadyExists _ code words | .invalidArgument _ code words | .permissionDenied _ code words
  | .resourceExhausted _ code words | .inappropriateType _ code words | .noSuchThing _ code words
  | .interrupted _ code words | .noFileOrDirectory _ code words | .otherError code words
  | .resourceBusy code words | .resourceVanished code words | .unsupportedOperation code words
  | .hardwareFault code words | .unsatisfiedConstraints code words | .illegalOperation code words
  | .protocolError code words | .timeExpired code words => some (code, words)
  | .unexpectedEof | .userError _ => none

/-- The failure that an error of the machine stands for. -/
def FileFailure.ofError (e : IO.Error) : FileFailure :=
  match systemError? e with
  | some (2, _) => .notFound
  | some (17, _) => .alreadyExists
  | some (20, _) => .notDirectory
  | some (21, _) => .isDirectory
  | some (36, _) => .nameTooLong
  | some (code, words) => .other s!"{words} (os error {code})"
  | none => .other e.toString

/-- An action whose errors are failures. -/
def FileFailure.catching {α : Type} (action : IO α) : IO (Except FileFailure α) :=
  try
    return .ok (← action)
  catch e => return .error (ofError e)

/-- Access to the files of the machine. -/
instance : FileAccess IO where
  readText path := do
    match ← FileFailure.catching (IO.FS.readBinFile path) with
    | .error e => return .error e
    | .ok octets =>
      match String.fromUTF8? octets with
      | some text => return .ok text
      | none => return .error .notText
  writeText path text := FileFailure.catching (IO.FS.writeFile path text)
  makeDirectories path :=
    if path = "" then return .ok () else FileFailure.catching (IO.FS.createDirAll path)

/-- There is no client for the network here. -/
instance : NetworkAccess IO where
  request url := return Network.offline.reply url
  requestWithin seconds url := return Network.offline.replyWithin seconds url

instance : Iterates IO where
  iterate step start := repeatM step start

end SchemaBinder

/-- Runs the program with the arguments of the command line. -/
def main (args : List String) : IO UInt32 := do
  let outcome ← SchemaBinder.CommandLine.run (m := IO) args
  IO.print outcome.output
  IO.eprint outcome.report
  return outcome.exitCode.toUInt32
