/-!
# Failures of file access

Why a file could not be read or written, with the wording of the operating system.
-/

namespace SchemaBinder

/-- Why a file operation failed. -/
inductive FileFailure where
  /-- A part of the path does not exist. -/
  | notFound
  /-- A file is there already. -/
  | alreadyExists
  /-- A directory where a file is wanted. -/
  | isDirectory
  /-- A file where a directory is wanted. -/
  | notDirectory
  /-- A part of the path, or all of it, is too long. -/
  | nameTooLong
  /-- The path holds the character of code zero. -/
  | zeroInName
  /-- The content of the file is not text. -/
  | notText
  /-- Any other cause, in the words of the system. -/
  | other (cause : String)
deriving DecidableEq, Repr

/-- The wording of a failure. -/
def FileFailure.message : FileFailure → String
  | notFound => "No such file or directory (os error 2)"
  | alreadyExists => "File exists (os error 17)"
  | isDirectory => "Is a directory (os error 21)"
  | notDirectory => "Not a directory (os error 20)"
  | nameTooLong => "File name too long (os error 36)"
  | zeroInName => "file name contained an unexpected NUL byte"
  | notText => "stream did not contain valid UTF-8"
  | other cause => cause

end SchemaBinder
