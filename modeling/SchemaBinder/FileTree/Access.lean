import SchemaBinder.FileTree.Basic
/-!
# Access to files

What the program does with files: it reads a file, writes a file, and makes a directory.  A
program that is written over `FileAccess` runs on a file tree as well as on the files of a
machine.
-/

namespace SchemaBinder

/-- Access to files in a monad. -/
class FileAccess (m : Type → Type) where
  /-- The text of a file. -/
  readText : String → m (Except FileFailure String)
  /-- Writes the text of a file. -/
  writeText : String → String → m (Except FileFailure Unit)
  /-- Makes a directory and the ones around it. -/
  makeDirectories : String → m (Except FileFailure Unit)

/-- Access to the files of a tree, which is the state. -/
instance {m : Type → Type} [Monad m] : FileAccess (StateT FileTree m) where
  readText path tree := pure (tree.readText path, tree)
  writeText path text tree :=
    match tree.writeText path text with
    | .ok tree => pure (.ok (), tree)
    | .error e => pure (.error e, tree)
  makeDirectories path tree := pure (tree.makeDirectories path)

end SchemaBinder
