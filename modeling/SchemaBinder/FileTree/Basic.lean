import SchemaBinder.Assoc
import SchemaBinder.FileTree.Failure
import SchemaBinder.FileTree.PathName
/-!
# File trees

A file tree is a finite table of directories and files under their *places*.  A place is the
path of an entry from the root without any detour: a slash before each name, and nothing for the
root itself.

A path is walked name by name.  All names but the last must lead to directories; the last one
may be free.  `readText`, `writeText` and `makeDirectory` fail as a system call fails, and a
failed operation leaves the tree as it was.

This is a file system in which a program is alone and has all rights.  There are no links and no
special files, so an entry has one place; nothing is forbidden or full, so what can be written is
written whole; and no operation takes time.
-/

namespace SchemaBinder

/-- An entry of a file tree. -/
inductive FileNode where
  /-- A directory. -/
  | directory
  /-- A file with its text, unless its content is no text. -/
  | file (text : Option String)
deriving DecidableEq, Repr

/-- Directories and files. -/
structure FileTree where
  /-- The entries under their places. -/
  nodes : SortedTable FileNode
  /-- The place that relative paths start from. -/
  home : String

namespace FileTree

/-- The greatest number of octets in a name. -/
def maxName : Nat := 255

/-- The greatest number of octets in a path. -/
def maxPath : Nat := 4095

/-- The entry at a place.  The root is a directory. -/
def node? (tree : FileTree) (place : String) : Option FileNode :=
  if place = "" then some .directory else tree.nodes.get? place

/-- The tree with an entry at a place. -/
def put (tree : FileTree) (place : String) (node : FileNode) : FileTree :=
  { tree with nodes := tree.nodes.insert place node }

/-! ## Walking a path -/

/-- The place around a place. -/
def outer (place : String) : String :=
  match Text.splitLast '/' place.toList with
  | some (around, _) => String.ofList around
  | none => ""

/-- The place of a name in a directory. -/
def inner (place name : String) : String := place ++ "/" ++ name

/-- The place that one part of a path leads to.  A part that is no name leads to a directory. -/
def step (place part : String) : String :=
  if part = "." then place else if part = ".." then outer place else inner place part

/-- Is a part of a path too long to be a name? -/
def isTooLong (part : String) : Bool := maxName < part.utf8ByteSize

/-- The directory that one part of a path leads to. -/
def enter (tree : FileTree) (place part : String) : Except FileFailure String :=
  if isTooLong part then .error .nameTooLong
  else
    match tree.node? (step place part) with
    | some .directory => .ok (step place part)
    | some (.file _) => .error .notDirectory
    | none => .error .notFound

/-- The end of a path: the place it leads to, and what kind of path leads there. -/
structure Target where
  /-- The place. -/
  place : String
  /-- Is the last part of the path a name? -/
  isNamed : Bool
  /-- Does a slash follow the last part? -/
  isClosed : Bool

/-- The end of a path. -/
def target (tree : FileTree) (path : String) : Except FileFailure Target :=
  if path.toList.contains (Char.ofNat 0) then .error .zeroInName
  else if path = "" then .error .notFound
  else if maxPath < path.utf8ByteSize then .error .nameTooLong
  else
    let parts := PathName.parts path
    let start := if PathName.isRooted path then "" else tree.home
    match parts.dropLast.foldlM tree.enter start, parts.getLast? with
    | .error e, _ => .error e
    | .ok place, none => .ok ⟨place, false, true⟩
    | .ok place, some part =>
      if isTooLong part then .error .nameTooLong
      else .ok ⟨step place part, part ≠ "." && part ≠ "..", PathName.endsInSlash path⟩

/-- Does a path lead to a directory? -/
def isDirectory (tree : FileTree) (path : String) : Bool :=
  match tree.target path with
  | .ok t => tree.node? t.place == some .directory
  | .error _ => false

/-! ## Operations -/

/-- The text of a file. -/
def readText (tree : FileTree) (path : String) : Except FileFailure String := do
  let t ← tree.target path
  match tree.node? t.place with
  | none => .error .notFound
  | some .directory => .error .isDirectory
  | some (.file text) =>
    if t.isClosed then .error .notDirectory
    else
      match text with
      | some s => .ok s
      | none => .error .notText

/-- Writes a file, which is made if its place is free. -/
def writeText (tree : FileTree) (path text : String) : Except FileFailure FileTree := do
  let t ← tree.target path
  if !t.isNamed || t.isClosed || tree.node? t.place == some .directory then .error .isDirectory
  else .ok (tree.put t.place (.file (some text)))

/-- Makes a directory at a free place. -/
def makeDirectory (tree : FileTree) (path : String) : Except FileFailure FileTree := do
  let t ← tree.target path
  if t.isNamed && (tree.node? t.place).isNone then .ok (tree.put t.place .directory)
  else .error .alreadyExists

/-- Makes the first of some paths a directory.  The others are the directories around it, the
nearest first, and are made when they are missing. -/
def makeEach (tree : FileTree) : List String → Except FileFailure Unit × FileTree
  | [] => (.ok (), tree)
  | path :: around =>
    match tree.makeDirectory path with
    | .ok made => (.ok (), made)
    | .error .notFound =>
      match tree.makeEach around with
      | (.error e, tree) => (.error e, tree)
      | (.ok (), tree) =>
        match tree.makeDirectory path with
        | .ok made => (.ok (), made)
        | .error e => if tree.isDirectory path then (.ok (), tree) else (.error e, tree)
    | .error e => if tree.isDirectory path then (.ok (), tree) else (.error e, tree)

/-- Makes a directory and the ones around it, as far as they are missing.  Directories that were
made before a failure stay. -/
def makeDirectories (tree : FileTree) (path : String) : Except FileFailure Unit × FileTree :=
  if path = "" then (.ok (), tree) else tree.makeEach (path :: PathName.ancestors path)

/-- The tree without an entry and everything below it. -/
def remove (tree : FileTree) (path : String) : FileTree :=
  match tree.target path with
  | .ok t =>
    { tree with nodes := tree.nodes.filterKeys fun place =>
        place ≠ t.place && !Text.hasStart (t.place ++ "/") place }
  | .error _ => tree

/-- The empty tree with one directory, where relative paths start. -/
def ofHome (home : String) : FileTree :=
  let places := (PathName.fronts (PathName.names home)).map fun names =>
    String.join (names.map ("/" ++ ·))
  { nodes := .ofList (places.map (·, .directory)), home := places.getLastD "" }

end FileTree

end SchemaBinder
