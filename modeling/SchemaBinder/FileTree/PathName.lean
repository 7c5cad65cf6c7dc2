import SchemaBinder.Text.Blank
/-!
# Path names

Path names as text: their parts between slashes, the name at their end, and the ending of that
name.  A part that is empty or a single dot says nothing, and is left out.
-/

namespace SchemaBinder.PathName

/-- Does a path start at the root? -/
def isRooted (path : String) : Bool := path.toList.head? == some '/'

/-- Does a path end in a slash? -/
def endsInSlash (path : String) : Bool := path.toList.getLast? == some '/'

/-- The parts of a path between its slashes. -/
def parts (path : String) : List String :=
  (Text.segments '/' path).filter (· ≠ "")

/-- The parts of a path that say something. -/
def names (path : String) : List String :=
  (parts path).filter (· ≠ ".")

/-- The name at the end of a path. -/
def fileName? (path : String) : Option String :=
  (names path).getLast?.filter (· ≠ "..")

/-- A name before and after its last dot.  A dot at its front does not count. -/
def splitName (name : String) : String × Option String :=
  match Text.splitLast '.' name.toList with
  | some ([], _) => (name, none)
  | some (stem, ending) => (String.ofList stem, some (String.ofList ending))
  | none => (name, none)

/-- The name at the end of a path without its ending. -/
def stem? (path : String) : Option String :=
  (fileName? path).map (splitName · |>.1)

/-- The ending of the name at the end of a path. -/
def ending? (path : String) : Option String :=
  (fileName? path).bind (splitName · |>.2)

/-- A name below a directory. -/
def join (directory name : String) : String :=
  if directory = "" || endsInSlash directory then directory ++ name
  else directory ++ "/" ++ name

/-- The non-empty beginnings of a list, the shortest first. -/
def fronts (names : List String) : List (List String) :=
  (List.range names.length).map fun n => names.take (n + 1)

/-- The paths of the directories around a path, the nearest first.  The directory that a path
starts from is not among them. -/
def ancestors (path : String) : List String :=
  let start := if isRooted path then "/" else ""
  (fronts (names path).dropLast).reverse.map fun names => start ++ "/".intercalate names

end SchemaBinder.PathName
