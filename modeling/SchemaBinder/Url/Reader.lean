import SchemaBinder.Url.Basic
import SchemaBinder.Url.Host
/-!
# Reading URLs

`Url.parse` reads an absolute URL, and `Url.join` one that may be relative to another, as the URL
standard lays down.

Blanks and controls around a URL are dropped, and tabs and line ends inside it are skipped.  In
URLs of special schemes a backslash counts as a slash.  A segment of dots is resolved while the
path is read, and so is one whose dots are percent encoded.  The path of a file URL starts with
one slash, however many are written, and keeps the letter of a drive at its front.
-/

namespace SchemaBinder.Url

/-! ## Paths -/

/-- Is a text a letter and a colon or bar, as the drives of some systems are named? -/
def isDrive : List Char → Bool
  | [c, d] => c.isAlpha && (d == ':' || d == '|')
  | _ => false

/-- Is a text a letter and a colon? -/
def isColonDrive : List Char → Bool
  | [c, ':'] => c.isAlpha
  | _ => false

/-- Does a text start with the segment of a drive? -/
def startsWithDrive : List Char → Bool
  | c :: d :: rest =>
    isDrive [c, d] && (match rest with
      | [] => true
      | e :: _ => e == '/' || e == '\\' || e == '?' || e == '#')
  | _ => false

/-- A segment with its percent-encoded dots decoded, in small letters. -/
def plainDots : List Char → List Char
  | '%' :: '2' :: c :: rest =>
    if c = 'e' ∨ c = 'E' then '.' :: plainDots rest else '%' :: '2' :: c :: plainDots rest
  | c :: rest => c :: plainDots rest
  | [] => []

/-- A path without its last segment.  The drive of a file path stays. -/
def shorten (file : Bool) (path : List (List Char)) : List (List Char) :=
  match path with
  | [s] => if file && isColonDrive s then [s] else []
  | path => path.dropLast

/-- A path with a segment read.  `isLast` tells whether no slash follows the segment. -/
def addSegment (file isLast : Bool) (path : List (List Char)) (segment : List Char) :
    List (List Char) :=
  let dots := plainDots segment
  if dots = ['.', '.'] then
    let path := shorten file path
    if isLast then path ++ [[]] else path
  else if dots = ['.'] then
    if isLast then path ++ [[]] else path
  else
    match file && path.isEmpty && isDrive segment, segment with
    | true, c :: _ => [[c, ':']]
    | _, _ => path ++ [encode notPath segment]

/-- A path with segments read one after the other. -/
def addSegments (file : Bool) : List (List Char) → List (List Char) → List (List Char)
  | path, [] => path
  | path, [s] => addSegment file true path s
  | path, s :: rest => addSegments file (addSegment file false path s) rest

/-- The segments of a file path after a single slash. -/
def singleSlash (path : List (List Char)) : List (List Char) :=
  match path.dropWhile (·.isEmpty) with
  | [] => [[]]
  | path => path

/-- The segments of a text, as far as a question mark or a number sign. -/
def rawSegments (special : Bool) (cs : List Char) : List (List Char) :=
  Text.split '/' (cs.map fun c => if special && c == '\\' then '/' else c)

/-- Reads the segments after a first slash onto a path. -/
def readPath (scheme : List Char) (start : List (List Char)) (cs : List Char) : List (List Char) :=
  let file := isFile scheme
  let path := addSegments file start (rawSegments (isSpecial scheme) cs)
  if file then singleSlash path else path

/-! ## Parts -/

/-- Does a character end the path? -/
def endsPath (c : Char) : Bool := c == '?' || c == '#'

/-- Does a character end the authority? -/
def endsAuthority (special : Bool) (c : Char) : Bool :=
  c == '/' || endsPath c || (special && c == '\\')

/-- Is a character a slash to a URL of this kind? -/
def isSlash (special : Bool) (c : Char) : Bool := c == '/' || (special && c == '\\')

/-- A URL with the query and the fragment that a text starts with. -/
def withTail (url : Url) (cs : List Char) : Url :=
  let (before, fragment) := match Text.splitFirst '#' cs with
    | some (before, f) => (before, some (encode notFragment f))
    | none => (cs, none)
  let query := match before with
    | [] => none
    | _ :: q => some (encode (if isSpecial url.scheme then notSpecialQuery else notQuery) q)
  { url with query, fragment }

/-- A URL with the fragment of a text that starts with a number sign. -/
def withFragment (url : Url) (cs : List Char) : Url :=
  { url with fragment := some (encode notFragment cs.tail) }

/-- The scheme in front of the first colon, and what follows it. -/
def splitScheme (cs : List Char) : Option (List Char × List Char) :=
  match Text.splitFirst ':' cs with
  | some (c :: scheme, rest) =>
    if c.isAlpha && scheme.all fun c => c.isAlphanum || c == '+' || c == '-' || c == '.' then
      some ((c :: scheme).map Char.toLower, rest)
    else none
  | _ => none

/-- User name and password as they are written. -/
def readUser (cs : List Char) : List Char :=
  let (name, password) := match Text.splitFirst ':' cs with
    | some (name, password) => (name, password)
    | none => (cs, [])
  let written := encode notUser name ++
    (if password.isEmpty then [] else ':' :: encode notUser password)
  if written.isEmpty then [] else written ++ ['@']

/-- What stands in front of the first colon outside brackets, and the rest from the colon on. -/
def splitPort (inBrackets : Bool) : List Char → List Char × List Char
  | [] => ([], [])
  | c :: cs =>
    if c = ':' ∧ !inBrackets then ([], c :: cs)
    else
      let (host, rest) := splitPort (if c = '[' then true else if c = ']' then false else inBrackets) cs
      (c :: host, rest)

/-- The port that a text names. -/
def readPort (scheme cs : List Char) : Except UrlFailure (Option Nat) :=
  if cs.isEmpty then .ok none
  else if cs.all Char.isDigit then
    let n := cs.foldl (fun n c => min (n * 10 + (c.toNat - '0'.toNat)) 0x10000) 0
    if 0x10000 ≤ n then .error .invalidPort
    else .ok (if usualPort scheme = some n then none else some n)
  else .error .invalidPort

variable [DomainNames]

/-- The authority that a text writes. -/
def readAuthority (scheme cs : List Char) : Except UrlFailure Authority :=
  let special := isSpecial scheme
  let (userInfo, rest) := match Text.splitLast '@' cs with
    | some (u, rest) => (some u, rest)
    | none => (none, cs)
  let (hostText, portText) := splitPort false rest
  let user := (userInfo.map readUser).getD []
  if userInfo = some [] ∧ rest.isEmpty ∧ !special then .error .emptyHost
  else if hostText.isEmpty ∧ (special ∨ !portText.isEmpty ∨ !user.isEmpty) then .error .emptyHost
  else do
    let host ← if special then readHost hostText else readOpaqueHost hostText
    let port ← match portText with
      | [] => .ok none
      | _ :: ds => readPort scheme ds
    return ⟨user, host, port⟩

/-- The URL after a scheme and two slashes. -/
def afterSlashes (scheme cs : List Char) : Except UrlFailure Url := do
  let special := isSpecial scheme
  let authority ← readAuthority scheme (cs.takeWhile (!endsAuthority special ·))
  let rest := cs.dropWhile (!endsAuthority special ·)
  let pathText := rest.takeWhile (!endsPath ·)
  let path := match pathText with
    | [] => if special then [[]] else []
    | _ :: segments => readPath scheme [] segments
  return withTail ⟨scheme, some authority, .segments path, none, none⟩ (rest.dropWhile (!endsPath ·))

/-- The URL after a scheme that is not special. -/
def afterOtherScheme (scheme cs : List Char) : Except UrlFailure Url :=
  match cs with
  | '/' :: '/' :: rest => afterSlashes scheme rest
  | cs =>
    let pathText := cs.takeWhile (!endsPath ·)
    let path : Path := match pathText with
      | '/' :: segments => .segments (readPath scheme [] segments)
      | text => .opaque_ (encode notGraphic text)
    .ok (withTail ⟨scheme, none, path, none, none⟩ (cs.dropWhile (!endsPath ·)))

/-! ## File URLs -/

/-- The scheme of files. -/
def fileScheme : List Char := "file".toList

/-- A file URL with a host and the path that a text writes onto a path. -/
def fileUrl (host : List Char) (start : List (List Char)) (cs : List Char) : Url :=
  let pathText := cs.takeWhile (!endsPath ·)
  withTail ⟨fileScheme, some ⟨[], host, none⟩, .segments (readPath fileScheme start pathText),
    none, none⟩ (cs.dropWhile (!endsPath ·))

/-- The file URL after two slashes. -/
def fileAfterSlashes (cs : List Char) : Except UrlFailure Url := do
  let hostText := cs.takeWhile (!endsAuthority true ·)
  let rest := cs.dropWhile (!endsAuthority true ·)
  if isDrive hostText then return fileUrl [] [] cs
  else
    let host ← if hostText.isEmpty then .ok [] else readHost hostText
    let host := if host = "localhost".toList then [] else host
    let rest := match rest with
      | c :: cs => if isSlash true c then cs else c :: cs
      | [] => []
    return fileUrl host [] rest

/-- The host of a URL. -/
def host (url : Url) : List Char := (url.authority.map (·.host)).getD []

/-- The names of the segments of a path. -/
def names (url : Url) : List (List Char) :=
  match url.path with
  | .segments names => names
  | .opaque_ _ => []

/-- The drive at the front of a path. -/
def drive (url : Url) : List (List Char) := (url.names.take 1).filter isColonDrive

/-- The file URL that a text without a scheme names, or one after the scheme of files. -/
def readFile (base : Option Url) (cs : List Char) : Except UrlFailure Url :=
  match cs, base with
  | c :: d :: rest, base =>
    if isSlash true c && isSlash true d then fileAfterSlashes rest
    else if isSlash true c then slash base (d :: rest)
    else noSlash base cs
  | [c], base => if isSlash true c then slash base [] else noSlash base cs
  | [], base => noSlash base []
where
  /-- The URL after one slash. -/
  slash (base : Option Url) (cs : List Char) : Except UrlFailure Url :=
    match base with
    | some b =>
      if startsWithDrive cs then .ok (fileUrl [] [] cs)
      else if b.drive.isEmpty then .ok (fileUrl b.host [] cs)
      else .ok (fileUrl [] b.drive cs)
    | none => .ok (fileUrl [] [] cs)
  /-- The URL without a slash. -/
  noSlash (base : Option Url) (cs : List Char) : Except UrlFailure Url :=
    match base with
    | none => .ok (fileUrl [] [] cs)
    | some b =>
      match cs with
      | [] => .ok { b with fragment := none }
      | c :: _ =>
        if c = '#' then .ok (b.withFragment cs)
        else if c = '?' then .ok (b.withTail cs)
        else if startsWithDrive cs then .ok (fileUrl [] [] cs)
        else .ok (fileUrl b.host (shorten true b.names) cs)

/-! ## Whole URLs -/

/-- The URL that a text without a scheme names relative to one of segments. -/
def readRelative (base : Url) (cs : List Char) : Except UrlFailure Url :=
  let special := isSpecial base.scheme
  let onto (start : List (List Char)) (cs : List Char) : Url :=
    withTail { base with path := .segments (readPath base.scheme start (cs.takeWhile (!endsPath ·))) }
      (cs.dropWhile (!endsPath ·))
  match cs with
  | [] => .ok { base with fragment := none }
  | c :: rest =>
    if c = '#' then .ok (base.withFragment cs)
    else if c = '?' then .ok (base.withTail cs)
    else if isSlash special c then
      match rest with
      | d :: rest' =>
        if isSlash special d then
          afterSlashes base.scheme (if special then rest'.dropWhile (isSlash true) else rest')
        else .ok (onto [] rest)
      | [] => .ok (onto [] [])
    else .ok (onto (shorten false base.names) cs)

/-- A text without the characters that every URL is read without. -/
def cleaned (s : String) : List Char :=
  let blank (c : Char) : Bool := c.toNat ≤ 0x20
  (Text.dropEnd blank (s.toList.dropWhile blank)).filter fun c => c != '\t' && c != '\n' && c != '\r'

/-- The URL that a text names, relative to another one if it has no scheme. -/
def read (base : Option Url) (s : String) : Except UrlFailure Url :=
  let cs := cleaned s
  match splitScheme cs with
  | some (scheme, rest) =>
    if isFile scheme then readFile (base.filter fun b => isFile b.scheme) rest
    else if isSpecial scheme then
      let slashes := (rest.takeWhile (isSlash true)).length
      match base with
      | some b =>
        if slashes < 2 ∧ b.scheme = scheme then readRelative b rest
        else afterSlashes scheme (rest.dropWhile (isSlash true))
      | none => afterSlashes scheme (rest.dropWhile (isSlash true))
    else afterOtherScheme scheme rest
  | none =>
    match base with
    | none => .error .relativeWithoutBase
    | some b =>
      if cs.head? = some '#' then .ok (b.withFragment cs)
      else
        match b.path with
        | .opaque_ _ => .error .relativeWithOpaqueBase
        | .segments _ => if isFile b.scheme then readFile (some b) cs else readRelative b cs

/-- The URL that a text names. -/
def parse (s : String) : Except UrlFailure Url := read none s

/-- The URL that a text names relative to another. -/
def join (base : Url) (s : String) : Except UrlFailure Url := read (some base) s

end SchemaBinder.Url
