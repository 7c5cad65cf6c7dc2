import SchemaBinder.Text.Octets
/-!
# URLs

The parts of a URL in the form in which they are written back.  Two URLs are the same if they
are written alike.
-/

namespace SchemaBinder

namespace Url

/-- What stands between the two slashes and the path. -/
structure Authority where
  /-- User name and password with the sign at their end, or nothing. -/
  user : List Char
  /-- The host. -/
  host : List Char
  /-- The port, unless it is the usual one. -/
  port : Option Nat
deriving DecidableEq, Repr

/-- The path of a URL. -/
inductive Path where
  /-- A text without segments. -/
  | opaque_ (text : List Char)
  /-- Segments, each written after a slash. -/
  | segments (names : List (List Char))
deriving DecidableEq, Repr

/-- A path as it is written. -/
def Path.text : Path → List Char
  | opaque_ text => text
  | segments names => names.flatMap ('/' :: ·)

end Url

/-- A URL. -/
structure Url where
  /-- The scheme in small letters. -/
  scheme : List Char
  /-- The host and what belongs to it. -/
  authority : Option Url.Authority
  /-- The path. -/
  path : Url.Path
  /-- The query after its question mark. -/
  query : Option (List Char)
  /-- The fragment after its number sign. -/
  fragment : Option (List Char)
deriving DecidableEq, Repr

namespace Url

/-- The schemes whose URLs have a host and a path of segments, and their usual ports. -/
def specialSchemes : List (String × Option Nat) :=
  [("http", some 80), ("https", some 443), ("ws", some 80), ("wss", some 443), ("ftp", some 21),
    ("file", none)]

/-- Is a scheme special? -/
def isSpecial (scheme : List Char) : Bool :=
  specialSchemes.any fun p => p.1.toList == scheme

/-- The usual port of a scheme. -/
def usualPort (scheme : List Char) : Option Nat :=
  (specialSchemes.find? fun p => p.1.toList == scheme).bind (·.2)

/-- Is a scheme the one of files? -/
def isFile (scheme : List Char) : Bool := scheme == "file".toList

/-- The authority as it is written. -/
def Authority.text (a : Authority) : List Char :=
  let port := match a.port with
    | some n => ':' :: Nat.toDigits 10 n
    | none => []
  '/' :: '/' :: (a.user ++ a.host ++ port)

/-- What stands between scheme and path.  Without an authority, a path that would look like one
is kept apart by a dot. -/
def beforePath (url : Url) : List Char :=
  match url.authority with
  | some a => a.text
  | none =>
    match url.path with
    | .segments ([] :: _ :: _) => ['/', '.']
    | _ => []

/-- The characters of a URL. -/
def chars (url : Url) : List Char :=
  let query := match url.query with
    | some q => '?' :: q
    | none => []
  let fragment := match url.fragment with
    | some f => '#' :: f
    | none => []
  url.scheme ++ ':' :: (url.beforePath ++ url.path.text ++ query ++ fragment)

/-- The text of a URL. -/
def render (url : Url) : String := String.ofList url.chars

end Url

end SchemaBinder
