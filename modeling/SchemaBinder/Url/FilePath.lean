import SchemaBinder.Url.Basic
import SchemaBinder.Url.Percent
/-!
# Paths of file URLs
-/

namespace SchemaBinder.Url

/-- Does a path end in the letter of a drive? -/
def endsInDrive (bs : List UInt8) : Bool :=
  match bs.reverse with
  | d :: c :: _ :: _ => (Char.ofNat c.toNat).isAlpha && (d.toNat == ':'.toNat || d.toNat == '|'.toNat)
  | _ => false

/-- The path that a URL of segments names on this machine: its segments with their percent
signs decoded, a slash before each.  There is none if the URL has a host. -/
def toFilePath? (url : Url) : Option String :=
  match url.path, url.authority.map (·.host) with
  | .opaque_ _, _ => none
  | .segments _, some (_ :: _) => none
  | .segments names, _ =>
    let bs := names.flatMap fun name => '/'.toNat.toUInt8 :: decode name
    let bs := if endsInDrive bs then bs ++ ['/'.toNat.toUInt8] else bs
    some (String.ofList (Text.ofOctets bs))

end SchemaBinder.Url
