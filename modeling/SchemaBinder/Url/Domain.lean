/-!
# Domain names

A host in a URL may be a domain name, which is kept in ASCII.  How a name is written in ASCII, and
which names there are, is laid down in tables of all characters: their small forms, which of them are
none, which stand for others, which can stand side by side and in which direction they are read.

URLs are read with any such rules (`DomainNames`), whatever names they accept.
-/

namespace SchemaBinder

/-- Rules for domain names. -/
class DomainNames where
  /-- The name in ASCII that octets stand for, unless they are no name. -/
  toAscii? : List UInt8 → Option (List Char)

end SchemaBinder
