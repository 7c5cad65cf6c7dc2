/-!
# Failures of reading a URL
-/

namespace SchemaBinder

/-- Why a text is not a URL. -/
inductive UrlFailure where
  /-- A reference that is relative, and nothing to resolve it against. -/
  | relativeWithoutBase
  /-- A reference to be resolved against a URL that has no path of segments. -/
  | relativeWithOpaqueBase
  /-- A URL that needs a host and has none. -/
  | emptyHost
  /-- A port that is not a number of 16 bits. -/
  | invalidPort
  /-- A host in brackets that is not an address. -/
  | invalidIpv6
  /-- A host that ends in a number and is not an address. -/
  | invalidIpv4
  /-- A host with a character that no domain holds. -/
  | invalidDomainCharacter
  /-- A host that is not a valid international name. -/
  | invalidDomainName
deriving DecidableEq, Repr

/-- The wording of a failure. -/
def UrlFailure.message : UrlFailure → String
  | relativeWithoutBase => "relative URL without a base"
  | relativeWithOpaqueBase => "relative URL with a cannot-be-a-base base"
  | emptyHost => "empty host"
  | invalidPort => "invalid port number"
  | invalidIpv6 => "invalid IPv6 address"
  | invalidIpv4 => "invalid IPv4 address"
  | invalidDomainCharacter => "invalid domain character"
  | invalidDomainName => "invalid international domain name"

end SchemaBinder
