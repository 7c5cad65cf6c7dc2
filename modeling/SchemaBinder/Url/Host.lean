import SchemaBinder.Text.Blank
import SchemaBinder.Url.Domain
import SchemaBinder.Url.Failure
import SchemaBinder.Url.Percent
/-!
# Hosts

A host is an address in brackets, an address of four octets, or a domain name.  A domain name
whose last label is a number is always an address.  All three are kept in the form in which they
are written back.
-/

namespace SchemaBinder.Url

/-! ## Addresses of four octets -/

/-- The value of digits to a base, all of which must be below it. -/
def digitsValue? (base : Nat) (cs : List Char) : Option Nat :=
  cs.foldl (fun n c => n.bind fun n =>
    (hexValue? c).bind fun d => if d < base then some (n * base + d) else none) (some 0)

/-- The number that one label of an address writes: decimal, octal after `0`, hexadecimal after
`0x`. -/
def ipv4Number? (cs : List Char) : Option Nat :=
  match cs with
  | [] => none
  | '0' :: 'x' :: rest => digitsValue? 16 rest
  | '0' :: 'X' :: rest => digitsValue? 16 rest
  | '0' :: c :: rest => digitsValue? 8 (c :: rest)
  | cs => digitsValue? 10 cs

/-- The labels of a name without the empty one after a final dot. -/
def labels (cs : List Char) : List (List Char) :=
  let ls := Text.split '.' cs
  if 1 < ls.length ∧ ls.getLast? = some [] then ls.dropLast else ls

/-- Is the last label of a name a number? -/
def endsInNumber (cs : List Char) : Bool :=
  match (labels cs).getLast? with
  | some last => (!last.isEmpty && last.all Char.isDigit) || (ipv4Number? last).isSome
  | none => false

/-- The four octets of an address, of which the last label fills the ones that are left. -/
def ipv4? (cs : List Char) : Option (List Nat) := do
  let numbers ← (labels cs).mapM ipv4Number?
  let last ← numbers.getLast?
  let firsts := numbers.dropLast
  if 3 < firsts.length ∨ firsts.any (255 < ·) ∨ Nat.pow 256 (4 - firsts.length) ≤ last then none
  else
    let rest := (List.range (4 - firsts.length)).reverse.map fun k => last / Nat.pow 256 k % 256
    some (firsts ++ rest)

/-- An address of four octets in decimal. -/
def renderIpv4 (octets : List Nat) : List Char :=
  ['.'].intercalate (octets.map (Nat.toDigits 10))

/-! ## Addresses in brackets -/

/-- The octet that a decimal text without leading zeros writes. -/
def octet? (cs : List Char) : Option Nat :=
  match cs with
  | [] => none
  | '0' :: _ :: _ => none
  | cs => (digitsValue? 10 cs).filter (· < 256)

/-- The pieces of sixteen bits that the text between two colons writes.  Only the last one of an
address may be four octets, which are two pieces. -/
def pieces? (isLast : Bool) (cs : List Char) : Option (List Nat) :=
  if isLast && cs.contains '.' then
    match (Text.split '.' cs).mapM octet? with
    | some [a, b, c, d] => some [a * 256 + b, c * 256 + d]
    | _ => none
  else if cs.isEmpty || 4 < cs.length then none
  else (digitsValue? 16 cs).map fun n => [n]

/-- The pieces of a text with colons. -/
def pieceList? (isLast : Bool) : List (List Char) → Option (List Nat)
  | [] => some []
  | [cs] => pieces? isLast cs
  | cs :: rest => do return (← pieces? false cs) ++ (← pieceList? isLast rest)

/-- What stands before and after the first double colon. -/
def splitGap : List Char → Option (List Char × List Char)
  | ':' :: ':' :: rest => some ([], rest)
  | c :: rest => (splitGap rest).map fun p => (c :: p.1, p.2)
  | [] => none

/-- The pieces of one side of a double colon, which may be empty. -/
def side? (isLast : Bool) (cs : List Char) : Option (List Nat) :=
  if cs.isEmpty then some [] else pieceList? isLast (Text.split ':' cs)

/-- The eight pieces of an address.  A double colon stands for one or more pieces of zero. -/
def ipv6? (cs : List Char) : Option (List Nat) :=
  match splitGap cs with
  | some (left, right) => do
    let l ← side? false left
    let r ← side? true right
    if l.length + r.length < 8 then
      some (l ++ List.replicate (8 - l.length - r.length) 0 ++ r)
    else none
  | none => (pieceList? true (Text.split ':' cs)).filter (·.length == 8)

/-- The length of the run of zeros at the front. -/
def zeros (pieces : List Nat) : Nat := (pieces.takeWhile (· == 0)).length

/-- The place and length of the first longest run of two or more zeros. -/
def longestGap (pieces : List Nat) : Option (Nat × Nat) :=
  (List.range pieces.length).foldl (fun best i =>
    let n := zeros (pieces.drop i)
    match best with
    | some (_, m) => if m < n then some (i, n) else best
    | none => if 1 < n then some (i, n) else none) none

/-- An address in brackets, its longest run of zeros written as a double colon. -/
def renderIpv6 (pieces : List Nat) : List Char :=
  let write (ps : List Nat) : List Char := [':'].intercalate (ps.map (Nat.toDigits 16))
  let body := match longestGap pieces with
    | some (i, n) => write (pieces.take i) ++ [':', ':'] ++ write (pieces.drop (i + n))
    | none => write pieces
  '[' :: body ++ [']']

/-! ## Hosts -/

/-- The host in brackets, if the text starts with one. -/
def bracketed (cs : List Char) : Except UrlFailure (List Char) :=
  match cs.getLast? with
  | some ']' =>
    match ipv6? cs.dropLast.tail with
    | some pieces => .ok (renderIpv6 pieces)
    | none => .error .invalidIpv6
  | _ => .error .invalidIpv6

/-- The host that a text names in a URL of a special scheme. -/
def readHost [DomainNames] (cs : List Char) : Except UrlFailure (List Char) :=
  if cs.head? = some '[' then bracketed cs
  else
    match DomainNames.toAscii? (decode cs) with
    | none => .error .invalidDomainName
    | some domain =>
      if domain.isEmpty then .error .emptyHost
      else if endsInNumber domain then
        match ipv4? domain with
        | some octets => .ok (renderIpv4 octets)
        | none => .error .invalidIpv4
      else .ok domain

/-- May the host of another URL not hold a character? -/
def isForbiddenOpaque (c : Char) : Bool :=
  c == '\x00' || "\t\n\r #/:<>?@[\\]^|".toList.contains c

/-- The host that a text names in a URL of another scheme. -/
def readOpaqueHost (cs : List Char) : Except UrlFailure (List Char) :=
  if cs.head? = some '[' then bracketed cs
  else if cs.any isForbiddenOpaque then .error .invalidDomainCharacter
  else .ok (encode notGraphic cs)

end SchemaBinder.Url
