namespace VulnProbe

/-- A host. An address of version 4 is one number below `2^32`; one of version 6 is eight numbers
    below `2^16`. -/
inductive Host where
  | name (text : String)
  | ipv4 (address : Nat)
  | ipv6 (pieces : List Nat)
  deriving DecidableEq, Repr, Inhabited

namespace Host

/-- Four decimal numbers with points between them. -/
def ipv4Text (n : Nat) : String :=
  ".".intercalate ([n / 16777216 % 256, n / 65536 % 256, n / 256 % 256, n % 256].map toString)

/-- The start and the length of the first longest run of zeros, read from the index `i` on. -/
def longestZeros (i : Nat) : List Nat → Nat × Nat
  | [] => (i, 0)
  | n :: rest =>
    let here := ((n :: rest).takeWhile (· == 0)).length
    let later := longestZeros (i + 1) rest
    if 0 < here && later.2 ≤ here then (i, here) else later

/-- Numbers in base 16 with colons between them. -/
def piecesText (pieces : List Nat) : String :=
  ":".intercalate (pieces.map fun n => String.ofList (Nat.toDigits 16 n))

/-- The pieces with the first longest run of two zeros or more left out. -/
def ipv6Text (pieces : List Nat) : String :=
  let (start, length) := longestZeros 0 pieces
  if length < 2 then piecesText pieces
  else piecesText (pieces.take start) ++ "::" ++ piecesText (pieces.drop (start + length))

/-- The host as it stands in a URL. -/
def text : Host → String
  | .name s => s
  | .ipv4 n => ipv4Text n
  | .ipv6 pieces => "[" ++ ipv6Text pieces ++ "]"

/-- Whether the host is an address and not a name. -/
def isAddress : Host → Bool
  | .name _ => false
  | _ => true

end Host

/-- What is wrong with the text of a URL. -/
inductive UrlIssue where
  | emptyHost
  | badInternationalName
  | badPort
  | badIpv4
  | badIpv6
  | badHostCharacter
  | noScheme
  deriving DecidableEq, Repr

/-- The text of an issue. -/
def UrlIssue.message : UrlIssue → String
  | .emptyHost => "empty host"
  | .badInternationalName => "invalid international domain name"
  | .badPort => "invalid port number"
  | .badIpv4 => "invalid IPv4 address"
  | .badIpv6 => "invalid IPv6 address"
  | .badHostCharacter => "invalid domain character"
  | .noScheme => "relative URL without a base"

end VulnProbe
