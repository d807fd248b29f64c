import VulnProbe.Text.Basic
import VulnProbe.Text.Hex
import VulnProbe.Url.Host

namespace VulnProbe.Address

/-- The number that digits write in a base, if they are digits of that base. -/
def number? (base : Nat) (ds : List Char) : Option Nat :=
  ds.foldl (fun n? d => do
    let n ← n?
    let v ← Hex.value? d
    if v < base then pure (n * base + v) else none) (some 0)

/-- One part of an IPv4 address, in base 8, 10 or 16. No digits after a mark of the base mean zero. -/
def ipv4Number? : List Char → Option Nat
  | [] => none
  | '0' :: 'x' :: ds => number? 16 ds
  | '0' :: 'X' :: ds => number? 16 ds
  | '0' :: d :: ds => number? 8 (d :: ds)
  | ds => number? 10 ds

/-- The parts of a host name, an empty one at the end left out. -/
def nameParts (cs : List Char) : List (List Char) :=
  let parts := Text.pieces (· == '.') cs
  if parts.getLast? == some [] then parts.dropLast else parts

/-- Whether the last part of a host name is a number, so that the name must be an address. -/
def endsInNumber (cs : List Char) : Bool :=
  match (nameParts cs).getLast? with
  | some last => (!last.isEmpty && last.all Char.isDigit) || (ipv4Number? last).isSome
  | none => false

/-- The address of a name that ends in a number. Its last part may stand for several bytes. -/
def ipv4? (cs : List Char) : Option Nat := do
  let parts := nameParts cs
  let numbers ← parts.mapM ipv4Number?
  let last ← numbers.getLast?
  let leading := numbers.dropLast
  if parts.length > 4 || leading.any (· > 255) || last ≥ Nat.pow 256 (4 - leading.length) then none
  else
    let place (i n : Nat) : Nat := n * Nat.pow 256 (3 - i)
    pure (last + ((leading.mapIdx place).foldl (· + ·) 0))

/-- Up to four digits in base 16 at the front: their number, how many there are, and the rest. -/
def hexPiece (cs : List Char) : Nat × Nat × List Char :=
  let ds := (cs.take 4).takeWhile fun c => (Hex.value? c).isSome
  ((number? 16 ds).getD 0, ds.length, cs.drop ds.length)

/-- A decimal number up to 255 without leading zeros, as a part of an address inside an IPv6
    address. -/
def decimalByte? (cs : List Char) : Option Nat :=
  match cs with
  | [] => none
  | ['0'] => some 0
  | '0' :: _ => none
  | _ =>
    match number? 10 cs with
    | some n => if n ≤ 255 then some n else none
    | none => none

/-- The two pieces of an IPv4 address that ends an IPv6 address. -/
def ipv4Tail? (cs : List Char) : Option (List Nat) :=
  match (Text.pieces (· == '.') cs).map decimalByte? with
  | [some a, some b, some c, some d] => some [a * 256 + b, c * 256 + d]
  | _ => none

/-- The pieces read so far in reverse, and how many there were at the double colon. -/
structure Pieces where
  read : List Nat
  gap : Option Nat

/-- Eight pieces, with zeros in the place of the double colon. -/
def Pieces.finish (p : Pieces) : Option (List Nat) :=
  let pieces := p.read.reverse
  match p.gap with
  | some i => some (pieces.take i ++ List.replicate (8 - pieces.length) 0 ++ pieces.drop i)
  | none => if pieces.length == 8 then some pieces else none

/-- Reads pieces, at most `fuel` steps. A double colon counts as one piece, also against the limit of
    eight, but stands for none when it is filled up. -/
def ipv6After : Nat → Pieces → List Char → Option Pieces
  | 0, _, _ => none
  | _ + 1, p, [] => some p
  | fuel + 1, p, c :: cs =>
    let count := p.read.length + (if p.gap.isSome then 1 else 0)
    if count ≥ 8 then none
    else if c == ':' then
      if p.gap.isSome then none else ipv6After fuel ⟨p.read, some p.read.length⟩ cs
    else
      let (value, width, rest) := hexPiece (c :: cs)
      match rest with
      | [] => ipv6After fuel ⟨value :: p.read, p.gap⟩ []
      | '.' :: _ =>
        if width == 0 || count > 6 then none
        else (ipv4Tail? (c :: cs)).map fun tail => ⟨tail.reverse ++ p.read, p.gap⟩
      | ':' :: rest =>
        if rest.isEmpty then none else ipv6After fuel ⟨value :: p.read, p.gap⟩ rest
      | _ => none

/-- The pieces of an IPv6 address, without its brackets. It may end in an IPv4 address. -/
def ipv6? (cs : List Char) : Option (List Nat) :=
  match cs with
  | ':' :: ':' :: rest => (ipv6After (cs.length + 1) ⟨[], some 0⟩ rest).bind Pieces.finish
  | ':' :: _ => none
  | [] => none
  | [_] => none
  | _ => (ipv6After (cs.length + 1) ⟨[], none⟩ cs).bind Pieces.finish

end VulnProbe.Address
