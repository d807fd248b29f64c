import VulnProbe.Text.Hex
import VulnProbe.Text.Utf8

namespace VulnProbe.Percent

/-- A character that stands for itself. -/
def isUnreserved (b : UInt8) : Bool :=
  let n := b.toNat
  (65 ≤ n && n ≤ 90) || (97 ≤ n && n ≤ 122) || (48 ≤ n && n ≤ 57)
    || n == 45 || n == 46 || n == 95 || n == 126

/-- A byte as a percent sign and two digits, capital letters. -/
def escaped (b : UInt8) : List Char :=
  ['%', (Hex.digit (b.toNat / 16)).toUpper, (Hex.digit (b.toNat % 16)).toUpper]

/-- A byte as it is written. -/
def encodeByte (b : UInt8) : List Char :=
  if isUnreserved b then [Char.ofNat b.toNat] else escaped b

/-- The written form of a byte string: every byte outside the unreserved characters is a percent sign
    and two digits. -/
def encode (bytes : List UInt8) : String :=
  String.ofList (bytes.flatMap encodeByte)

/-- The value of a byte that is a digit in base 16. -/
def digitValue? (b : UInt8) : Option Nat :=
  Hex.value? (Char.ofNat b.toNat)

/-- The bytes that a written form stands for. A percent sign that no two digits follow is kept. -/
def decodeBytes : List UInt8 → List UInt8
  | [] => []
  | [a] => [a]
  | [a, b] => [a, b]
  | p :: a :: b :: rest =>
    if p == 37 then
      match digitValue? a, digitValue? b with
      | some high, some low => UInt8.ofNat (high * 16 + low) :: decodeBytes rest
      | _, _ => p :: decodeBytes (a :: b :: rest)
    else p :: decodeBytes (a :: b :: rest)

/-- Where bytes stop being UTF-8. `ends` is a value that the end of the input cuts short. -/
inductive Issue where
  | malformed (length index : Nat)
  | ends (index : Nat)
  deriving DecidableEq, Repr

/-- The text of an issue. -/
def Issue.message : Issue → String
  | .malformed length index =>
    "invalid utf-8 sequence of " ++ toString length ++ " bytes from index " ++ toString index
  | .ends index => "incomplete utf-8 byte sequence from index " ++ toString index

/-- The first place, counted from `index`, where bytes stop being UTF-8. -/
def issue? (index : Nat) (bytes : List UInt8) : Option Issue :=
  match bytes with
  | [] => none
  | b :: rest =>
    match Utf8.first b rest with
    | (some _, extra) => issue? (index + extra + 1) (rest.drop extra)
    | (none, extra) =>
      if 0xC2 ≤ b && b ≤ 0xF4 && (rest.drop extra).isEmpty then some (.ends index)
      else some (.malformed (extra + 1) index)
termination_by bytes.length
decreasing_by simp only [List.length_cons, List.length_drop]; omega

/-- The text that a written form stands for. -/
def decode (text : List UInt8) : Except Issue String :=
  let bytes := decodeBytes text
  match issue? 0 bytes with
  | some issue => .error issue
  | none => .ok (Utf8.decodeLossy bytes)

end VulnProbe.Percent
