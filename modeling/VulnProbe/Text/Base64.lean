namespace VulnProbe.Base64

/-- What is wrong with a written text, and where. -/
inductive Issue where
  | length (position : Nat)
  | symbol (position : Nat)
  | spareBits (position : Nat)
  | padding (position : Nat)
  deriving DecidableEq, Repr

/-- The text of an issue. -/
def Issue.message : Issue → String
  | .length position => "invalid length at " ++ toString position
  | .symbol position => "invalid symbol at " ++ toString position
  | .spareBits position => "non-zero trailing bits at " ++ toString position
  | .padding position => "invalid padding length at " ++ toString position

/-- The symbol of a value below 64. -/
def symbol (n : Nat) : Char :=
  if n < 26 then Char.ofNat (65 + n)
  else if n < 52 then Char.ofNat (71 + n)
  else if n < 62 then Char.ofNat (n - 4)
  else if n == 62 then '+'
  else '/'

/-- The value of a symbol, given as its byte. -/
def value? (b : UInt8) : Option Nat :=
  let n := b.toNat
  if 65 ≤ n && n ≤ 90 then some (n - 65)
  else if 97 ≤ n && n ≤ 122 then some (n - 71)
  else if 48 ≤ n && n ≤ 57 then some (n + 4)
  else if n == 43 then some 62
  else if n == 47 then some 63
  else none

/-- The symbols of a byte string. Each group of four writes three bytes, and a padded group writes one
    or two. -/
def encodeChars : List UInt8 → List Char
  | [] => []
  | [a] =>
    let n := a.toNat * 16
    [symbol (n / 64), symbol (n % 64), '=', '=']
  | [a, b] =>
    let n := (a.toNat * 256 + b.toNat) * 4
    [symbol (n / 4096), symbol (n / 64 % 64), symbol (n % 64), '=']
  | a :: b :: c :: rest =>
    let n := (a.toNat * 256 + b.toNat) * 256 + c.toNat
    symbol (n / 262144) :: symbol (n / 4096 % 64) :: symbol (n / 64 % 64) :: symbol (n % 64)
      :: encodeChars rest

/-- A byte string in base 64. -/
def encode (bytes : List UInt8) : String :=
  String.ofList (encodeChars bytes)

/-- The values of symbols that stand from a position on, or the first that is none. -/
def values (position : Nat) : List UInt8 → Except Issue (List Nat)
  | [] => .ok []
  | b :: rest =>
    match value? b with
    | none => .error (.symbol position)
    | some n => (values (position + 1) rest).map (n :: ·)

/-- The bytes of one group of four symbols at a position. -/
def decodeGroup (position : Nat) (group : List UInt8) : Except Issue (List UInt8) :=
  let pads := (group.reverse.takeWhile (· == 61)).length
  let kept := group.take (group.length - pads)
  if kept.length < 2 then .error (.padding (position + kept.length))
  else
    match values position kept with
    | .error issue => .error issue
    | .ok [a, b] =>
      if b % 16 == 0 then .ok [UInt8.ofNat (a * 4 + b / 16)]
      else .error (.spareBits (position + 1))
    | .ok [a, b, c] =>
      if c % 4 == 0 then
        .ok [UInt8.ofNat (a * 4 + b / 16), UInt8.ofNat (b % 16 * 16 + c / 4)]
      else .error (.spareBits (position + 2))
    | .ok [a, b, c, d] =>
      .ok [UInt8.ofNat (a * 4 + b / 16), UInt8.ofNat (b % 16 * 16 + c / 4),
        UInt8.ofNat (c % 4 * 64 + d)]
    | .ok _ => .error (.length position)

/-- The bytes of the groups from a position on. Padded groups may stand anywhere, so written texts may
    be joined. -/
def decodeGroups (position : Nat) : List UInt8 → Except Issue (List UInt8)
  | a :: b :: c :: d :: rest => do
    let bytes ← decodeGroup position [a, b, c, d]
    let others ← decodeGroups (position + 4) rest
    pure (bytes ++ others)
  | _ => .ok []

/-- The bytes that a text in base 64 writes. -/
def decode (text : List UInt8) : Except Issue (List UInt8) :=
  if text.length % 4 == 0 then decodeGroups 0 text
  else .error (.length (text.length / 4 * 4))

end VulnProbe.Base64
