namespace VulnProbe.Utf8

/-- The UTF-8 bytes of a list of characters. -/
def encode (cs : List Char) : List UInt8 :=
  cs.flatMap String.utf8EncodeChar

/-- The UTF-8 bytes of a text. -/
def ofString (s : String) : List UInt8 :=
  encode s.toList

/-- A byte that continues a scalar value. -/
def isTail (b : UInt8) : Bool :=
  0x80 ≤ b && b ≤ 0xBF

/-- The bytes that may follow the first byte of a three-byte or four-byte value; the rest are tails.
    The bounds shut out overlong forms, surrogates and values above U+10FFFF. -/
def secondBounds (b : UInt8) : UInt8 × UInt8 :=
  if b == 0xE0 then (0xA0, 0xBF)
  else if b == 0xED then (0x80, 0x9F)
  else if b == 0xF0 then (0x90, 0xBF)
  else if b == 0xF4 then (0x80, 0x8F)
  else (0x80, 0xBF)

/-- Whether `x` may follow the first byte `b`. -/
def isSecond (b x : UInt8) : Bool :=
  (secondBounds b).1 ≤ x && x ≤ (secondBounds b).2

/-- The scalar value that starts at the byte `b`, with the number of bytes it takes after `b`. No
    value means that `b` and the counted bytes are one malformed part. -/
def first (b : UInt8) (rest : List UInt8) : Option Char × Nat :=
  let low (x : UInt8) : Nat := x.toNat % 64
  if b < 0x80 then (some (Char.ofNat b.toNat), 0)
  else if 0xC2 ≤ b && b ≤ 0xDF then
    match rest with
    | x :: _ => if isTail x then (some (Char.ofNat (b.toNat % 32 * 64 + low x)), 1) else (none, 0)
    | [] => (none, 0)
  else if 0xE0 ≤ b && b ≤ 0xEF then
    match rest with
    | x :: y :: _ =>
      if !isSecond b x then (none, 0)
      else if isTail y then (some (Char.ofNat (b.toNat % 16 * 4096 + low x * 64 + low y)), 2)
      else (none, 1)
    | [x] => (none, if isSecond b x then 1 else 0)
    | [] => (none, 0)
  else if 0xF0 ≤ b && b ≤ 0xF4 then
    match rest with
    | x :: y :: z :: _ =>
      if !isSecond b x then (none, 0)
      else if !isTail y then (none, 1)
      else if isTail z then
        (some (Char.ofNat (b.toNat % 8 * 262144 + low x * 4096 + low y * 64 + low z)), 3)
      else (none, 2)
    | [x, y] => (none, if !isSecond b x then 0 else if isTail y then 2 else 1)
    | [x] => (none, if isSecond b x then 1 else 0)
    | [] => (none, 0)
  else (none, 0)

/-- The scalar values and malformed parts of a byte string, after those already read. -/
def unitsAfter (read : List (Option Char)) (bytes : List UInt8) : List (Option Char) :=
  match bytes with
  | [] => read.reverse
  | b :: rest => unitsAfter ((first b rest).1 :: read) (rest.drop (first b rest).2)
termination_by bytes.length
decreasing_by simp only [List.length_cons, List.length_drop]; omega

/-- The scalar values of a byte string in order, `none` standing for each malformed part: where no
    scalar value starts, the longest run of bytes that begins one. -/
def units (bytes : List UInt8) : List (Option Char) :=
  unitsAfter [] bytes

/-- The characters of well-formed UTF-8. -/
def decodeChars? (bytes : List UInt8) : Option (List Char) :=
  let us := units bytes
  if us.all Option.isSome then some (us.filterMap id) else none

/-- The text of well-formed UTF-8. -/
def decode? (bytes : List UInt8) : Option String :=
  (decodeChars? bytes).map String.ofList

/-- The text of any byte string, with U+FFFD for each malformed part. -/
def decodeLossy (bytes : List UInt8) : String :=
  String.ofList ((units bytes).map (·.getD '\uFFFD'))

end VulnProbe.Utf8
