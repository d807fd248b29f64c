import VulnProbe.Binary64
import VulnProbe.Json.Basic

namespace VulnProbe.Json

/-- A reader takes the rest of the text and gives a result with what is left, or nothing. -/
abbrev Reader (α : Type) := List Char → Option (α × List Char)

/-- Space, tab, line feed and carriage return. -/
def isSpace (c : Char) : Bool :=
  c == ' ' || c == '\n' || c == '\t' || c == '\r'

/-- The rest of the text without leading spaces. -/
def skipSpaces (cs : List Char) : List Char :=
  cs.dropWhile isSpace

/-- The value of a digit in base 16. -/
def hexValue? (c : Char) : Option Nat :=
  if c.isDigit then some (c.toNat - 48)
  else if 'a' ≤ c && c ≤ 'f' then some (c.toNat - 87)
  else if 'A' ≤ c && c ≤ 'F' then some (c.toNat - 55)
  else none

/-- The number that four digits in base 16 write. -/
def hex4? : Reader Nat
  | a :: b :: c :: d :: rest => do
    let a ← hexValue? a
    let b ← hexValue? b
    let c ← hexValue? c
    let d ← hexValue? d
    pure (((a * 16 + b) * 16 + c) * 16 + d, rest)
  | _ => none

/-- The character after a backslash, with the number of characters that write it. -/
def escape? : List Char → Option (Char × Nat)
  | '"' :: _ => some ('"', 1)
  | '\\' :: _ => some ('\\', 1)
  | '/' :: _ => some ('/', 1)
  | 'b' :: _ => some (Char.ofNat 8, 1)
  | 'f' :: _ => some (Char.ofNat 12, 1)
  | 'n' :: _ => some ('\n', 1)
  | 'r' :: _ => some ('\r', 1)
  | 't' :: _ => some ('\t', 1)
  | 'u' :: rest => do
    let (n, rest) ← hex4? rest
    if 0xD800 ≤ n && n ≤ 0xDBFF then
      match rest with
      | '\\' :: 'u' :: rest =>
        let (m, _) ← hex4? rest
        if 0xDC00 ≤ m && m ≤ 0xDFFF then
          pure (Char.ofNat (0x10000 + (n - 0xD800) * 1024 + (m - 0xDC00)), 11)
        else none
      | _ => none
    else if 0xDC00 ≤ n && n ≤ 0xDFFF then none
    else pure (Char.ofNat n, 5)
  | _ => none

/-- The rest of a text in quotes, after the characters already read in reverse. -/
def textAfter (read : List Char) (cs : List Char) : Option (String × List Char) :=
  match cs with
  | [] => none
  | '"' :: rest => some (String.ofList read.reverse, rest)
  | '\\' :: rest =>
    match escape? rest with
    | some (c, n) => textAfter (c :: read) (rest.drop n)
    | none => none
  | c :: rest => if c.toNat < 32 then none else textAfter (c :: read) rest
termination_by cs.length
decreasing_by all_goals (simp; try omega)

/-- The number that decimal digits write. -/
def digitsValue (ds : List Char) : Nat :=
  ds.foldl (fun n d => n * 10 + (d.toNat - 48)) 0

/-- A floating-point number from its digits before and after the point and its exponent. Digits that
    do not fit 64 bits are left out. -/
def floatOf? (isNegative : Bool) (whole fraction : List Char) (exponent : Int) : Option Json :=
  let step (state : Nat × Nat) (d : Char) : Nat × Nat :=
    let n := state.1 * 10 + (d.toNat - 48)
    if state.2 == 0 && n < countLimit then (n, 0) else (state.1, state.2 + 1)
  let (significand, dropped) := whole.foldl step (0, 0)
  let (significand, kept) :=
    if dropped > 0 then (significand, 0)
    else
      let (n, left) := fraction.foldl step (significand, 0)
      (n, fraction.length - left)
  let bits? := Binary64.ofScientific? significand (exponent + dropped - kept)
  bits?.map fun bits => .float (if isNegative then Binary64.negative bits else bits)

/-- The exponent of a number, if one is written. -/
def exponentOf : List Char → Option (Option Int × List Char)
  | c :: rest =>
    if c == 'e' || c == 'E' then
      let (sign, rest) : Int × List Char := match rest with
        | '+' :: r => (1, r)
        | '-' :: r => (-1, r)
        | r => (1, r)
      let ds := rest.takeWhile Char.isDigit
      if ds.isEmpty then none
      else some (some (sign * digitsValue ds), rest.dropWhile Char.isDigit)
    else some (none, c :: rest)
  | [] => some (none, [])

/-- A number whose sign has been read. An integer that needs more than 64 bits, and any number with a
    point or an exponent, is read as a binary floating-point number. -/
def numberAfter (isNegative : Bool) (cs : List Char) : Option (Json × List Char) := do
  let whole := cs.takeWhile Char.isDigit
  let rest := cs.dropWhile Char.isDigit
  if whole.isEmpty || (whole.length > 1 && whole.head? == some '0') then none
  else
    let fraction? : Option (List Char × List Char) := match rest with
      | '.' :: r =>
        let ds := r.takeWhile Char.isDigit
        if ds.isEmpty then none else some (ds, r.dropWhile Char.isDigit)
      | r => some ([], r)
    let (fraction, rest) ← fraction?
    let (exponent?, rest) ← exponentOf rest
    let n := digitsValue whole
    let isWhole := fraction.isEmpty && exponent?.isNone
    let fits := if isNegative then 0 < n && n ≤ 9223372036854775808 else n < countLimit
    if isWhole && fits then
      pure (.int (if isNegative then -(n : Int) else n), rest)
    else
      let value ← floatOf? isNegative whole fraction (exponent?.getD 0)
      pure (value, rest)

/-- The rest of an array after one item, at most `fuel` more items. -/
def itemsAfter (item : Reader Json) : Nat → List Json → List Char → Option (Json × List Char)
  | 0, _, _ => none
  | fuel + 1, read, cs =>
    match skipSpaces cs with
    | ']' :: rest => some (.array read.reverse, rest)
    | ',' :: rest =>
      match item (skipSpaces rest) with
      | some (value, rest) => itemsAfter item fuel (value :: read) rest
      | none => none
    | _ => none

/-- One member of an object. -/
def member (item : Reader Json) (cs : List Char) : Option ((String × Json) × List Char) :=
  match skipSpaces cs with
  | '"' :: rest => do
    let (name, rest) ← textAfter [] rest
    match skipSpaces rest with
    | ':' :: rest =>
      let (value, rest) ← item (skipSpaces rest)
      pure ((name, value), rest)
    | _ => none
  | _ => none

/-- The rest of an object after one member, at most `fuel` more members. -/
def membersAfter (item : Reader Json) :
    Nat → List (String × Json) → List Char → Option (Json × List Char)
  | 0, _, _ => none
  | fuel + 1, read, cs =>
    match skipSpaces cs with
    | '}' :: rest => some (ofMembers read.reverse, rest)
    | ',' :: rest =>
      match member item rest with
      | some (m, rest) => membersAfter item fuel (m :: read) rest
      | none => none
    | _ => none

/-- A value at the front of the text, given the reader of the values inside it. -/
def valueWith (item : Reader Json) (cs : List Char) : Option (Json × List Char) :=
  match cs with
  | '"' :: rest => do
    let (s, rest) ← textAfter [] rest
    pure (.string s, rest)
  | '[' :: rest =>
    match skipSpaces rest with
    | ']' :: rest => some (.array [], rest)
    | rest => do
      let (value, rest) ← item rest
      itemsAfter item (rest.length + 1) [value] rest
  | '{' :: rest =>
    match skipSpaces rest with
    | '}' :: rest => some (.object [], rest)
    | rest => do
      let (m, rest) ← member item rest
      membersAfter item (rest.length + 1) [m] rest
  | 't' :: 'r' :: 'u' :: 'e' :: rest => some (.bool true, rest)
  | 'f' :: 'a' :: 'l' :: 's' :: 'e' :: rest => some (.bool false, rest)
  | 'n' :: 'u' :: 'l' :: 'l' :: rest => some (.null, rest)
  | '-' :: rest => numberAfter true rest
  | _ => numberAfter false cs

/-- A value with at most `depth` arrays and objects open at once. -/
def valueAt : Nat → Reader Json
  | 0 => fun cs =>
    match cs with
    | '[' :: _ => none
    | '{' :: _ => none
    | _ => valueWith (fun _ => none) cs
  | depth + 1 => valueWith (valueAt depth)

/-- The value that a whole text writes. At most 127 arrays and objects may be open at once. -/
def parse? (text : String) : Option Json :=
  match valueAt 127 (skipSpaces text.toList) with
  | some (value, rest) => if (skipSpaces rest).isEmpty then some value else none
  | none => none

end VulnProbe.Json
