import VulnProbe.Text.Normal
import VulnProbe.Text.Utf8
import VulnProbe.Url.NameTables
import VulnProbe.Url.Punycode

namespace VulnProbe.DomainName

/-- An ASCII character that no domain name may hold. -/
def isForbidden (c : Char) : Bool :=
  c.toNat ≤ 32 || c.toNat == 127 || c == '%' || c == '#' || c == '/' || c == ':' || c == '<'
    || c == '>' || c == '?' || c == '@' || c == '[' || c == '\\' || c == ']' || c == '^' || c == '|'

/-- What a character is mapped to; nothing where a name with it is refused. -/
def mapChar? (c : Char) : Option (List Char) :=
  if c.toNat < 128 then some [c.toLower]
  else
    match mappingTable.find? c.toNat with
    | none => some [c]
    | some [] => none
    | some [0] => some []
    | some codes => some (codes.map fun code => Char.ofNat (Text.shifted c.toNat (code - 1)))

/-- A name with its characters mapped, in normal form. -/
def mapped? (cs : List Char) : Option (List Char) := do
  let pieces ← cs.mapM mapChar?
  pure (Text.normalize pieces.flatten)

/-- The direction of a character. -/
inductive Direction where
  | left
  | right
  | arabicNumber
  | european
  | neutral
  | mark
  | barred
  deriving DecidableEq, Repr

/-- The direction of a character. -/
def direction (c : Char) : Direction :=
  match directionTable.value c.toNat with
  | 0 => .left
  | 1 => .right
  | 2 => .right
  | 3 => .arabicNumber
  | 4 => .european
  | 10 => .mark
  | 11 => .barred
  | _ => .neutral

/-- Whether a label reads from right to left in part. -/
def hasRight (cs : List Char) : Bool :=
  cs.any fun c => direction c == .right || direction c == .arabicNumber

/-- The rule for the labels of a name of which some part reads from right to left. -/
def directionsAgree (cs : List Char) : Bool :=
  let ds := cs.map direction
  let last := (ds.reverse.dropWhile (· == .mark)).head?
  match ds.head? with
  | none => true
  | some .right =>
    ds.all (fun d => d != .left && d != .barred)
      && (last == some .right || last == some .european || last == some .arabicNumber)
      && !(ds.contains .european && ds.contains .arabicNumber)
  | some .left =>
    ds.all (fun d => d != .right && d != .arabicNumber && d != .barred)
      && (last == some .left || last == some .european)
  | some _ => false

/-- Whether the nearest character that is not passed over when joining has one of two kinds. -/
def joinsWith (kind : Nat) (cs : List Char) : Bool :=
  match cs.dropWhile fun c => joiningTable.value c.toNat == 5 with
  | c :: _ => joiningTable.value c.toNat == 2 || joiningTable.value c.toNat == kind
  | [] => false

/-- Whether every joiner stands after a virama or, where it parts two letters, between letters that
    join. `before` holds the characters already passed, in reverse. -/
def joinersAgree (before : List Char) : List Char → Bool
  | [] => true
  | c :: rest =>
    let afterVirama := match before with
      | b :: _ => Text.markClass b == 9
      | [] => false
    let agrees :=
      if c.toNat == 0x200D then afterVirama
      else if c.toNat == 0x200C then afterVirama || (joinsWith 3 before && joinsWith 4 rest)
      else true
    agrees && joinersAgree (c :: before) rest

/-- The rules for one label, that for directions left out. -/
def isValidLabel (cs : List Char) : Bool :=
  (match cs with
    | c :: _ => !combiningTable.contains c.toNat
    | [] => true)
    && cs.all (fun c => !(c.toNat < 128 && isForbidden c)) && joinersAgree [] cs

/-- The labels of a name. -/
def labels : List Char → List (List Char)
  | [] => [[]]
  | c :: rest =>
    if c == '.' then [] :: labels rest
    else
      match labels rest with
      | l :: ls => (c :: l) :: ls
      | [] => [[c]]

/-- A label in its Unicode form; the form of a label in ASCII must be the one that is written. -/
def unicodeLabel? (label : List Char) : Option (List Char) :=
  match label with
  | 'x' :: 'n' :: '-' :: '-' :: rest =>
    match Punycode.decode? rest with
    | some decoded =>
      if decoded.all (·.toNat < 128) then none
      else if mapped? decoded == some decoded then some decoded
      else none
    | none => none
  | _ => some label

/-- A label in its ASCII form. -/
def asciiLabel (label : List Char) : List Char :=
  if label.all (·.toNat < 128) then label else ['x', 'n', '-', '-'] ++ Punycode.encode label

/-- The ASCII form of a name given by its bytes, which must be UTF-8. Characters are mapped to their
    plain forms and the name is normalized; each label must then be free of leading marks, misplaced
    joiners and mixed directions. -/
def toAscii? (bytes : List UInt8) : Option (List Char) := do
  let cs ← Utf8.decodeChars? bytes
  let name ← mapped? cs
  let written := labels name
  let plain ← written.mapM unicodeLabel?
  if plain.all isValidLabel && (!plain.any hasRight || plain.all directionsAgree) then
    pure (['.'].intercalate (written.map asciiLabel))
  else none

end VulnProbe.DomainName
