import VulnProbe.Text.Hex

namespace VulnProbe

/-- The identifier of a run: sixteen bytes. -/
structure RunId where
  bytes : List UInt8
  length_bytes : bytes.length = 16
  deriving DecidableEq, Repr

namespace RunId

/-- The identifier that consists of zeros. -/
def zero : RunId :=
  ⟨List.replicate 16 0, by simp⟩

instance : Inhabited RunId := ⟨zero⟩

/-- The identifier of sixteen bytes. -/
def ofBytes? (bytes : List UInt8) : Option RunId :=
  if h : bytes.length = 16 then some ⟨bytes, h⟩ else none

/-- The text of an identifier: digits in base 16, in five groups. -/
def text (id : RunId) : String :=
  let group (start count : Nat) := Hex.encode ((id.bytes.drop start).take count)
  "-".intercalate [group 0 4, group 4 2, group 6 2, group 8 2, group 10 6]

/-- The identifier that sixteen bytes in base 16 write. -/
def ofDigits? (cs : List Char) : Option RunId :=
  (Hex.decodeChars? cs).bind ofBytes?

/-- The identifier that five groups write. -/
def ofGroups? (cs : List Char) : Option RunId :=
  let isHyphenAt (i : Nat) : Bool := cs[i]? == some '-'
  if cs.length == 36 && isHyphenAt 8 && isHyphenAt 13 && isHyphenAt 18 && isHyphenAt 23 then
    ofDigits? (cs.take 8 ++ (cs.drop 9).take 4 ++ (cs.drop 14).take 4 ++ (cs.drop 19).take 4
      ++ cs.drop 24)
  else none

/-- The identifier that a text writes: with or without hyphens, and with hyphens also in braces or
    after the name of its kind. -/
def parse? (s : String) : Option RunId :=
  let cs := s.toList
  let mark := "urn:uuid:".toList
  if cs.length == 32 then ofDigits? cs
  else if cs.length == 38 && cs.head? == some '\x7b' && cs.getLast? == some '\x7d' then
    ofGroups? (cs.drop 1).dropLast
  else if mark.isPrefixOf cs then ofGroups? (cs.drop mark.length)
  else ofGroups? cs

/-- The identifier of sixteen random bytes, marked as such. -/
def ofRandom? (bytes : List UInt8) : Option RunId :=
  ofBytes? (bytes.mapIdx fun i b => if i == 6 then b % 16 + 64 else if i == 8 then b % 64 + 128 else b)

end RunId

end VulnProbe
