namespace VulnProbe.Yaml

/-- A character that may stand in a stream. -/
def isPrintable (c : Char) : Bool :=
  let n := c.toNat
  n == 9 || n == 10 || n == 13 || (0x20 ≤ n && n ≤ 0x7E) || n == 0x85 || (0xA0 ≤ n && n ≤ 0xD7FF)
    || (0xE000 ≤ n && n ≤ 0xFFFD) || 0x10000 ≤ n

/-- A blank or a tab. -/
def isSpace (c : Char) : Bool :=
  c == ' ' || c == '\t'

/-- A character that ends a line. -/
def isBreak (c : Char) : Bool :=
  c == '\n' || c == '\r' || c == '\u0085' || c == '\u2028' || c == '\u2029'

/-- A character of a name. -/
def isWord (c : Char) : Bool :=
  c.isAlphanum || c == '_' || c == '-'

/-- Whether the text starts with the end of a word: a blank, the end of a line, or the end of all. -/
def endsWord : List Char → Bool
  | [] => true
  | c :: _ => isSpace c || isBreak c

/-- Whether the text starts with the end of a line or is at its own end. -/
def endsLine : List Char → Bool
  | [] => true
  | c :: _ => isBreak c

/-- What is left of a text, and where it starts. -/
structure Cursor where
  rest : List Char
  index : Nat
  line : Nat
  column : Nat

namespace Cursor

/-- Passes characters that do not end a line. -/
def advance (c : Cursor) (n : Nat) : Cursor :=
  ⟨c.rest.drop n, c.index + n, c.line, c.column + n⟩

/-- Takes the longest start whose characters all have a property and do not end a line. -/
def takeWhile (p : Char → Bool) (c : Cursor) : List Char × Cursor :=
  let taken := c.rest.takeWhile fun x => p x && !isBreak x
  (taken, c.advance taken.length)

/-- Passes the longest start whose characters all have a property and do not end a line. -/
def skipWhile (p : Char → Bool) (c : Cursor) : Cursor :=
  (c.takeWhile p).2

/-- Passes the end of a line, and tells what it is kept as. -/
def takeBreak? (c : Cursor) : Option (Char × Cursor) :=
  match c.rest with
  | '\r' :: '\n' :: rest => some ('\n', ⟨rest, c.index + 2, c.line + 1, 0⟩)
  | x :: rest =>
    if !isBreak x then none
    else
      let kept := if x == '\u2028' || x == '\u2029' then x else '\n'
      some (kept, ⟨rest, c.index + 1, c.line + 1, 0⟩)
  | [] => none

/-- Passes a comment, if there is one. -/
def skipComment (c : Cursor) : Cursor :=
  match c.rest with
  | '#' :: _ => c.skipWhile fun _ => true
  | _ => c

/-- Passes the rest of a line that holds nothing but a comment. -/
def endLine? (c : Cursor) : Option Cursor :=
  let c := (c.skipWhile isSpace).skipComment
  if !endsLine c.rest then none
  else
    match c.takeBreak? with
    | some (_, c) => some c
    | none => some c

/-- Whether three equal marks at the start of a line stand alone. -/
def hasMark (mark : Char) (c : Cursor) : Bool :=
  match c.rest with
  | x :: y :: z :: rest =>
    c.column == 0 && x == mark && y == mark && z == mark && endsWord rest
  | _ => false

/-- Whether the start or end of a document is marked here. -/
def hasDocumentMark (c : Cursor) : Bool :=
  c.hasMark '-' || c.hasMark '.'

end Cursor

end VulnProbe.Yaml
