import VulnProbe.Failure

namespace VulnProbe.Files

/-- A piece of a pattern. Sets are lists of ranges with both ends. -/
inductive Piece where
  | char (c : Char)
  | anyChar
  | oneOf (ranges : List (Char × Char))
  | noneOf (ranges : List (Char × Char))
  | anyChars
  | directories
  deriving DecidableEq, Repr

/-- A pattern for one name. In its text `?` stands for one character, `*` for any number of them,
    brackets for one of a set, and `**` alone for any number of directories. -/
abbrev Pattern := List Piece

/-- Whether a character is in one of some ranges. -/
def inRanges (ranges : List (Char × Char)) (c : Char) : Bool :=
  ranges.any fun (lo, hi) => lo ≤ c && c ≤ hi

/-- Whether a piece can stand for a character. -/
def Piece.admits (c : Char) : Piece → Bool
  | .char x => c == x
  | .oneOf ranges => inRanges ranges c
  | .noneOf ranges => !inRanges ranges c
  | .anyChar | .anyChars | .directories => true

/-- Whether a piece stands for any number of characters. -/
def Piece.isRepeated : Piece → Bool
  | .anyChars | .directories => true
  | _ => false

/-- The character that a piece is, unless it is special. -/
def Piece.char? : Piece → Option Char
  | .char c => some c
  | _ => none

/-- The ranges of a set. -/
def rangesOf : List Char → List (Char × Char)
  | a :: '-' :: b :: rest => (a, b) :: rangesOf rest
  | a :: rest => (a, a) :: rangesOf rest
  | [] => []

/-- The characters of a set up to its closing bracket, of which there must be one, and what follows. -/
def setBody? : List Char → Option (List Char × List Char)
  | [] => none
  | c :: rest =>
    match rest.dropWhile (· != ']') with
    | _ :: after => some (c :: rest.takeWhile (· != ']'), after)
    | [] => none

/-- The set after an opening bracket, and what follows it. -/
def set? : List Char → Option (Piece × List Char)
  | '!' :: cs => (setBody? cs).map fun (body, rest) => (.noneOf (rangesOf body), rest)
  | cs => (setBody? cs).map fun (body, rest) => (.oneOf (rangesOf body), rest)

/-- Reads the pieces of a pattern. `before` is the character before the place `at`, and `fuel` bounds
    the number of pieces. -/
def piecesFrom : Nat → Nat → Option Char → List Char → Except GlobIssue Pattern
  | 0, _, _, _ => .ok []
  | _, _, _, [] => .ok []
  | fuel + 1, place, before, c :: rest =>
    let single (piece : Piece) : Except GlobIssue Pattern :=
      (piecesFrom fuel (place + 1) (some c) rest).map (piece :: ·)
    if c == '?' then single .anyChar
    else if c == '[' then
      match set? rest with
      | none => .error (.range place)
      | some (piece, after) =>
        (piecesFrom fuel (place + 1 + (rest.length - after.length)) (some ']') after).map (piece :: ·)
    else if c == '*' then
      let after := rest.dropWhile (· == '*')
      let more := rest.length - after.length
      if more == 0 then single .anyChars
      else if more > 1 then .error (.wildcards (place + 2))
      else if before.any (· != '/') then .error (.recursiveWildcards (place - 1))
      else
        match after with
        | [] => .ok [.directories]
        | '/' :: after =>
          (piecesFrom fuel (place + 3) (some '/') after).map (.directories :: ·)
        | _ => .error (.recursiveWildcards (place + 2))
    else single (.char c)

namespace Pattern

/-- The pieces of a pattern. -/
def parse (s : String) : Except GlobIssue Pattern :=
  piecesFrom s.length 0 none s.toList

/-- Whether a pattern stands for any number of directories. -/
def isDirectories (p : Pattern) : Bool :=
  p.contains .directories

/-- The only name that a pattern without special characters stands for. -/
def literal? (p : Pattern) : Option String :=
  (p.mapM Piece.char?).map String.ofList

/-- Whether a pattern stands for a name. -/
def accepts : Pattern → List Char → Bool
  | [], cs => cs.isEmpty
  | piece :: rest, [] => piece.isRepeated && accepts rest []
  | piece :: rest, c :: cs =>
    if piece.isRepeated then accepts rest (c :: cs) || accepts (piece :: rest) cs
    else piece.admits c && accepts rest cs
termination_by p cs => p.length + cs.length

end Pattern

end VulnProbe.Files
