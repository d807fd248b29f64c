import VulnProbe.Text.Basic

namespace VulnProbe.Files

/-- A part of a path. -/
inductive PathPart where
  | root
  | current
  | parent
  | name (text : String)
  deriving DecidableEq, Repr

/-- What stands between the slashes of a path. -/
def segments (path : String) : List String :=
  (Text.pieces (· == '/') path.toList).map String.ofList

/-- The part that a segment after the first stands for, if any. -/
def PathPart.ofSegment? (s : String) : Option PathPart :=
  if s = "" ∨ s = "." then none else if s = ".." then some .parent else some (.name s)

/-- The parts of a path. Two texts can write the same path, since a slash may be repeated and the mark
    for the current directory matters only at the start. -/
def parts (path : String) : List PathPart :=
  let named := (segments path).filterMap PathPart.ofSegment?
  match segments path with
  | "" :: _ :: _ => .root :: named
  | "." :: _ => .current :: named
  | _ => named

/-- Whether a path starts at the root. -/
def isAbsolute (path : String) : Bool :=
  path.toList.head? == some '/'

/-- The text of a part within a path. -/
def PathPart.text : PathPart → String
  | .root => ""
  | .current => "."
  | .parent => ".."
  | .name s => s

/-- The order of the parts: the root, the current directory, the directory above, and the names. -/
def PathPart.isBefore : PathPart → PathPart → Bool
  | .name a, .name b => a < b
  | a, b => rank a < rank b
where
  /-- The place of the kind of a part in the order. -/
  rank : PathPart → Nat
    | .root => 0
    | .current => 1
    | .parent => 2
    | .name _ => 3

/-- The order of paths: the first part that differs decides. -/
def isBefore : List PathPart → List PathPart → Bool
  | _, [] => false
  | [], _ :: _ => true
  | a :: as, b :: bs => if a = b then isBefore as bs else a.isBefore b

/-- Paths in order, each once. -/
def sorted (paths : List String) : List String :=
  dedup (paths.mergeSort fun a b => !isBefore (parts b) (parts a))
where
  /-- A list without the paths that follow an equal one. -/
  dedup : List String → List String
    | a :: b :: rest => if parts a = parts b then dedup (a :: rest) else a :: dedup (b :: rest)
    | paths => paths
  termination_by paths => paths.length

/-- A path followed by another one. -/
def join (path next : String) : String :=
  if isAbsolute next || path = "" then next
  else if path.toList.getLast? == some '/' then path ++ next
  else path ++ "/" ++ next

/-- The name at the end of a path. -/
def name? (path : String) : Option String :=
  match (parts path).getLast? with
  | some (.name s) => some s
  | _ => none

/-- A name without its last dot and what follows it. A dot at the start does not count. -/
def stemOfName (name : String) : String :=
  match name.toList.reverse.dropWhile (· != '.') with
  | _ :: c :: rest => String.ofList (c :: rest).reverse
  | _ => name

/-- The name at the end of a path without its extension. -/
def stem (path : String) : String :=
  ((name? path).map stemOfName).getD ""

end VulnProbe.Files
