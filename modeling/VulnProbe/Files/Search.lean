import VulnProbe.Files.Disk
import VulnProbe.Files.Pattern

namespace VulnProbe.Files

/-- A pattern with the path at which its search starts. -/
structure Search where
  start : String
  patterns : List Pattern
  wantsDirectory : Bool

namespace Search

/-- The characters of a path without the slash of its root. -/
def unrooted (path : String) : List Char :=
  if isAbsolute path then path.toList.drop 1 else path.toList

/-- The names between the slashes of a path without those of its root; a slash at the end starts no
    name. -/
def namesOf (path : String) : List String :=
  let found := Text.pieces (· == '/') (unrooted path)
  let found := if found.getLast? == some [] then found.dropLast else found
  found.map String.ofList

/-- The search for a text. It starts at the root or at the current directory. -/
def parse (text : String) : Except GlobIssue Search := do
  let _ ← Pattern.parse text
  let patterns ← (namesOf text).mapM Pattern.parse
  let patterns := if (unrooted text).isEmpty then patterns ++ [[]] else patterns
  pure ⟨if isAbsolute text then "/" else ".", patterns, text.toList.getLast? == some '/'⟩

/-- Whether a path is the current directory. -/
def isCurrent (path : String) : Bool :=
  parts path == [.current]

/-- The path of a name below a path. -/
def below (path name : String) : String :=
  if isCurrent path then name else join path name

/-- The marks for a directory itself and for the one above that a pattern stands for. It must start
    with a dot. -/
def marks (p : Pattern) : List String :=
  if p.head? == some (.char '.') then [".", ".."].filter fun s => p.accepts s.toList else []

mutual
/-- The paths below a path that patterns stand for. They are matched name by name, but a name without
    special characters is looked up. `fuel` bounds how deep the search goes. -/
def under (disk : Disk) : Nat → List Pattern → String → List String
  | 0, _, _ => []
  | _, [], path => [path]
  | fuel + 1, p :: rest, path =>
    match p.literal? with
    | some name =>
      let next := below path name
      let isThere :=
        if name = "." ∨ name = ".." then disk.isDirectory path else disk.exists? next
      if isThere then under disk fuel rest next else []
    | none =>
      (disk.names path).flatMap (fun name => visit disk fuel p rest (below path name) name)
        ++ (if disk.isDirectory path then
              (marks p).flatMap fun mark => under disk fuel rest (join path mark)
            else [])

/-- The paths at or below a path, which ends in a name, that patterns stand for. -/
def visit (disk : Disk) : Nat → Pattern → List Pattern → String → String → List String
  | 0, _, _, _, _ => []
  | fuel + 1, p, rest, path, name =>
    if p.isDirectories then
      let rest := rest.dropWhile Pattern.isDirectories
      (if disk.isDirectory path then under disk fuel (p :: rest) path else [])
        ++ (match rest with
          | [] => if disk.isDirectory path then [path] else []
          | q :: rest => if q.accepts name.toList then under disk fuel rest path else [])
    else if p.accepts name.toList then under disk fuel rest path
    else []
end

end Search

/-- The paths on a disk that a text stands for. After a slash at its end only directories count. -/
def Disk.search (disk : Disk) (text : String) : Except GlobIssue (List String) := do
  let s ← Search.parse text
  let fuel := (s.patterns.length + 1) * (2 * entriesHeight disk.entries + 4)
  let found := Search.under disk fuel s.patterns s.start
  pure (if s.wantsDirectory then found.filter disk.isDirectory else found)

end VulnProbe.Files
