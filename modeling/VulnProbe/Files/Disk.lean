import VulnProbe.Dict
import VulnProbe.Failure
import VulnProbe.Files.Path
import VulnProbe.Text.Utf8

namespace VulnProbe.Files

/-- What a name in a directory stands for. -/
inductive Entry where
  | file (content : List UInt8)
  | directory (entries : List (String × Entry))
  deriving Inhabited

mutual
/-- How many directories are nested in an entry. -/
def Entry.height : Entry → Nat
  | .file _ => 0
  | .directory entries => entriesHeight entries + 1

/-- How many directories are nested in some entries. -/
def entriesHeight : List (String × Entry) → Nat
  | [] => 0
  | (_, entry) :: rest => max entry.height (entriesHeight rest)
end

/-- Everything below the root, and the names of the directory at which other paths start. -/
structure Disk where
  entries : Dict Entry
  workingDirectory : List String

/-- The entries with an entry put at a place below them; directories on the way are made. -/
def putAt : List String → Entry → Dict Entry → Dict Entry
  | [], _, entries => entries
  | [name], entry, entries => entries.insert name entry
  | name :: rest, entry, entries =>
    let inner := match entries.get? name with
      | some (.directory inner) => inner
      | _ => []
    entries.insert name (.directory (putAt rest entry inner))

/-- The entry at a place. -/
def entryAt? : List String → Dict Entry → Option Entry
  | [], entries => some (.directory entries)
  | [name], entries => entries.get? name
  | name :: rest, entries =>
    match entries.get? name with
    | some (.directory inner) => entryAt? rest inner
    | _ => none

namespace Disk

/-- Where a path starts. -/
def origin (disk : Disk) (path : String) : List String :=
  if isAbsolute path then [] else disk.workingDirectory

/-- The place that a path names if all its directories are there. -/
def placeOf (disk : Disk) (path : String) : List String :=
  (segments path).foldl (fun place s =>
    if s = "" ∨ s = "." then place else if s = ".." then place.dropLast else place ++ [s])
    (disk.origin path)

/-- A disk with an entry put at a path. -/
def put (disk : Disk) (path : String) (entry : Entry) : Disk :=
  { disk with entries := putAt (disk.placeOf path) entry disk.entries }

/-- Follows segments of a path from a place. Everything but the last must be a directory. -/
def follow (disk : Disk) : List String → List String → Except IoIssue (List String)
  | place, [] => .ok place
  | place, s :: rest =>
    match entryAt? place disk.entries with
    | some (.directory entries) =>
      if s = "" ∨ s = "." then follow disk place rest
      else if s = ".." then follow disk place.dropLast rest
      else if Dict.contains s entries then follow disk (place ++ [s]) rest
      else .error .notFound
    | some (.file _) => .error .notADirectory
    | none => .error .notFound

/-- What a path leads to. The empty path leads nowhere. -/
def find (disk : Disk) (path : String) : Except IoIssue Entry :=
  if path = "" then .error .notFound
  else do
    let place ← disk.follow (disk.origin path) (segments path)
    match entryAt? place disk.entries with
    | some entry => .ok entry
    | none => .error .notFound

/-- Whether a path leads to something. -/
def exists? (disk : Disk) (path : String) : Bool :=
  match disk.find path with
  | .ok _ => true
  | .error _ => false

/-- Whether a path leads to a file. -/
def isFile (disk : Disk) (path : String) : Bool :=
  match disk.find path with
  | .ok (.file _) => true
  | _ => false

/-- Whether a path leads to a directory. -/
def isDirectory (disk : Disk) (path : String) : Bool :=
  match disk.find path with
  | .ok (.directory _) => true
  | _ => false

/-- The names in the directory that a path leads to. -/
def names (disk : Disk) (path : String) : List String :=
  match disk.find path with
  | .ok (.directory entries) => entries.map (·.1)
  | _ => []

/-- The text of the file that a path leads to. -/
def read (disk : Disk) (path : String) : Except IoIssue String := do
  match ← disk.find path with
  | .directory _ => .error .isDirectory
  | .file content =>
    match Utf8.decode? content with
    | some text => .ok text
    | none => .error .notText

/-- The greatest number of bytes of a definition or a configuration. -/
def sizeLimit : Nat := 1048576

/-- Whether a path leads to a file that is too large to be read. -/
def isTooLarge (disk : Disk) (path : String) : Bool :=
  match disk.find path with
  | .ok (.file content) => content.length > sizeLimit
  | _ => false

/-- Whether a file can be written at a path: its directory must be there, and the path must neither lead
    to a directory nor be written as that of one. -/
def checkWrite (disk : Disk) (path : String) : Except IoIssue Unit :=
  if path = "" then .error .notFound
  else do
    let named := (segments path).reverse.dropWhile (· = "")
    let last := named.headD ""
    let place ← disk.follow (disk.origin path) (named.drop 1).reverse
    match entryAt? place disk.entries with
    | some (.directory entries) =>
      if path.toList.getLast? = some '/' ∨ last = "." ∨ last = ".." then .error .isDirectory
      else
        match Dict.get? last entries with
        | some (.directory _) => .error .isDirectory
        | _ => .ok ()
    | _ => .error .notADirectory

end Disk

end VulnProbe.Files
