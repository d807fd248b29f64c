import VulnProbe.Files.Search
import VulnProbe.Poc.Document

namespace VulnProbe.Poc

open Files (Disk)

/-- The definition in a file. Without a name of its own it has that of the file. -/
def load (disk : Disk) (path : String) : Except Failure Poc :=
  if !disk.exists? path then .error (.definitionLoad (.notFound path))
  else if disk.isTooLarge path then .error (.definitionLoad (.tooLarge path))
  else
    match disk.read path with
    | .error issue => .error (.io issue)
    | .ok text =>
      match ofText text with
      | .error issue => .error (.definitionLoad (.inFile path issue))
      | .ok poc => .ok (if poc.name = "" then { poc with name := Files.stem path } else poc)

/-- The patterns whose files a location stands for: those for definitions in a directory, or the
    location itself. -/
def searchesOf (disk : Disk) (location : String) : List String :=
  if disk.isDirectory location then ["*.yml", "*.yaml"].map (Files.join location) else [location]

/-- The files that a location stands for, in order. A file stands for itself. -/
def discover (disk : Disk) (location : String) : Except Failure (List String) :=
  if disk.isFile location then .ok [location]
  else
    match (searchesOf disk location).mapM disk.search with
    | .error issue => .error (.config (.badPattern issue))
    | .ok found =>
      match Files.sorted (found.flatten.filter disk.isFile) with
      | [] => .error (.definitionLoad (.nothingMatched location))
      | paths => .ok paths

end VulnProbe.Poc
