import VulnProbe.Command.Arguments
import VulnProbe.Command.Batch
import Std.Time.DateTime.Timestamp

namespace VulnProbe.Program

open Files (Disk Entry)

/-- The part of a path before the first name that has a character of patterns. -/
def literalHead (path : String) : String :=
  let head := (Files.segments path).takeWhile fun s => !s.toList.any fun c => "*?[".contains c
  let text := "/".intercalate head
  if text = "" then if Files.isAbsolute path then "/" else "." else text

/-- The paths that a command may read. -/
def inputs : Command → List String
  | .validate location => [location, literalHead location]
  | .verify o => [o.location, literalHead o.location] ++ o.config.toList ++ o.targetsFile.toList

/-- The path that a command may write. -/
def output? : Command → Option String
  | .validate _ => none
  | .verify o => o.output

/-- What a path leads to, with everything below it. -/
partial def entry? (path : String) : IO (Option Entry) := do
  let place := (← IO.currentDir) / path
  if ← place.isDir then
    let mut entries : Dict Entry := []
    for child in ← place.readDir do
      if let some entry ← entry? (Files.join path child.fileName) then
        entries := entries.insert child.fileName entry
    return some (.directory entries)
  else if ← place.pathExists then
    return some (.file (← IO.FS.readBinFile place).toList)
  else
    return none

/-- The paths of the directories on the way to a path. -/
def directoriesTo (path : String) : List String :=
  let names := Files.segments path
  (List.range (names.length - 1)).map fun i =>
    let text := "/".intercalate (names.take (i + 1))
    if text = "" then "/" else text

/-- A disk with the directories on the way to a path. -/
def withDirectories (disk : Disk) (path : String) : IO Disk := do
  let mut disk := disk
  for head in directoriesTo path do
    if !disk.exists? head && (← ((← IO.currentDir) / head).isDir) then
      disk := disk.put head (.directory [])
  return disk

/-- A disk with a path and everything below it. -/
def withPath (disk : Disk) (path : String) : IO Disk := do
  let disk ← withDirectories disk path
  if path = "" then return disk
  match ← entry? path with
  | some entry => return disk.put path entry
  | none => return disk

/-- Everything on the disk that a command may look at. -/
def diskFor (command : Command) : IO Disk := do
  let names := (Files.segments (← IO.currentDir).toString).filter (· ≠ "")
  let mut disk : Disk := ⟨Files.putAt names (.directory []) [], names⟩
  for path in inputs command do
    disk ← withPath disk path
  match output? command with
  | none => return disk
  | some path =>
    disk ← withDirectories disk path
    if ← ((← IO.currentDir) / path).isDir then disk := disk.put path (.directory [])
    return disk

/-- What the runs of a command take from outside. There is no network, so only requests that could not
    be sent anyway get their answer. -/
def surroundings : IO Surroundings := do
  let seed := (← IO.getRandomBytes 16).toList.foldl (fun n b => n * 256 + b.toNat) 0
  let nanos := (← Std.Time.Timestamp.now).toNanosecondsSinceUnixEpoch.toInt
  let now := (Timestamp.ofUnix? (nanos / 1000000000) (nanos % 1000000000).toNat).getD default
  let draws := Expr.Draws.ofSeed seed
  let runId (number : Nat) : RunId :=
    let bytes := (List.range 16).map fun i => (((draws.child 0).child number).child i).value.toUInt8
    (RunId.ofRandom? bytes).getD default
  return ⟨Transport.offline, draws.child 1, fun number => ⟨runId number, now, now, 0⟩⟩

/-- How the program is used. -/
def usage : String :=
  "Usage: pocverify [-v] [-q] [--no-color] verify -p <POC> [-t <TARGET>] [--targets-file <FILE>]\n"
    ++ "         [-c <FILE>] [--reverse-url <URL>] [-w <N>] [--user-agent <UA>] [--json] [-o <FILE>]\n"
    ++ "       pocverify [-v] [-q] [--no-color] validate <POC>"

/-- Runs a command on the files that it may look at, prints and writes what it leaves, and gives its
    exit code. -/
def run (i : Invocation) : IO Nat := do
  let disk ← diskFor i.command
  let finished := i.run (← (← IO.getStdout).isTty) disk (← surroundings)
  if let some (path, text) := finished.written then
    IO.FS.writeFile path text
  for line in finished.lines do
    IO.println line
  if let .error f := finished.outcome then
    IO.eprintln ("Error: " ++ f.message)
  return finished.exitCode

end VulnProbe.Program

open VulnProbe in
/-- Runs the command that the arguments tell. -/
def main (args : List String) : IO UInt32 := do
  match Arguments.parse args with
  | .ok i => return (← Program.run i).toUInt32
  | .error .versionWanted => IO.println "pocverify 1.0.0"; return 0
  | .error .helpWanted => IO.println Program.usage; return 0
  | .error issue => IO.eprintln Program.usage; return issue.exitCode.toUInt32
