import VulnProbe.Config.Basic
import VulnProbe.Text.Basic

namespace VulnProbe.Target

open Files (Disk)

/-- A target without outer blanks and without closing slashes, since the paths of rules follow it as
    they are. It must be an HTTP URL. -/
def normalize (raw : String) : Except TargetIssue String :=
  let trimmed := String.ofList (Text.dropEnd (· == '/') (Text.trimChars raw.toList))
  match Url.parse trimmed with
  | .error issue => .error (.badUrl raw issue)
  | .ok url => if Config.isHttp url.scheme then .ok trimmed else .error (.badScheme raw)

/-- The entries of a file of targets: its lines without outer blanks, and without those that are blank
    or comments. -/
def entriesOf (text : String) : List String :=
  ((Text.lines text).map Text.trim).filter fun line => line ≠ "" && line.toList.head? != some '#'

/-- The entries of the file of targets, if there is one. -/
def entriesIn (disk : Disk) : Option String → Except Failure (List String)
  | none => .ok []
  | some path =>
    if !disk.exists? path then .error (.config (.targetsNotFound path))
    else
      match disk.read path with
      | .error issue => .error (.io issue)
      | .ok text => .ok (entriesOf text)

/-- The normal forms of some targets after those already `known`, each once. -/
def normalizeAll (known : List String) : List String → Except TargetIssue (List String)
  | [] => .ok known
  | raw :: rest =>
    match normalize raw with
    | .error issue => .error issue
    | .ok target => normalizeAll (if known.contains target then known else known ++ [target]) rest

/-- The targets that are given one by one and in a file. There must be one. -/
def collect (disk : Disk) (given : List String) (path : Option String) :
    Except Failure (List String) := do
  let listed ← entriesIn disk path
  match normalizeAll [] (given ++ listed) with
  | .error issue => .error (.target issue)
  | .ok [] => .error (.target .noTargets)
  | .ok targets => .ok targets

end VulnProbe.Target
