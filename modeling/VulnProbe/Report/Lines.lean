import VulnProbe.Report.Basic

namespace VulnProbe

/-- A way to make text stand out. -/
inductive Tint where
  | red
  | boldRed
  | green
  | yellow
  | cyan
  | dim
  deriving DecidableEq, Repr

/-- What switches a tint on. -/
def Tint.codes : Tint → String
  | .red => "\x1b[31m"
  | .boldRed => "\x1b[31m\x1b[1m"
  | .green => "\x1b[32m"
  | .yellow => "\x1b[33m"
  | .cyan => "\x1b[36m"
  | .dim => "\x1b[2m"

/-- A text in a tint, if there are colours. -/
def tinted (hasColor : Bool) (tint : Tint) (s : String) : String :=
  if hasColor then tint.codes ++ s ++ "\x1b[0m" else s

/-- The line of a report: the verdict, the definition, the target, what was done, and the error if there
    is one. -/
def Report.line (hasColor : Bool) (r : Report) : String :=
  let tag := match r.matched with
    | some true => tinted hasColor .boldRed "[VULN]"
    | some false => tinted hasColor .green "[SAFE]"
    | none => tinted hasColor .yellow "[FAIL]"
  let error := match r.error with
    | some text => " " ++ tinted hasColor .dim text
    | none => ""
  tag ++ " " ++ tinted hasColor .cyan r.poc ++ " " ++ r.target ++ " (" ++ toString r.rulesExecuted
    ++ " rules, " ++ toString r.times.durationMs ++ "ms)" ++ error

/-- The line of a summary. -/
def Summary.line (hasColor : Bool) (s : Summary) : String :=
  toString s.total ++ " runs: " ++ tinted hasColor .boldRed (toString s.matched) ++ " vulnerable, "
    ++ tinted hasColor .green (toString s.rejected) ++ " not vulnerable, "
    ++ tinted hasColor .yellow (toString s.errors) ++ " failed"

end VulnProbe
