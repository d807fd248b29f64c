import VulnProbe.Config.Basic

namespace VulnProbe

/-- What a batch of runs is asked for: the location of the definitions, targets, and what is done with
    the reports. -/
structure BatchOptions where
  location : String
  targets : List String
  targetsFile : Option String
  config : Option String
  overrides : Overrides
  json : Bool
  output : Option String
  deriving DecidableEq, Repr, Inhabited

/-- A command: to verify targets, or to check definitions without any. -/
inductive Command where
  | verify (options : BatchOptions)
  | validate (location : String)
  deriving DecidableEq, Repr, Inhabited

/-- A command with what holds for every command. -/
structure Invocation where
  verbosity : Nat
  quiet : Bool
  noColor : Bool
  command : Command
  deriving DecidableEq, Repr, Inhabited

/-- Why arguments tell no command. The first two are no mistakes. -/
inductive UsageIssue where
  | helpWanted
  | versionWanted
  | nothingGiven
  | missingCommand
  | unknownCommand
  | unknownArgument
  | missingArgument
  | missingValue
  | excessValue
  | badValue
  | repeated
  deriving DecidableEq, Repr

/-- The exit code of a program whose arguments tell no command. -/
def UsageIssue.exitCode : UsageIssue → Nat
  | .helpWanted | .versionWanted => 0
  | _ => 2

end VulnProbe
