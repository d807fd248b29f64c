import VulnProbe.Command.Basic
import VulnProbe.Config.Target
import VulnProbe.Poc.Files
import VulnProbe.Report.Document
import VulnProbe.Report.Lines
import VulnProbe.Run.Verification

namespace VulnProbe

open Files (Disk)

/-- What a command leaves: the lines it prints, a file that it writes, and how it ends. Only a batch has
    a summary. -/
structure Finished where
  lines : List String
  written : Option (String × String)
  outcome : Except Failure (Option Summary)

/-- The end of a command that fails at once. -/
def Finished.failed (f : Failure) : Finished :=
  ⟨[], none, .error f⟩

/-- The exit code of a command. -/
def Finished.exitCode (x : Finished) : Nat :=
  match x.outcome with
  | .ok _ => 0
  | .error f => f.exitCode

/-- What runs take from outside: answers to requests, random numbers, and the time and identifier of
    each run. -/
structure Surroundings where
  transport : Transport
  draws : Expr.Draws
  times : Nat → RunTimes

/-- One definition, as it was loaded, and one target. A definition that could not be loaded fails for
    each target and does not stop the others. -/
structure Job where
  path : String
  poc : Except Failure Poc
  target : String

namespace Job

/-- Every definition with every target. -/
def all (definitions : List (String × Except Failure Poc)) (targets : List String) : List Job :=
  definitions.flatMap fun (path, poc) => targets.map fun target => ⟨path, poc, target⟩

/-- The report of a job. A definition that was not loaded goes by the name of its file. -/
def report (job : Job) (callbacks : Callbacks) (around : Surroundings) (times : RunTimes) : Report :=
  match job.poc with
  | .error f => .ofFailure f (Files.stem job.path) job.path job.target times
  | .ok poc =>
    match (poc.verify callbacks around.transport 0 job.target around.draws).result with
    | .error f => .ofFailure f poc.name job.path job.target times
    | .ok o => .ofOutcome o job.path times

/-- The report of the job with a number. Each job draws apart from the others. -/
def numberedReport (settings : Settings) (around : Surroundings) (number : Nat) (job : Job) :
    Report :=
  let draws := around.draws.child number
  job.report (Callbacks.under settings.callbackUrl (draws.child 0))
    { around with draws := draws.child 1 } (around.times number)

end Job

namespace BatchOptions

/-- The settings and the jobs of a batch. -/
def prepare (o : BatchOptions) (disk : Disk) : Except Failure (Settings × List Job) := do
  let config ← match o.config with
    | some path => Config.load disk path
    | none => .ok Config.empty
  let settings ← Settings.resolve o.overrides config
  let paths ← Poc.discover disk o.location
  let targets ← Target.collect disk o.targets o.targetsFile
  if isHeaderValue settings.userAgent then
    .ok (settings, Job.all (paths.map fun path => (path, Poc.load disk path)) targets)
  else .error (.config .badUserAgent)

/-- The lines of reports. Quiet batches show only what is confirmed. -/
def reportLines (o : BatchOptions) (quiet hasColor : Bool) (reports : List Report) : List String :=
  if o.json then []
  else (reports.filter fun r => !quiet || r.isMatch).map (Report.line hasColor)

/-- Presents reports, in the order in which they are given. The document is written before anything is
    printed after the lines of the reports. -/
def present (o : BatchOptions) (quiet hasColor : Bool) (disk : Disk) (reports : List Report) :
    Finished :=
  let summary := Summary.ofReports reports
  let document := Report.renderDocument reports
  let lines := o.reportLines quiet hasColor reports
  let last :=
    if o.json then [document] else if quiet then [] else [summary.line hasColor]
  match o.output with
  | none => ⟨lines ++ last, none, .ok (some summary)⟩
  | some path =>
    match disk.checkWrite path with
    | .error issue => ⟨lines, none, .error (.io issue)⟩
    | .ok _ => ⟨lines ++ last, some (path, document), .ok (some summary)⟩

/-- Runs a batch. -/
def run (o : BatchOptions) (quiet hasColor : Bool) (disk : Disk) (around : Surroundings) :
    Finished :=
  match o.prepare disk with
  | .error f => .failed f
  | .ok (settings, jobs) =>
    o.present quiet hasColor disk (jobs.mapIdx (Job.numberedReport settings around))

end BatchOptions

namespace Poc

/-- Loads and checks the definition in a file. -/
def check (disk : Disk) (path : String) : Except Failure Poc := do
  let poc ← load disk path
  poc.validate
  pure poc

/-- The line for a definition that was checked. Quiet checks show only what is wrong. -/
def checkLine? (quiet hasColor : Bool) (path : String) : Except Failure Poc → Option String
  | .error f => some (tinted hasColor .red "✗" ++ " " ++ path ++ " " ++ f.message)
  | .ok poc =>
    if quiet then none
    else some (tinted hasColor .green "✓" ++ " " ++ path ++ " (" ++ poc.name ++ ": "
      ++ toString poc.set.length ++ " set, " ++ toString poc.rules.length ++ " rules)")

/-- Checks the definitions at a location. -/
def checkAll (location : String) (quiet hasColor : Bool) (disk : Disk) : Finished :=
  match discover disk location with
  | .error f => .failed f
  | .ok paths =>
    let checked := paths.map fun path => (path, check disk path)
    let lines := checked.filterMap fun (path, poc) => checkLine? quiet hasColor path poc
    let failed := checked.countP fun (_, poc) => !poc.isOk
    ⟨lines, none,
      if failed = 0 then .ok none
      else .error (.definitionLoad (.failedValidation failed paths.length))⟩

end Poc

/-- Runs a command. The terminal has colours if `hasColor` holds. -/
def Invocation.run (i : Invocation) (hasColor : Bool) (disk : Disk) (around : Surroundings) :
    Finished :=
  let hasColor := hasColor && !i.noColor
  match i.command with
  | .verify options => options.run i.quiet hasColor disk around
  | .validate location => Poc.checkAll location i.quiet hasColor disk

end VulnProbe
