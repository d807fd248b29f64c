import VulnProbe.Json.Basic
import VulnProbe.Report.RunId
import VulnProbe.Report.Timestamp
import VulnProbe.Run.Verification

namespace VulnProbe

/-- When a run took place, under which identifier. -/
structure RunTimes where
  runId : RunId
  startedAt : Timestamp
  finishedAt : Timestamp
  durationMs : Nat
  deriving DecidableEq, Repr, Inhabited

/-- One run as it is recorded. `matched` is missing if the run reached no verdict. -/
structure Report where
  times : RunTimes
  poc : String
  pocPath : String
  target : String
  matched : Option Bool
  state : RunState
  error : Option String
  errorType : Option String
  rulesExecuted : Nat
  params : Json
  deriving Inhabited

namespace Report

/-- The report of a run with a verdict. -/
def ofOutcome (o : Outcome) (pocPath : String) (times : RunTimes) : Report where
  times := times
  poc := o.poc
  pocPath := pocPath
  target := o.target
  matched := some o.matched
  state := o.state
  error := none
  errorType := none
  rulesExecuted := o.rulesExecuted
  params := o.params.toJson

/-- The report of a run that failed. -/
def ofFailure (f : Failure) (poc pocPath target : String) (times : RunTimes) : Report where
  times := times
  poc := poc
  pocPath := pocPath
  target := target
  matched := none
  state := .aborted
  error := some f.message
  errorType := some f.kind
  rulesExecuted := f.rulesExecuted
  params := .null

/-- Whether a run confirmed its definition. -/
def isMatch (r : Report) : Bool :=
  r.matched == some true

/-- Whether a run failed. -/
def isError (r : Report) : Bool :=
  r.error.isSome

end Report

/-- The totals of a batch. -/
structure Summary where
  total : Nat
  matched : Nat
  rejected : Nat
  errors : Nat
  deriving DecidableEq, Repr, Inhabited

namespace Summary

/-- Counts one verdict. -/
def count (s : Summary) (r : Report) : Summary :=
  match r.matched with
  | some true => { s with matched := s.matched + 1 }
  | some false => { s with rejected := s.rejected + 1 }
  | none => { s with errors := s.errors + 1 }

/-- The totals of some reports. -/
def ofReports (reports : List Report) : Summary :=
  reports.foldl count ⟨reports.length, 0, 0, 0⟩

end Summary

end VulnProbe
