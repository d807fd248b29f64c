import VulnProbe.Json.Basic
import VulnProbe.Json.Printer
import VulnProbe.Report.Basic

namespace VulnProbe

namespace RunState

/-- Every state. -/
def all : List RunState :=
  [.idle, .running, .confirmed, .rejected, .aborted]

/-- The state that a JSON value tells: its name, or an object with the name alone. -/
def ofJson? : Json → Option RunState
  | .string s => all.find? (·.name == s)
  | .object [(s, .null)] => all.find? (·.name == s)
  | _ => none

end RunState

namespace Report

/-- A truth value or nothing, as JSON. -/
def flagJson : Option Bool → Json
  | some b => .bool b
  | none => .null

/-- What reports say, apart from the identifier and the times. Bindings that are `null` are left out. -/
def contentMembers (r : Report) : List (String × Json) :=
  let params := match r.params with
    | .null => []
    | params => [("params", params)]
  [("poc", .string r.poc), ("poc_path", .string r.pocPath), ("target", .string r.target),
    ("matched", flagJson r.matched), ("state", .string r.state.name), ("error", .ofString? r.error),
    ("error_type", .ofString? r.errorType), ("rules_executed", .ofNat r.rulesExecuted)] ++ params

/-- The identifier and the times of a report. -/
def timeMembers (r : Report) : List (String × Json) :=
  [("run_id", .string r.times.runId.text), ("started_at", .string r.times.startedAt.text),
    ("finished_at", .string r.times.finishedAt.text), ("duration_ms", .ofNat r.times.durationMs)]

/-- A report as JSON. -/
def toJson (r : Report) : Json :=
  .ofMembers (r.contentMembers ++ r.timeMembers)

/-- The text of a JSON text. -/
def text? : Json → Option String
  | .string s => some s
  | _ => none

/-- The number of 64 bits of a JSON number. -/
def count? : Json → Option Nat
  | .int n => if 0 ≤ n && n < countLimit then some n.toNat else none
  | _ => none

/-- A text, or nothing for `null`. -/
def optionalText? : Json → Option (Option String)
  | .null => some none
  | .string s => some (some s)
  | _ => none

/-- A truth value, or nothing for `null`. -/
def optionalFlag? : Json → Option (Option Bool)
  | .null => some none
  | .bool b => some (some b)
  | _ => none

/-- The names of the members of a report, in the order in which an array gives their values. -/
def memberNames : List String :=
  ["run_id", "poc", "poc_path", "target", "matched", "state", "error", "error_type",
    "rules_executed", "started_at", "finished_at", "duration_ms", "params"]

/-- The members of a report. An array gives all values in order; the bindings alone may be missing. -/
def members? : Json → Option (Dict Json)
  | .object members => some members
  | .array items =>
    if items.length == 12 || items.length == 13 then some (Dict.ofList (memberNames.zip items))
    else none
  | _ => none

/-- The report that a JSON value tells. What may be nothing may also be missing. -/
def ofJson? (j : Json) : Option Report := do
  let members ← members? j
  let get (name : String) : Option Json := Dict.get? name members
  let orNull (name : String) : Json := (get name).getD .null
  let runId ← RunId.parse? (← text? (← get "run_id"))
  let startedAt ← Timestamp.parse? (← text? (← get "started_at"))
  let finishedAt ← Timestamp.parse? (← text? (← get "finished_at"))
  let durationMs ← count? (← get "duration_ms")
  some {
    times := ⟨runId, startedAt, finishedAt, durationMs⟩
    poc := ← text? (← get "poc")
    pocPath := ← text? (← get "poc_path")
    target := ← text? (← get "target")
    matched := ← optionalFlag? (orNull "matched")
    state := ← RunState.ofJson? (← get "state")
    error := ← optionalText? (orNull "error")
    errorType := ← optionalText? (orNull "error_type")
    rulesExecuted := ← count? (← get "rules_executed")
    params := orNull "params" }

/-- The reports that an array tells. -/
def listOfJson? : Json → Option (List Report)
  | .array items => items.mapM ofJson?
  | _ => none

end Report

/-- A summary as JSON. -/
def Summary.toJson (s : Summary) : Json :=
  .ofMembers [("total", .ofNat s.total), ("matched", .ofNat s.matched),
    ("rejected", .ofNat s.rejected), ("errors", .ofNat s.errors)]

/-- The document of a batch. -/
def Report.document (reports : List Report) : Json :=
  .ofMembers [("summary", (Summary.ofReports reports).toJson),
    ("results", .array (reports.map Report.toJson))]

/-- The text of the document of a batch. -/
def Report.renderDocument (reports : List Report) : String :=
  (Report.document reports).pretty 0

end VulnProbe
