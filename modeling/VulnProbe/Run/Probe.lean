import VulnProbe.Expr.Apply
import VulnProbe.Run.Registry
import VulnProbe.Run.Request
import VulnProbe.Run.Template

namespace VulnProbe

/-- The named groups of the first match of a pattern in a body, as texts; none if the text is no
    pattern, has no named group or does not match. A group that took no part is empty. -/
def extractCaptures? (pattern : String) (body : List UInt8) : Option (Dict String) :=
  match Regex.compile pattern with
  | .error _ => none
  | .ok r =>
    if r.groups.all (·.2.isNone) then none
    else (r.captures? body).map fun groups =>
      Dict.ofList (groups.map fun (name, bytes) => (name, Expr.groupText bytes))

/-- Where a run stands. -/
inductive RunState where
  | idle
  | running
  | confirmed
  | rejected
  | aborted
  deriving DecidableEq, Repr, Inhabited

/-- The name of a state. -/
def RunState.name : RunState → String
  | .idle => "idle"
  | .running => "running"
  | .confirmed => "confirmed"
  | .rejected => "rejected"
  | .aborted => "aborted"

/-- Everything that rules change: the bindings, the state, the number of rules that got a response, and
    the requests sent so far. -/
structure Run where
  params : Params
  state : RunState
  executed : Nat
  sent : List Request
  deriving Inhabited

/-- What the rules of a run do not change. -/
structure Context where
  target : String
  registry : Registry
  transport : Transport

namespace Run

/-- A run before its first rule. -/
def start (params : Params) : Run :=
  ⟨params, .idle, 0, []⟩

/-- Sends a request, and takes the answer to it. -/
def send (run : Run) (transport : Transport) (request : Request) : Answer × Run :=
  (transport run.sent.length request, { run with sent := run.sent ++ [request] })

/-- Binds a response and counts it. -/
def receive (run : Run) (r : Response) : Run :=
  { run with params := run.params.setResponse r, executed := run.executed + 1 }

/-- Ends in a state. -/
def finish (run : Run) (state : RunState) : Run :=
  { run with state := state }

/-- Binds what a rule searches for in a response; none if there is no evidence. -/
def search? (run : Run) (rule : Rule) (r : Response) : Option Run :=
  match rule.searchPattern? with
  | none => some run
  | some pattern =>
    (extractCaptures? pattern r.body).map fun captures =>
      { run with params := run.params.mergeCaptures captures }

/-- The text of a value that rejects a run. -/
def rejection : String := "false"

/-- Judges the response by the expression of a rule. The result tells whether the run goes on. -/
def judge (run : Run) (context : Context) (draws : Expr.Draws) (index : Nat) (rule : Rule) :
    Except Failure Bool × Run :=
  match context.registry.evaluate run.params draws rule.expression with
  | .error cause => (.error (.ofRule index cause), run.finish .aborted)
  | .ok v => if v.text == rejection then (.ok false, run.finish .rejected) else (.ok true, run)

/-- Probes one rule: sends its request, binds the response and what is captured from it, and judges it
    by its expression. The result tells whether the run goes on. Each rule has its own draws, numbered
    by the responses before it. -/
def probe (run : Run) (context : Context) (draws : Expr.Draws) (index : Nat) (rule : Rule) :
    Except Failure Bool × Run :=
  let draws := draws.child run.executed
  let rule := rule.substitute run.params
  match run.send context.transport (rule.request context.target) with
  | (.error issue, run) => (.error (.transport index issue), run.finish .aborted)
  | (.ok response, run) =>
    let run := run.receive response
    match run.search? rule response with
    | none => (.ok false, run.finish .rejected)
    | some run => run.judge context draws index rule

/-- Probes rules in order; the first has the index given. -/
def probeAll (context : Context) (draws : Expr.Draws) :
    Nat → List Rule → Run → Except Failure Bool × Run
  | _, [], run => (.ok true, run)
  | index, rule :: rest, run =>
    match run.probe context draws index rule with
    | (.ok true, run) => probeAll context draws (index + 1) rest run
    | stopped => stopped

/-- Executes rules. The first rule without evidence or with the verdict `false` rejects the run; a
    failure of the transport or of an expression aborts it. Without any rule there is nothing to
    confirm. -/
def execute (run : Run) (context : Context) (draws : Expr.Draws) (rules : List Rule) :
    Except Failure Bool × Run :=
  match probeAll context draws 0 rules (run.finish .running) with
  | (.ok true, run) =>
    if rules.isEmpty then (.ok false, run.finish .rejected) else (.ok true, run.finish .confirmed)
  | stopped => stopped

end Run

end VulnProbe
