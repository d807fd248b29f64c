import VulnProbe.Run.Binding
import VulnProbe.Run.Probe

namespace VulnProbe

/-- Checks the sources of entries in order, with nothing bound. -/
def checkEntries (registry : Registry) : List (String × String) → Except Failure Unit
  | [] => .ok ()
  | (name, source) :: rest =>
    if source == Expr.newReverseSource then checkEntries registry rest
    else
      match registry.compile [] source with
      | .error cause => .error (.expression name cause)
      | .ok _ => checkEntries registry rest

/-- Parses the expressions of rules in order; the first has the index given. -/
def checkRules (index : Nat) : List Rule → Except Failure Unit
  | [] => .ok ()
  | rule :: rest =>
    match Expr.parse rule.expression with
    | .error cause => .error (.ofRule index cause)
    | .ok _ => checkRules (index + 1) rest

/-- The static checks of a definition, which need no target. Each entry must be declared and pass the
    check, and the expression of each rule must parse. Rules are not checked further, because what they
    capture is only known in a run. -/
def Poc.validate (poc : Poc) : Except Failure Unit := do
  let registry ← Registry.ofPoc poc
  checkEntries registry poc.set
  checkRules 0 poc.rules

/-- The result of a run that reached a verdict. -/
structure Outcome where
  poc : String
  target : String
  matched : Bool
  state : RunState
  rulesExecuted : Nat
  params : Params
  deriving Inhabited

/-- A run as seen from outside: its result, the requests it sent, and how many callbacks were handed
    out by its end. -/
structure Verification where
  result : Except Failure Outcome
  sent : List Request
  allocated : Nat

namespace Poc

/-- The registry and the bindings with which the rules of a definition start, and how many callbacks
    were handed out. -/
def bind (poc : Poc) (callbacks : Callbacks) (allocated : Nat) (target : String)
    (draws : Expr.Draws) : Except Failure (Registry × Params) × Nat :=
  match Registry.ofPoc poc with
  | .error f => (.error f, allocated)
  | .ok registry =>
    match poc.prepare callbacks allocated target with
    | (.error f, allocated) => (.error f, allocated)
    | (.ok params, allocated) =>
      match registry.declareValues params with
      | .error f => (.error f, allocated)
      | .ok registry =>
        match poc.resolve registry draws params with
        | (_, some f) => (.error f, allocated)
        | (params, none) => (.ok (registry, params), allocated)

/-- Verifies a definition against a target, which must not be blank. `allocated` callbacks were handed
    out before. Binding and probing draw apart from each other. -/
def verify (poc : Poc) (callbacks : Callbacks) (transport : Transport) (allocated : Nat)
    (target : String) (draws : Expr.Draws) : Verification :=
  let target := Text.trim target
  if target == "" then ⟨.error (.target .empty), [], allocated⟩
  else
    match poc.bind callbacks allocated target (draws.child 0) with
    | (.error f, allocated) => ⟨.error f, [], allocated⟩
    | (.ok (registry, params), allocated) =>
      let context := ⟨target, registry, transport⟩
      match (Run.start params).execute context (draws.child 1) poc.rules with
      | (.error f, run) => ⟨.error f, run.sent, allocated⟩
      | (.ok matched, run) =>
        ⟨.ok ⟨poc.name, target, matched, run.state, run.executed, run.params⟩, run.sent, allocated⟩

end Poc

end VulnProbe
