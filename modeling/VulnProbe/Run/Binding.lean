import VulnProbe.Run.Callback
import VulnProbe.Run.Registry

namespace VulnProbe

/-- Whether an entry asks for a callback. -/
def asksCallback (source : String) : Bool :=
  source == Expr.newReverseSource

/-- Whether an entry reads from the request to the target. -/
def readsRequest (source : String) : Bool :=
  "request.".toList.isPrefixOf source.toList

/-- Binds the URL that is handed out as the `k`-th to a name. -/
def bindCallback (callbacks : Callbacks) (k : Nat) (name : String) (params : Params) :
    Except Failure Params :=
  match callbacks k with
  | .error issue => .error (.callback issue)
  | .ok text =>
    match Url.parseTrimmed text with
    | .error issue => .error (.callback (.badUrl text issue))
    | .ok u => .ok (params.insert name (.reverse u))

/-- Binds the request to the target, unless its name is bound. -/
def bindRequest (target : String) (params : Params) : Except Failure Params :=
  if params.contains requestName then .ok params
  else
    match Url.parseTrimmed target with
    | .error issue => .error (.badUrl target issue.message)
    | .ok u => .ok (params.insert requestName (.request u))

/-- The callbacks and the request of some entries, after `k` callbacks were handed out. Tells how many
    were handed out in the end. -/
def prepareFrom (callbacks : Callbacks) (target : String) :
    List (String × String) → Nat → Params → Except Failure Params × Nat
  | [], k, params => (.ok params, k)
  | (name, source) :: rest, k, params =>
    if asksCallback source then
      match bindCallback callbacks k name params with
      | .error f => (.error f, k + 1)
      | .ok params => prepareFrom callbacks target rest (k + 1) params
    else if readsRequest source then
      match bindRequest target params with
      | .error f => (.error f, k)
      | .ok params => prepareFrom callbacks target rest k params
    else prepareFrom callbacks target rest k params

/-- The bindings of a definition that are made before anything is evaluated: the callbacks and the
    request to the target. -/
def Poc.prepare (poc : Poc) (callbacks : Callbacks) (k : Nat) (target : String) :
    Except Failure Params × Nat :=
  prepareFrom callbacks target poc.sortedSet k []

/-- URLs are bound as their text. -/
def boundForm : Value → Value
  | .url u => .string u.text
  | v => v

/-- Whether an entry is bound in the order of the names: it asks for no callback, it is not the payload,
    and its name is not that of the response, which is bound by probes alone. -/
def isOrdinaryEntry (name source : String) : Bool :=
  !asksCallback source && name != payloadName && name != responseName

/-- Binds the ordinary ones of some entries in order; the draws of the first have the number `i`. Stops
    at the first that has no value, and tells why; the bindings made before it stay. -/
def resolveFrom (registry : Registry) (draws : Expr.Draws) :
    Nat → List (String × String) → Params → Params × Option Failure
  | _, [], params => (params, none)
  | i, (name, source) :: rest, params =>
    if isOrdinaryEntry name source then
      match registry.evaluate params (draws.child i) source with
      | .error cause => (params, some (.expression name cause))
      | .ok v => resolveFrom registry draws (i + 1) rest (params.insert name (boundForm v))
    else resolveFrom registry draws (i + 1) rest params

/-- Binds the payload, unless it asks for a callback. -/
def resolvePayload (registry : Registry) (draws : Expr.Draws) (poc : Poc) (params : Params) :
    Params × Option Failure :=
  match (Dict.get? payloadName poc.sortedSet).filter fun source => !asksCallback source with
  | none => (params, none)
  | some source =>
    match registry.evaluate params draws source with
    | .error cause => (params, some (.expression payloadName cause))
    | .ok v => (params.insert payloadName v, none)

/-- Binds the entries of a definition in the order of their names, each with the bindings made so far,
    and the payload last of all. The payload draws apart from the entries. -/
def Poc.resolve (poc : Poc) (registry : Registry) (draws : Expr.Draws) (params : Params) :
    Params × Option Failure :=
  match resolveFrom registry (draws.child 0) 0 poc.sortedSet params with
  | (params, some f) => (params, some f)
  | (params, none) => resolvePayload registry (draws.child 1) poc params

end VulnProbe
