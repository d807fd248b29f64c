import VulnProbe.Files.Disk
import VulnProbe.Run.Request
import VulnProbe.Text.Basic
import VulnProbe.Url.Parser
import VulnProbe.Yaml.Shape

namespace VulnProbe

open Yaml (Node Decoder)

/-- Settings for callbacks. -/
structure CallbackConfig where
  url : Option String
  deriving DecidableEq, Repr, Inhabited

/-- Settings for requests. -/
structure HttpConfig where
  userAgent : Option String
  deriving DecidableEq, Repr, Inhabited

/-- Settings for batches. -/
structure ScanConfig where
  workers : Option Nat
  deriving DecidableEq, Repr, Inhabited

/-- A configuration. A section that is missing is told from an empty one. -/
structure Config where
  callback : Option CallbackConfig
  http : Option HttpConfig
  scan : Option ScanConfig
  deriving DecidableEq, Repr, Inhabited

namespace Config

/-- A configuration that says nothing. -/
def empty : Config :=
  ⟨none, none, none⟩

/-- The URL under which callbacks are allocated. -/
def callbackUrl? (c : Config) : Option String :=
  c.callback.bind (·.url)

/-- The user agent of requests. -/
def userAgent? (c : Config) : Option String :=
  c.http.bind (·.userAgent)

/-- The number of runs at a time. -/
def workers? (c : Config) : Option Nat :=
  c.scan.bind (·.workers)

/-- The configuration of a document. -/
def decode (n : Node) : Decoder Config := do
  let fields ← Decoder.entries n
  let callback ← Decoder.orNone fields "reverse" fun n => do
    pure ⟨← Decoder.orNone (← Decoder.entries n) "url" Decoder.text⟩
  let http ← Decoder.orNone fields "http" fun n => do
    pure ⟨← Decoder.orNone (← Decoder.entries n) "user_agent" Decoder.text⟩
  let scan ← Decoder.orNone fields "scan" fun n => do
    pure ⟨← Decoder.orNone (← Decoder.entries n) "workers" Decoder.count⟩
  pure ⟨callback, http, scan⟩

/-- Whether a scheme is one that requests can be sent with. -/
def isHttp (scheme : String) : Bool :=
  scheme = "http" || scheme = "https"

/-- What is wrong with a configuration, if anything: it needs a worker, and callbacks need an HTTP
    URL. -/
def issue? (c : Config) : Option ConfigIssue :=
  if c.workers? = some 0 then some .noWorkers
  else
    match c.callbackUrl? with
    | none => none
    | some text =>
      match Url.parse text with
      | .error issue => some (.badCallbackUrl text issue)
      | .ok url => if isHttp url.scheme then none else some (.badCallbackScheme url.scheme)

/-- The configuration that a text holds. A blank text says nothing. -/
def ofText (text : String) : Except Failure Config :=
  if Text.isBlankText text then .ok empty
  else
    match Decoder.decodeText decode text with
    | .error issue => .error (.yaml issue)
    | .ok c =>
      match c.issue? with
      | some issue => .error (.config issue)
      | none => .ok c

/-- The configuration in a file. -/
def load (disk : Files.Disk) (path : String) : Except Failure Config :=
  if !disk.exists? path then .error (.config (.notFound path))
  else if disk.isTooLarge path then .error (.config .tooLarge)
  else
    match disk.read path with
    | .error issue => .error (.io issue)
    | .ok text => ofText text

end Config

/-- Settings that are given for one command. -/
structure Overrides where
  callbackUrl : Option String
  userAgent : Option String
  workers : Option Nat
  deriving DecidableEq, Repr, Inhabited

/-- What a batch runs with. -/
structure Settings where
  callbackUrl : Option String
  userAgent : String
  workers : Nat
  deriving DecidableEq, Repr, Inhabited

/-- The number of runs at a time, unless another one is set. -/
def defaultWorkers : Nat := 8

/-- The settings of a command: its own, and for the others those of the configuration. A blank user
    agent is none. -/
def Settings.resolve (given : Overrides) (c : Config) : Except Failure Settings :=
  let workers := (given.workers.or c.workers?).getD defaultWorkers
  let userAgent := (given.userAgent.or c.userAgent?).filter fun s => !Text.isBlankText s
  if workers = 0 then .error (.config .noWorkersGiven)
  else .ok ⟨given.callbackUrl.or c.callbackUrl?, userAgent.getD defaultUserAgent, workers⟩

end VulnProbe
