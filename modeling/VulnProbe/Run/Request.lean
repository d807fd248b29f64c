import VulnProbe.Expr.Value
import VulnProbe.Failure
import VulnProbe.Poc.Basic
import VulnProbe.Text.Basic
import VulnProbe.Text.Casing
import VulnProbe.Text.Utf8
import VulnProbe.Url.Parser

namespace VulnProbe

/-- A request with all placeholders replaced. -/
structure Request where
  method : String
  url : String
  body : List UInt8
  headers : Dict String
  noFollowRedirects : Bool
  timeoutSeconds : Nat
  deriving DecidableEq, Repr, Inhabited

/-- How long a probe may take. -/
def probeTimeoutSeconds : Nat := 10

/-- The user agent of probes, unless another one is set. -/
def defaultUserAgent : String := "pocverify/1.0.0"

/-- The request of a rule, whose path follows the target as it is. -/
def Rule.request (r : Rule) (target : String) : Request where
  method := r.method
  url := target ++ r.path
  body := Utf8.ofString r.body
  headers := r.headers
  noFollowRedirects := !r.followRedirects
  timeoutSeconds := probeTimeoutSeconds

/-- A character of an HTTP token. -/
def isTokenChar (c : Char) : Bool :=
  c.isAlphanum || "!#$%&\x27*+-.^_`|~".contains c

/-- Whether a header can have a value: it has no control characters but tabs. -/
def isHeaderValue (value : String) : Bool :=
  value.toList.all fun c => c == '\t' || (32 ≤ c.toNat && c.toNat != 127)

/-- The method of a request in capitals, without outer blanks; none if it is no HTTP token. -/
def Request.method? (r : Request) : Option String :=
  let m := Text.upper (Text.trim r.method)
  if m ≠ "" && m.toList.all isTokenChar then some m else none

/-- Whether a header can be sent: its name is an HTTP token. -/
def isHeader (name value : String) : Bool :=
  name ≠ "" && name.utf8ByteSize < 65536 && name.toList.all isTokenChar && isHeaderValue value

/-- Why a request cannot be sent, if so: its method, its URL or a header is malformed. -/
def Request.issue? (r : Request) : Option TransportIssue :=
  match r.method?, Url.parse r.url with
  | none, _ => some (.badMethod r.method)
  | some _, .error _ => some .badRequest
  | some _, .ok _ => if r.headers.all fun (name, value) => isHeader name value then none
    else some .badRequest

/-- What a transport answers to one request. -/
abbrev Answer := Except TransportIssue Response

/-- The answer to a request, by how many requests were sent before it. -/
abbrev Transport := Nat → Request → Answer

namespace Transport

/-- Answers with the members of a list in turn, and fails after them. -/
def ofList (answers : List Answer) : Transport := fun k _ =>
  (answers[k]?).getD (.error .noMoreAnswers)

/-- A transport that was asked so many times before. -/
def after (t : Transport) (count : Nat) : Transport := fun k r =>
  t (count + k) r

/-- A transport without a network: it only finds out which requests cannot be sent at all. -/
def offline : Transport := fun _ r =>
  .error (r.issue?.getD .noMoreAnswers)

end Transport

end VulnProbe
