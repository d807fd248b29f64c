import VulnProbe.Url.Host

namespace VulnProbe

/-- A parsed URL. Every component is kept as it is written in the canonical text. A URL without a
    host has no `//` part; the host of a file URL may be the empty name. -/
structure Url where
  scheme : String
  username : String
  password : Option String
  host : Option Host
  port : Option Nat
  path : String
  query : Option String
  fragment : Option String
  deriving DecidableEq, Repr, Inhabited

namespace Url

/-- The port that a scheme uses when none is written. -/
def defaultPort? (scheme : String) : Option Nat :=
  match scheme with
  | "http" => some 80
  | "ws" => some 80
  | "https" => some 443
  | "wss" => some 443
  | "ftp" => some 21
  | _ => none

/-- The user name and password as they stand before the host. -/
def credentialsText (u : Url) : String :=
  let secret := match u.password with
    | some p => ":" ++ p
    | none => ""
  if u.username == "" && u.password.isNone then "" else u.username ++ secret ++ "@"

/-- The `//` part. A path that starts with two slashes is set off when there is no host. -/
def authorityText (u : Url) : String :=
  match u.host with
  | some h =>
    let port := match u.port with
      | some n => ":" ++ toString n
      | none => ""
    "//" ++ u.credentialsText ++ h.text ++ port
  | none => if u.path.startsWith "//" then "/." else ""

/-- The canonical text. -/
def text (u : Url) : String :=
  let query := match u.query with
    | some q => "?" ++ q
    | none => ""
  let fragment := match u.fragment with
    | some f => "#" ++ f
    | none => ""
  u.scheme ++ ":" ++ u.authorityText ++ u.path ++ query ++ fragment

/-- The host without the port, empty where there is none. -/
def domain (u : Url) : String :=
  match u.host with
  | some h => h.text
  | none => ""

/-- The host with the port where one is written. -/
def hostText (u : Url) : String :=
  match u.host, u.port with
  | some h, some n => h.text ++ ":" ++ toString n
  | some h, none => h.text
  | none, _ => ""

/-- The port written or the usual one of the scheme, empty where there is neither. -/
def portText (u : Url) : String :=
  match u.port.orElse (fun _ => defaultPort? u.scheme) with
  | some n => toString n
  | none => ""

/-- The query without its question mark, empty where there is none. -/
def queryText (u : Url) : String :=
  u.query.getD ""

/-- The fragment without its hash mark, empty where there is none. -/
def fragmentText (u : Url) : String :=
  u.fragment.getD ""

/-- Whether the host is an address. -/
def isAddress (u : Url) : Bool :=
  match u.host with
  | some h => h.isAddress
  | none => false

end Url

end VulnProbe
