import VulnProbe.Expr.DeclType

namespace VulnProbe.Expr

/-- A function. -/
inductive Builtin where
  | newReverse
  | randomInt
  | randomLowercase
  | base64
  | base64Decode
  | urlencode
  | urldecode
  | hexEncode
  | sha256
  | substr
  | string
  | int
  | bytes
  | size
  | urlParse
  deriving DecidableEq, Repr, Inhabited

namespace Builtin

/-- Every function. -/
def all : List Builtin :=
  [.newReverse, .randomInt, .randomLowercase, .base64, .base64Decode, .urlencode, .urldecode,
    .hexEncode, .sha256, .substr, .string, .int, .bytes, .size, .urlParse]

/-- The name of a function. -/
def name : Builtin → String
  | .newReverse => "newReverse"
  | .randomInt => "randomInt"
  | .randomLowercase => "randomLowercase"
  | .base64 => "base64"
  | .base64Decode => "base64Decode"
  | .urlencode => "urlencode"
  | .urldecode => "urldecode"
  | .hexEncode => "hexEncode"
  | .sha256 => "sha256"
  | .substr => "substr"
  | .string => "string"
  | .int => "int"
  | .bytes => "bytes"
  | .size => "size"
  | .urlParse => "urlParse"

/-- The function with a name. -/
def ofName? (s : String) : Option Builtin :=
  all.find? (·.name == s)

/-- The type of what a function gives. -/
def resultType : Builtin → DeclType
  | .newReverse => .reverse
  | .randomInt | .int | .size => .int
  | .randomLowercase | .base64 | .urlencode | .urldecode | .hexEncode | .sha256 | .substr
  | .string => .string
  | .base64Decode | .bytes => .bytes
  | .urlParse => .url

end Builtin

/-- A method. The names with `b` take bytes. -/
inductive Method where
  | contains
  | bcontains
  | icontains
  | «matches»
  | bmatches
  | startsWith
  | bstartsWith
  | endsWith
  | lower
  | upper
  | submatch
  | bsubmatch
  | concat
  deriving DecidableEq, Repr, Inhabited

namespace Method

/-- Every method. -/
def all : List Method :=
  [.contains, .bcontains, .icontains, .matches, .bmatches, .startsWith, .bstartsWith, .endsWith,
    .lower, .upper, .submatch, .bsubmatch, .concat]

/-- The name of a method. -/
def name : Method → String
  | .contains => "contains"
  | .bcontains => "bcontains"
  | .icontains => "icontains"
  | .matches => "matches"
  | .bmatches => "bmatches"
  | .startsWith => "startsWith"
  | .bstartsWith => "bstartsWith"
  | .endsWith => "endsWith"
  | .lower => "lower"
  | .upper => "upper"
  | .submatch => "submatch"
  | .bsubmatch => "bsubmatch"
  | .concat => "concat"

/-- The method with a name. -/
def ofName? (s : String) : Option Method :=
  all.find? (·.name == s)

/-- The type of what a method gives. What is joined to a text or byte string keeps its type. -/
def resultType (m : Method) (receiver : DeclType) : DeclType :=
  match m with
  | .contains | .bcontains | .icontains | .matches | .bmatches | .startsWith | .bstartsWith
  | .endsWith => .bool
  | .lower | .upper => .string
  | .submatch | .bsubmatch => .map
  | .concat => if receiver = .string ∨ receiver = .bytes then receiver else .dyn

end Method

/-- The value of a field of a structured value; none for a field it does not have and for the other
    values. -/
def structField? (v : Value) (field : String) : Option Value :=
  match v with
  | .response r =>
    if field == "status" then some (.int r.status)
    else if field == "body" then some (.bytes r.body)
    else if field == "content_type" then some (.string r.contentType)
    else if field == "headers" then some (.map (r.headers.mapValues .string))
    else none
  | .request u => if field == "url" then some (.url u) else none
  | .reverse u =>
    if field == "url" then some (.url u)
    else if field == "domain" then some (.string u.domain)
    else if field == "ip" then some (.string (if u.isAddress then u.domain else ""))
    else if field == "port" then some (.string u.portText)
    else none
  | .url u =>
    if field == "scheme" then some (.string u.scheme)
    else if field == "host" then some (.string u.hostText)
    else if field == "domain" then some (.string u.domain)
    else if field == "port" then some (.string u.portText)
    else if field == "path" then some (.string u.path)
    else if field == "query" then some (.string u.queryText)
    else if field == "fragment" then some (.string u.fragmentText)
    else none
  | _ => none

end VulnProbe.Expr
