import VulnProbe.Expr.Value

namespace VulnProbe

/-- The declared type of a name; `dyn` promises nothing. -/
inductive DeclType where
  | bool
  | int
  | string
  | bytes
  | list
  | map
  | url
  | request
  | response
  | reverse
  | dyn
  deriving DecidableEq, Repr, Inhabited

/-- Why a field cannot be selected. -/
inductive FieldIssue where
  | notSelectable (type : DeclType)
  | noField (type : DeclType) (field : String)
  deriving DecidableEq, Repr

namespace DeclType

/-- Every type. -/
def all : List DeclType :=
  [.bool, .int, .string, .bytes, .list, .map, .url, .request, .response, .reverse, .dyn]

/-- The name of a type. -/
def name : DeclType → String
  | .bool => "bool"
  | .int => "int"
  | .string => "string"
  | .bytes => "bytes"
  | .list => "list"
  | .map => "map"
  | .url => "url"
  | .request => "request"
  | .response => "response"
  | .reverse => "reverse"
  | .dyn => "dyn"

/-- The type with a name. -/
def ofName? (s : String) : Option DeclType :=
  all.find? (·.name == s)

/-- The type of a value; `null` has none. -/
def ofValue : Value → Option DeclType
  | .null => none
  | .bool _ => some .bool
  | .int _ => some .int
  | .string _ => some .string
  | .bytes _ => some .bytes
  | .list _ => some .list
  | .map _ => some .map
  | .url _ => some .url
  | .request _ => some .request
  | .response _ => some .response
  | .reverse _ => some .reverse

/-- The type of a field of a structured type. -/
def structField? : DeclType → String → Option DeclType
  | .response, "status" => some .int
  | .response, "body" => some .bytes
  | .response, "headers" => some .map
  | .response, "content_type" => some .string
  | .request, "url" => some .url
  | .reverse, "url" => some .url
  | .reverse, "domain" => some .string
  | .reverse, "ip" => some .string
  | .reverse, "port" => some .string
  | .url, "scheme" => some .string
  | .url, "host" => some .string
  | .url, "domain" => some .string
  | .url, "port" => some .string
  | .url, "path" => some .string
  | .url, "query" => some .string
  | .url, "fragment" => some .string
  | _, _ => none

/-- The type of a field: anything may be selected from a map or an unknown type, nothing from a
    scalar or a list, and only its own fields from a structured type. -/
def fieldType (t : DeclType) (field : String) : Except FieldIssue DeclType :=
  match t with
  | .dyn | .map => .ok .dyn
  | .response | .request | .reverse | .url =>
    match structField? t field with
    | some found => .ok found
    | none => .error (.noField t field)
  | .bool | .int | .string | .bytes | .list => .error (.notSelectable t)

end DeclType

/-- The text of a field issue. -/
def FieldIssue.message : FieldIssue → String
  | .notSelectable t => s!"type '{t.name}' does not support field selection"
  | .noField t field => s!"type '{t.name}' has no field '{field}'"

end VulnProbe
