import VulnProbe.Dict
import VulnProbe.Json.Basic
import VulnProbe.Text.Utf8
import VulnProbe.Url.Basic

namespace VulnProbe

/-- What a probe observed. -/
structure Response where
  status : Int
  body : List UInt8
  headers : Dict String
  contentType : String
  deriving DecidableEq, Repr, Inhabited

/-- A value. `request` and `reverse` hold the URL of the target and of a callback listener. The
    entries of a map are ordered by key. -/
inductive Value where
  | null
  | bool (b : Bool)
  | int (i : Int)
  | string (s : String)
  | bytes (bs : List UInt8)
  | list (items : List Value)
  | map (entries : List (String × Value))
  | url (u : Url)
  | request (u : Url)
  | response (r : Response)
  | reverse (u : Url)
  deriving Inhabited

namespace Value

/-- The name of the type of a value. -/
def typeName : Value → String
  | .null => "null"
  | .bool _ => "bool"
  | .int _ => "int"
  | .string _ => "string"
  | .bytes _ => "bytes"
  | .list _ => "list"
  | .map _ => "map"
  | .url _ => "url"
  | .request _ => "request"
  | .response _ => "response"
  | .reverse _ => "reverse"

/-- The bytes of a text or byte string. -/
def bytes? : Value → Option (List UInt8)
  | .string s => some (Utf8.ofString s)
  | .bytes bs => some bs
  | _ => none

mutual
/-- The text form of a value, which templates and verdicts use. -/
def text : Value → String
  | .null => "null"
  | .bool b => if b then "true" else "false"
  | .int i => toString i
  | .string s => s
  | .bytes bs => Utf8.decodeLossy bs
  | .list items => "[" ++ " ".intercalate (itemTexts items) ++ "]"
  | .map entries => "map[" ++ " ".intercalate (entryTexts entries) ++ "]"
  | .url u => u.text
  | .request u => u.text
  | .response r => toString r.status
  | .reverse u => u.text

/-- The text forms of the items of a list. -/
def itemTexts : List Value → List String
  | [] => []
  | item :: rest => text item :: itemTexts rest

/-- The text forms of the entries of a map. -/
def entryTexts : List (String × Value) → List String
  | [] => []
  | (key, value) :: rest => (key ++ ":" ++ text value) :: entryTexts rest
end

mutual
/-- The JSON form of a value, for diagnosis. A response is told by its parts without the body. -/
def toJson : Value → Json
  | .null => .null
  | .bool b => .bool b
  | .int i => .int i
  | .list items => .array (itemsToJson items)
  | .map entries => .object (entriesToJson entries)
  | .response r => .ofMembers [
      ("status", .int r.status),
      ("content_type", .string r.contentType),
      ("headers", .object (r.headers.mapValues .string)),
      ("body_len", .ofNat r.body.length)]
  | .string s => .string s
  | .bytes bs => .string (text (.bytes bs))
  | .url u => .string u.text
  | .request u => .string u.text
  | .reverse u => .string u.text

/-- The JSON forms of the items of a list. -/
def itemsToJson : List Value → List Json
  | [] => []
  | item :: rest => toJson item :: itemsToJson rest

/-- The JSON forms of the entries of a map. -/
def entriesToJson : List (String × Value) → List (String × Json)
  | [] => []
  | (key, value) :: rest => (key, toJson value) :: entriesToJson rest
end

mutual
/-- Equality of values: the same type and the same content. -/
def beq : Value → Value → Bool
  | .null, .null => true
  | .bool a, .bool b => a == b
  | .int a, .int b => a == b
  | .string a, .string b => a == b
  | .bytes a, .bytes b => a == b
  | .list a, .list b => beqItems a b
  | .map a, .map b => beqEntries a b
  | .url a, .url b => a == b
  | .request a, .request b => a == b
  | .response a, .response b => a == b
  | .reverse a, .reverse b => a == b
  | _, _ => false

/-- Equality of lists of values, item by item. -/
def beqItems : List Value → List Value → Bool
  | [], [] => true
  | a :: as, b :: bs => beq a b && beqItems as bs
  | _, _ => false

/-- Equality of maps, entry by entry in the order of the keys. -/
def beqEntries : List (String × Value) → List (String × Value) → Bool
  | [], [] => true
  | (k, a) :: as, (l, b) :: bs => k == l && beq a b && beqEntries as bs
  | _, _ => false
end

instance : BEq Value := ⟨beq⟩

end Value

end VulnProbe
