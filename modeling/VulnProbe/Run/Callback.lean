import VulnProbe.Expr.Apply
import VulnProbe.Failure
import VulnProbe.Text.Basic

namespace VulnProbe

/-- The URLs that are handed out, by how many were handed out before. At such a URL a target can be seen
    to call back. -/
abbrev Callbacks := Nat → Except CallbackIssue String

namespace Callbacks

/-- Hands out the URLs of a list. -/
def ofList (urls : List String) : Callbacks := fun k =>
  match urls[k]? with
  | some url => .ok url
  | none => .error .notConfigured

/-- The number of characters of a token. -/
def tokenLength : Nat := 12

/-- A character of a token: a digit or a small letter. -/
def tokenChar (n : Nat) : Char :=
  let n := n % 36
  if n < 10 then Char.ofNat (48 + n) else Char.ofNat (87 + n)

/-- A random token. -/
def token (draws : Expr.Draws) : String :=
  String.ofList ((List.range tokenLength).map fun i => tokenChar (draws.child i).value)

/-- The URL of a token under a base URL: the base without its outer blanks and closing slashes, and
    the token as a further path segment. -/
def urlUnder (base token : String) : String :=
  String.ofList (Text.dropEnd (· == '/') (Text.trimChars base.toList)) ++ "/" ++ token

/-- Hands out random URLs under a base URL; a blank base is none. -/
def under (base : Option String) (draws : Expr.Draws) : Callbacks := fun k =>
  match base.filter fun b => !Text.isBlankText b with
  | some b => .ok (urlUnder b (token (draws.child k)))
  | none => .error .notConfigured

end Callbacks

end VulnProbe
