import VulnProbe.Expr.Apply
import VulnProbe.Expr.Eval
import VulnProbe.Expr.Parser
import VulnProbe.Expr.Typing
import VulnProbe.Failure
import VulnProbe.Poc.Basic
import VulnProbe.Run.Params

namespace VulnProbe

/-- The type that the look of a source declares. A source that gives a URL is declared as text, because
    URLs are bound as their text. -/
def inferType (source : String) : Except DeclIssue DeclType :=
  let source := Text.trim source
  let startsWithAny (heads : List String) : Bool :=
    heads.any fun head => head.toList.isPrefixOf source.toList
  if source == "" then .error .emptySource
  else if source == Expr.newReverseSource then .ok .reverse
  else if source == requestName then .ok .request
  else if source == responseName then .ok .response
  else if source == "true" || source == "false" then .ok .bool
  else if (Expr.intOfText? source).isSome || startsWithAny ["randomInt(", "int(", "size("] then .ok .int
  else if startsWithAny ["b\"", "b\x27", "bytes(", "base64Decode("] then .ok .bytes
  else .ok .string

/-- The declared types of names. An entry is declared by the look of its source, before anything is
    evaluated; a value bound before that declares its own type. -/
abbrev Registry := Dict DeclType

namespace Registry

/-- The names that are declared before any other. -/
def initial : Registry :=
  Dict.ofList [(requestName, .request), (responseName, .response)]

/-- Declares an entry by its source, and tells the type. The names declared first keep their types. -/
def declareSource (registry : Registry) (name source : String) : Except Failure (DeclType × Registry) :=
  match inferType source with
  | .error issue => .error (.typeDeclaration name issue)
  | .ok t =>
    if name == requestName || name == responseName then .ok (t, registry)
    else .ok (t, registry.insert name t)

/-- Declares a name by the value it is bound to, and tells the type. -/
def declareValue (registry : Registry) (name : String) (v : Value) :
    Except Failure (DeclType × Registry) :=
  match DeclType.ofValue v with
  | none => .error (.typeDeclaration name (.untyped v.typeName))
  | some t => .ok (t, registry.insert name t)

/-- Declares entries in order. -/
def declareSources (registry : Registry) : List (String × String) → Except Failure Registry
  | [] => .ok registry
  | (name, source) :: rest => do
    let (_, registry) ← registry.declareSource name source
    declareSources registry rest

/-- Declares bound names in order. -/
def declareValues (registry : Registry) : List (String × Value) → Except Failure Registry
  | [] => .ok registry
  | (name, v) :: rest => do
    let (_, registry) ← registry.declareValue name v
    declareValues registry rest

/-- The declarations of the entries of a definition. -/
def ofPoc (poc : Poc) : Except Failure Registry :=
  initial.declareSources poc.set

/-- The type of a name: that of the value it is bound to, else the declared one. -/
def typeOf? (registry : Registry) (params : Params) (name : String) : Option DeclType :=
  ((Dict.get? name params).bind DeclType.ofValue).orElse fun _ => Dict.get? name registry

/-- The tree of a source that passes the static check. -/
def compile (registry : Registry) (params : Params) (source : String) : Except ExprError Expr := do
  let e ← Expr.parse source
  let _ ← e.check (registry.typeOf? params)
  .ok e

/-- The value of a source under the bindings. -/
def evaluate (registry : Registry) (params : Params) (draws : Expr.Draws) (source : String) :
    Except ExprError Value := do
  let e ← registry.compile params source
  e.evaluate (fun name => Dict.get? name params) draws

end Registry

end VulnProbe
