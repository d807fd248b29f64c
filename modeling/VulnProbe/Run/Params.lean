import VulnProbe.Expr.Value

namespace VulnProbe

/-- The name of the latest response. -/
def responseName : String := "response"

/-- The name of the request to the target. -/
def requestName : String := "request"

/-- The name of the entry that is bound last. -/
def payloadName : String := "payload"

/-- The values that names are bound to. They grow from the binding of the entries to the last rule, and
    the latest response is among them. -/
abbrev Params := Dict Value

namespace Params

/-- Binds the latest response. -/
def setResponse (params : Params) (r : Response) : Params :=
  params.insert responseName (.response r)

/-- The latest response, if its name is bound to one. -/
def response? (params : Params) : Option Response :=
  match Dict.get? responseName params with
  | some (.response r) => some r
  | _ => none

/-- Binds captured texts, in place of what their names were bound to. -/
def mergeCaptures (params : Params) (captures : Dict String) : Params :=
  params.insertAll (captures.mapValues .string)

/-- The JSON form of the bindings. -/
def toJson (params : Params) : Json :=
  .object (params.mapValues Value.toJson)

end Params

end VulnProbe
