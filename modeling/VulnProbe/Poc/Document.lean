import VulnProbe.Poc.Basic
import VulnProbe.Text.Basic
import VulnProbe.Yaml.Shape

namespace VulnProbe

open Yaml (Node Decoder)

/-- A rule. All but its expression may be missing. -/
def Rule.decode (n : Node) : Decoder Rule := do
  let fields ← Decoder.entries n
  let method ← Decoder.orElse fields "method" Decoder.text "GET"
  let path ← Decoder.orElse fields "path" Decoder.text ""
  let body ← Decoder.orElse fields "body" Decoder.text ""
  let headers ← Decoder.orElse fields "headers" Decoder.texts []
  let followRedirects ← Decoder.orElse fields "follow_redirects" Decoder.flag true
  let search ← Decoder.orNone fields "search" Decoder.text
  let expression ← Decoder.required fields "expression" Decoder.text
  pure ⟨method, path, body, Dict.ofList headers, followRedirects, search, expression⟩

/-- What a definition tells about itself. -/
def Detail.decode (n : Node) : Decoder Detail := do
  let fields ← Decoder.entries n
  let author ← Decoder.orNone fields "author" Decoder.text
  let description ← Decoder.orNone fields "description" Decoder.text
  let links ← Decoder.orElse fields "links" (Decoder.sequence Decoder.text) []
  pure ⟨author, description, links⟩

/-- Pairs without those whose key comes again later. -/
def lastOfEach {α : Type} : List (String × α) → List (String × α)
  | [] => []
  | (key, value) :: rest =>
    if (rest.lookup key).isSome then lastOfEach rest else (key, value) :: lastOfEach rest

/-- A definition. All its parts may be missing, and fields that are not known do not matter. -/
def Poc.decode (n : Node) : Decoder Poc := do
  let fields ← Decoder.entries n
  let name ← Decoder.orElse fields "name" Decoder.text ""
  let set ← Decoder.orElse fields "set" Decoder.texts []
  let rules ← Decoder.orElse fields "rules" (Decoder.sequence Rule.decode) []
  let detail ← Decoder.orNone fields "detail" Detail.decode
  pure ⟨name, lastOfEach set, rules, detail⟩

/-- Whether the expression of a rule is blank. -/
def Rule.isBlank (r : Rule) : Bool :=
  Text.isBlankText r.expression

/-- The definition that a text holds. It needs a rule, and no expression of a rule may be blank. -/
def Poc.ofText (text : String) : Except PocIssue Poc := do
  let poc ← (Decoder.decodeText Poc.decode text).mapError PocIssue.yaml
  if poc.rules.isEmpty then .error .noRules
  else
    match poc.rules.findIdx? Rule.isBlank with
    | some index => .error (.emptyExpression index)
    | none => .ok poc

end VulnProbe
