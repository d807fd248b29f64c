import VulnProbe.Dict

namespace VulnProbe

/-- A request to send, and the expression that judges its response. `search` is a pattern whose named
    groups are bound from the body before that. -/
structure Rule where
  method : String
  path : String
  body : String
  headers : Dict String
  followRedirects : Bool
  search : Option String
  expression : String
  deriving DecidableEq, Repr, Inhabited

/-- What a definition tells about itself. -/
structure Detail where
  author : Option String
  description : Option String
  links : List String
  deriving DecidableEq, Repr, Inhabited

/-- A definition. The entries of `set` are kept in the order in which they are declared, each name
    once. -/
structure Poc where
  name : String
  set : List (String × String)
  rules : List Rule
  detail : Option Detail
  deriving DecidableEq, Repr, Inhabited

/-- A pattern to search for; an empty one is none. -/
def Rule.searchPattern? (r : Rule) : Option String :=
  r.search.filter (· ≠ "")

/-- The entries of `set` in the order of their names. -/
def Poc.sortedSet (p : Poc) : Dict String :=
  Dict.ofList p.set

end VulnProbe
