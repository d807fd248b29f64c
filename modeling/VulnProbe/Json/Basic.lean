import VulnProbe.Dict

namespace VulnProbe

/-- The first number that has more than 64 bits: counts are below it. -/
def countLimit : Nat := 18446744073709551616

/-- A JSON value. Integers are exact; any other number is a binary floating-point number, kept as its 64
    bits. The members of an object are ordered by name. -/
inductive Json where
  | null
  | bool (b : Bool)
  | int (n : Int)
  | float (bits : UInt64)
  | string (s : String)
  | array (items : List Json)
  | object (members : List (String × Json))
  deriving Inhabited

namespace Json

/-- The object with the given members; the last one of a name counts. -/
def ofMembers (members : List (String × Json)) : Json :=
  .object (Dict.ofList members)

/-- The member of an object. -/
def get? (name : String) : Json → Option Json
  | .object members => Dict.get? name members
  | _ => none

/-- A text or `null`. -/
def ofString? : Option String → Json
  | some s => .string s
  | none => .null

/-- An integer that is not negative. -/
def ofNat (n : Nat) : Json :=
  .int n

end Json

end VulnProbe
