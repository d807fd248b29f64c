import VulnProbe.Expr.Apply
import VulnProbe.Expr.Basic

namespace VulnProbe.Expr

/-- Demands a truth value for an operator. -/
def truth (op : String) : Value → Outcome Bool
  | .bool b => .ok b
  | v => .error (.notBool op v.typeName)

/-- Selects a field of a structured value, or the entry of a map under a key. -/
def selectField (v : Value) (field : String) : Outcome Value :=
  match v with
  | .map entries =>
    match Dict.get? field entries with
    | some found => .ok found
    | none => .error (.noKey field)
  | v =>
    match structField? v field with
    | some found => .ok found
    | none => .error (.noField field v.typeName)

/-- Selects an item of a list by its place, or the entry of a map under a key. -/
def selectIndex (v i : Value) : Outcome Value :=
  match v, i with
  | .list items, .int i =>
    match if 0 ≤ i then items[i.toNat]? else none with
    | some found => .ok found
    | none => .error (.outOfRange i items.length)
  | .map entries, .string key =>
    match Dict.get? key entries with
    | some found => .ok found
    | none => .error (.noKey key)
  | v, i => .error (.noIndexOverload v.typeName i.typeName)

/-- The value of a sign before an operand. -/
def applyUnary (op : UnaryOp) (v : Value) : Outcome Value :=
  match op, v with
  | .not, .bool b => .ok (.bool !b)
  | .neg, .int i => bounded (-i)
  | op, v => .error (.noUnaryOverload op.symbol v.typeName)

/-- A quotient or remainder; the divisor must not be zero, and the exact quotient, rounded towards
    zero, must be in range. -/
def applyDivision (result a b : Int) : Outcome Value :=
  if b = 0 then .error .divisionByZero
  else if !inRange (a.tdiv b) then .error .overflow
  else .ok (.int result)

/-- The value of an operator between two numbers. -/
def applyToInts (op : BinaryOp) (a b : Int) : Outcome Value :=
  match op with
  | .add => bounded (a + b)
  | .sub => bounded (a - b)
  | .mul => bounded (a * b)
  | .div => applyDivision (a.tdiv b) a b
  | .rem => applyDivision (a.tmod b) a b
  | .lt => .ok (.bool (a < b))
  | .le => .ok (.bool (a ≤ b))
  | .gt => .ok (.bool (b < a))
  | .ge => .ok (.bool (b ≤ a))
  | op => .error (.noBinaryOverload "int" op.symbol "int")

/-- The value of an operator between two texts, which are ordered by their code points. -/
def applyToTexts (op : BinaryOp) (a b : String) : Outcome Value :=
  match op with
  | .add => .ok (.string (a ++ b))
  | .lt => .ok (.bool (a < b))
  | .le => .ok (.bool !(b < a))
  | .gt => .ok (.bool (b < a))
  | .ge => .ok (.bool !(a < b))
  | op => .error (.noBinaryOverload "string" op.symbol "string")

/-- The value of an operator that needs both operands. Any two values can be compared. -/
def applyBinary (op : BinaryOp) (l r : Value) : Outcome Value :=
  match op, l, r with
  | .eq, l, r => .ok (.bool (l == r))
  | .ne, l, r => .ok (.bool !(l == r))
  | op, .int a, .int b => applyToInts op a b
  | op, .string a, .string b => applyToTexts op a b
  | .add, .bytes a, .bytes b => .ok (.bytes (a ++ b))
  | .add, .list a, .list b => .ok (.list (a ++ b))
  | .isIn, needle, .list items => .ok (.bool (items.any (· == needle)))
  | .isIn, .string key, .map entries => .ok (.bool (Dict.contains key entries))
  | op, l, r => .error (.noBinaryOverload l.typeName op.symbol r.typeName)

mutual
/-- The value of an expression when names have the given values. Operands are evaluated from left to
    right, and the first failure is the failure of the whole; `&&`, `||` and the conditional leave out
    what they do not need. -/
def value (env : String → Option Value) (draws : Draws) : Expr → Outcome Value
  | .literal v => .ok v
  | .ident name =>
    match env name with
    | some v => .ok v
    | none => .error (.unbound name)
  | .list items => do
    let vs ← values env draws 0 items
    .ok (.list vs)
  | .map entries => do
    let found ← mapEntries env draws 0 [] entries
    .ok (.map found)
  | .select operand field => do
    let v ← value env (draws.child 0) operand
    selectField v field
  | .index operand i => do
    let v ← value env (draws.child 0) operand
    let i ← value env (draws.child 1) i
    selectIndex v i
  | .call function args => do
    let vs ← values env draws 1 args
    callFunction function vs (draws.child 0)
  | .method receiver name args => do
    let v ← value env (draws.child 0) receiver
    let vs ← values env draws 1 args
    callMethod v name vs
  | .unary op operand => do
    let v ← value env (draws.child 0) operand
    applyUnary op v
  | .binary .and lhs rhs => do
    let l ← value env (draws.child 0) lhs
    if ← truth "&&" l then
      let r ← value env (draws.child 1) rhs
      let b ← truth "&&" r
      .ok (.bool b)
    else .ok (.bool false)
  | .binary .or lhs rhs => do
    let l ← value env (draws.child 0) lhs
    if ← truth "||" l then .ok (.bool true)
    else
      let r ← value env (draws.child 1) rhs
      let b ← truth "||" r
      .ok (.bool b)
  | .binary op lhs rhs => do
    let l ← value env (draws.child 0) lhs
    let r ← value env (draws.child 1) rhs
    applyBinary op l r
  | .cond test yes no => do
    let t ← value env (draws.child 0) test
    if ← truth "?:" t then value env (draws.child 1) yes
    else value env (draws.child 2) no

/-- The values of expressions in order; the draws of the first have the number `i`. -/
def values (env : String → Option Value) (draws : Draws) (i : Nat) :
    List Expr → Outcome (List Value)
  | [] => .ok []
  | e :: rest => do
    let v ← value env (draws.child i) e
    let vs ← values env draws (i + 1) rest
    .ok (v :: vs)

/-- The entries of a map after those already known. A later entry takes the place of an earlier one
    with its key. -/
def mapEntries (env : String → Option Value) (draws : Draws) (i : Nat) (known : Dict Value) :
    List (Expr × Expr) → Outcome (Dict Value)
  | [] => .ok known
  | (k, v) :: rest => do
    match ← value env (draws.child i) k with
    | .string key =>
      let v ← value env (draws.child (i + 1)) v
      mapEntries env draws (i + 2) (known.insert key v) rest
    | other => .error (.keyNotText other.typeName)
end

/-- The value of an expression, or its error. -/
def evaluate (e : Expr) (env : String → Option Value) (draws : Draws) : Except ExprError Value :=
  match value env draws e with
  | .ok v => .ok v
  | .error issue => .error (.runtimeError issue)

end VulnProbe.Expr
