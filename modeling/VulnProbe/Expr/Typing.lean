import VulnProbe.Expr.Basic
import VulnProbe.Expr.Builtin
import VulnProbe.Expr.Error

namespace VulnProbe.Expr

/-- Whether an operator computes from two numbers or joins two values. -/
def BinaryOp.isArithmetic : BinaryOp → Bool
  | .add | .sub | .mul | .div | .rem => true
  | _ => false

/-- The type of two branches or operands together. -/
def commonType (a b : DeclType) : DeclType :=
  if a = b then a else .dyn

mutual
/-- The type of an expression when names have the given types. Every name must be known, every function
    and method must exist, and a field must belong to the structured type it is selected from. Scalars
    are only followed loosely: what is left over shows when the expression is evaluated. -/
def check (typeOf : String → Option DeclType) : Expr → Except ExprError DeclType
  | .literal v => .ok ((DeclType.ofValue v).getD .dyn)
  | .ident name =>
    match typeOf name with
    | some t => .ok t
    | none => .error (.checkError (.undeclaredName name))
  | .list items => do
    checkAll typeOf items
    pure .list
  | .map entries => do
    checkEntries typeOf entries
    pure .map
  | .select operand field => do
    let t ← check typeOf operand
    match t.fieldType field with
    | .ok found => pure found
    | .error issue => .error (.checkError (.field issue))
  | .index operand i => do
    let _ ← check typeOf operand
    let _ ← check typeOf i
    pure .dyn
  | .call function args => do
    checkAll typeOf args
    match Builtin.ofName? function with
    | some f => pure f.resultType
    | none => .error (.checkError (.undeclaredFunction function))
  | .method receiver name args => do
    let t ← check typeOf receiver
    checkAll typeOf args
    match Method.ofName? name with
    | some m => pure (m.resultType t)
    | none => .error (.checkError (.undeclaredMethod name))
  | .unary op operand => do
    let _ ← check typeOf operand
    pure (match op with
      | .not => .bool
      | .neg => .int)
  | .binary op lhs rhs => do
    let l ← check typeOf lhs
    let r ← check typeOf rhs
    pure (if op.isArithmetic then commonType l r else .bool)
  | .cond test yes no => do
    let _ ← check typeOf test
    let y ← check typeOf yes
    let n ← check typeOf no
    pure (commonType y n)

/-- Checks expressions in order. -/
def checkAll (typeOf : String → Option DeclType) : List Expr → Except ExprError Unit
  | [] => .ok ()
  | e :: rest => do
    let _ ← check typeOf e
    checkAll typeOf rest

/-- Checks keys and values in order. -/
def checkEntries (typeOf : String → Option DeclType) : List (Expr × Expr) → Except ExprError Unit
  | [] => .ok ()
  | (k, v) :: rest => do
    let _ ← check typeOf k
    let _ ← check typeOf v
    checkEntries typeOf rest
end

end VulnProbe.Expr
