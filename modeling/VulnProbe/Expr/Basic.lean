import VulnProbe.Expr.Value

namespace VulnProbe

namespace Expr

/-- A sign before an operand. -/
inductive UnaryOp where
  | not
  | neg
  deriving DecidableEq, Repr, Inhabited

/-- An operator between two operands. -/
inductive BinaryOp where
  | add
  | sub
  | mul
  | div
  | rem
  | lt
  | le
  | gt
  | ge
  | eq
  | ne
  | isIn
  | and
  | or
  deriving DecidableEq, Repr, Inhabited

/-- How a sign is written. -/
def UnaryOp.symbol : UnaryOp → String
  | .not => "!"
  | .neg => "-"

/-- How an operator is written. -/
def BinaryOp.symbol : BinaryOp → String
  | .add => "+"
  | .sub => "-"
  | .mul => "*"
  | .div => "/"
  | .rem => "%"
  | .lt => "<"
  | .le => "<="
  | .gt => ">"
  | .ge => ">="
  | .eq => "=="
  | .ne => "!="
  | .isIn => "in"
  | .and => "&&"
  | .or => "||"

end Expr

/-- An expression. -/
inductive Expr where
  | literal (v : Value)
  | ident (name : String)
  | list (items : List Expr)
  | map (entries : List (Expr × Expr))
  | select (operand : Expr) (field : String)
  | index (operand i : Expr)
  | call (function : String) (args : List Expr)
  | method (receiver : Expr) (name : String) (args : List Expr)
  | unary (op : Expr.UnaryOp) (operand : Expr)
  | binary (op : Expr.BinaryOp) (lhs rhs : Expr)
  | cond (test yes no : Expr)
  deriving Inhabited

namespace Expr

mutual
/-- The number of levels of a tree; a literal, a name or an empty list has one. -/
def height : Expr → Nat
  | .literal _ => 1
  | .ident _ => 1
  | .list items => heightAll items + 1
  | .map entries => heightEntries entries + 1
  | .select operand _ => height operand + 1
  | .index operand i => max (height operand) (height i) + 1
  | .call _ args => heightAll args + 1
  | .method receiver _ args => max (height receiver) (heightAll args) + 1
  | .unary _ operand => height operand + 1
  | .binary _ lhs rhs => max (height lhs) (height rhs) + 1
  | .cond test yes no => max (max (height test) (height yes)) (height no) + 1

/-- The height of the tallest of some trees. -/
def heightAll : List Expr → Nat
  | [] => 0
  | e :: rest => max (height e) (heightAll rest)

/-- The height of the tallest key or value. -/
def heightEntries : List (Expr × Expr) → Nat
  | [] => 0
  | (k, v) :: rest => max (max (height k) (height v)) (heightEntries rest)
end

mutual
/-- The variables that occur in an expression. -/
def names : Expr → List String
  | .literal _ => []
  | .ident name => [name]
  | .list items => namesAll items
  | .map entries => namesEntries entries
  | .select operand _ => names operand
  | .index operand i => names operand ++ names i
  | .call _ args => namesAll args
  | .method receiver _ args => names receiver ++ namesAll args
  | .unary _ operand => names operand
  | .binary _ lhs rhs => names lhs ++ names rhs
  | .cond test yes no => names test ++ names yes ++ names no

/-- The variables that occur in some expressions. -/
def namesAll : List Expr → List String
  | [] => []
  | e :: rest => names e ++ namesAll rest

/-- The variables that occur in keys and values. -/
def namesEntries : List (Expr × Expr) → List String
  | [] => []
  | (k, v) :: rest => names k ++ names v ++ namesEntries rest
end

end Expr

end VulnProbe
