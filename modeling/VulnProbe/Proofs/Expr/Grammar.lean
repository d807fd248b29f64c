import VulnProbe.Expr.Basic
import VulnProbe.Expr.Token

namespace VulnProbe.Expr

/-- The levels of the grammar, from the loosest to the tightest. -/
inductive Level where
  | expression
  | or
  | and
  | relation
  | sum
  | product
  | sign
  | postfixed
  | primary
  deriving DecidableEq, Repr

namespace Level

/-- The next tighter level. A tree of that level is one of the looser level, too, except that an
    expression opens a level of its own. -/
def tighter? : Level → Option Level
  | .expression => none
  | .or => some .and
  | .and => some .relation
  | .relation => some .sum
  | .sum => some .product
  | .product => some .sign
  | .sign => some .postfixed
  | .postfixed => some .primary
  | .primary => none

/-- The place of a level, from the loosest to the tightest. -/
def rank : Level → Nat
  | .expression => 0
  | .or => 1
  | .and => 2
  | .relation => 3
  | .sum => 4
  | .product => 5
  | .sign => 6
  | .postfixed => 7
  | .primary => 8

/-- The ranks of the levels are consecutive. -/
theorem rank_of_tighter {l l' : Level} (hl : l.tighter? = some l') : l'.rank = l.rank + 1 := by
  cases l <;> cases hl <;> rfl

end Level

/-- The level of an operator between two operands. -/
def BinaryOp.level : BinaryOp → Level
  | .or => .or
  | .and => .and
  | .lt | .le | .gt | .ge | .eq | .ne | .isIn => .relation
  | .add | .sub => .sum
  | .mul | .div | .rem => .product

/-- The token of an operator between two operands. The keyword `in` is a name anywhere else. -/
def BinaryOp.token : BinaryOp → Token
  | .or => .orOr
  | .and => .andAnd
  | .lt => .lt
  | .le => .le
  | .gt => .gt
  | .ge => .ge
  | .eq => .eqEq
  | .ne => .ne
  | .isIn => .ident "in"
  | .add => .plus
  | .sub => .minus
  | .mul => .star
  | .div => .slash
  | .rem => .percent

/-- The token of a sign. -/
def UnaryOp.token : UnaryOp → Token
  | .not => .bang
  | .neg => .minus

/-- The tree of a sign over a tree; a minus over an integer literal is folded into the literal. -/
def UnaryOp.over : UnaryOp → Expr → Expr
  | .neg, .literal (.int i) => .literal (.int (-i))
  | op, e => .unary op e

/-- The names of constants, which are no variables and no functions. -/
def IsConstantName (name : String) : Prop :=
  name = "true" ∨ name = "false" ∨ name = "null"

instance (name : String) : Decidable (IsConstantName name) :=
  inferInstanceAs (Decidable (_ ∨ _ ∨ _))

/-- The tokens that are literals by themselves. -/
inductive LiteralToken : Token → Value → Prop where
  | int (i : Int) : LiteralToken (.int i) (.int i)
  | str (s : String) : LiteralToken (.str s) (.string s)
  | bytes (bs : List UInt8) : LiteralToken (.bytes bs) (.bytes bs)
  | true : LiteralToken (.ident "true") (.bool true)
  | false : LiteralToken (.ident "false") (.bool false)
  | null : LiteralToken (.ident "null") .null

/-- What a sequence of tokens may be: a tree of some level, trees with commas between them, or the
    entries of a map. `items` and `pairs` are not empty, `arguments` and `entries` may be. -/
inductive Phrase where
  | tree (l : Level) (e : Expr)
  | items (es : List Expr)
  | arguments (es : List Expr)
  | pairs (ps : List (Expr × Expr))
  | entries (ps : List (Expr × Expr))

/-- `DerivesBy signed p ts d`: the tokens `ts` derive the phrase `p`, where a sign before a tree makes the
    tree that `signed` says, and `d` is the greatest number of expressions and signs that are open at once
    on the way. -/
inductive DerivesBy (signed : UnaryOp → Expr → Expr) : Phrase → List Token → Nat → Prop where
  | plain {e : Expr} {ts : List Token} {d : Nat} (he : DerivesBy signed (.tree .or e) ts d) :
      DerivesBy signed (.tree .expression e) ts (d + 1)
  | conditional {test yes no : Expr} {ts us vs : List Token} {dt dy dn : Nat}
      (htest : DerivesBy signed (.tree .or test) ts dt) (hyes : DerivesBy signed (.tree .or yes) us dy)
      (hno : DerivesBy signed (.tree .expression no) vs dn) :
      DerivesBy signed (.tree .expression (.cond test yes no))
        (ts ++ .question :: us ++ .colon :: vs) (max (max dt dy) dn + 1)
  | tighten {l l' : Level} {e : Expr} {ts : List Token} {d : Nat} (hl : l.tighter? = some l')
      (he : DerivesBy signed (.tree l' e) ts d) : DerivesBy signed (.tree l e) ts d
  | binary {op : BinaryOp} {l' : Level} {lhs rhs : Expr} {ts us : List Token} {dl dr : Nat}
      (hl : op.level.tighter? = some l') (hlhs : DerivesBy signed (.tree op.level lhs) ts dl)
      (hrhs : DerivesBy signed (.tree l' rhs) us dr) :
      DerivesBy signed (.tree op.level (.binary op lhs rhs)) (ts ++ op.token :: us) (max dl dr)
  | sign {op : UnaryOp} {e : Expr} {ts : List Token} {d : Nat} (he : DerivesBy signed (.tree .sign e) ts d) :
      DerivesBy signed (.tree .sign (signed op e)) (op.token :: ts) (d + 1)
  | select {e : Expr} {name : String} {ts : List Token} {d : Nat}
      (he : DerivesBy signed (.tree .postfixed e) ts d) :
      DerivesBy signed (.tree .postfixed (.select e name)) (ts ++ [.dot, .ident name]) d
  | method {e : Expr} {name : String} {args : List Expr} {ts us : List Token} {d da : Nat}
      (he : DerivesBy signed (.tree .postfixed e) ts d) (hargs : DerivesBy signed (.arguments args) us da) :
      DerivesBy signed (.tree .postfixed (.method e name args))
        (ts ++ .dot :: .ident name :: .lparen :: us ++ [.rparen]) (max d da)
  | index {e i : Expr} {ts us : List Token} {d di : Nat} (he : DerivesBy signed (.tree .postfixed e) ts d)
      (hi : DerivesBy signed (.tree .expression i) us di) :
      DerivesBy signed (.tree .postfixed (.index e i)) (ts ++ .lbracket :: us ++ [.rbracket]) (max d di)
  | literal {t : Token} {v : Value} (ht : LiteralToken t v) :
      DerivesBy signed (.tree .primary (.literal v)) [t] 0
  | ident {name : String} (hname : ¬ IsConstantName name) :
      DerivesBy signed (.tree .primary (.ident name)) [.ident name] 0
  | call {name : String} {args : List Expr} {ts : List Token} {d : Nat} (hname : ¬ IsConstantName name)
      (hargs : DerivesBy signed (.arguments args) ts d) :
      DerivesBy signed (.tree .primary (.call name args)) (.ident name :: .lparen :: ts ++ [.rparen]) d
  | paren {e : Expr} {ts : List Token} {d : Nat} (he : DerivesBy signed (.tree .expression e) ts d) :
      DerivesBy signed (.tree .primary e) (.lparen :: ts ++ [.rparen]) d
  | list {es : List Expr} {ts : List Token} {d : Nat} (hes : DerivesBy signed (.arguments es) ts d) :
      DerivesBy signed (.tree .primary (.list es)) (.lbracket :: ts ++ [.rbracket]) d
  | map {ps : List (Expr × Expr)} {ts : List Token} {d : Nat} (hps : DerivesBy signed (.entries ps) ts d) :
      DerivesBy signed (.tree .primary (.map ps)) (.lbrace :: ts ++ [.rbrace]) d
  | noItems : DerivesBy signed (.arguments []) [] 0
  | someItems {es : List Expr} {ts : List Token} {d : Nat} (hes : DerivesBy signed (.items es) ts d) :
      DerivesBy signed (.arguments es) ts d
  | lastItem {e : Expr} {ts : List Token} {d : Nat} (he : DerivesBy signed (.tree .expression e) ts d) :
      DerivesBy signed (.items [e]) ts d
  | nextItem {e : Expr} {es : List Expr} {ts us : List Token} {d ds : Nat}
      (he : DerivesBy signed (.tree .expression e) ts d) (hes : DerivesBy signed (.items es) us ds) :
      DerivesBy signed (.items (e :: es)) (ts ++ .comma :: us) (max d ds)
  | noPairs : DerivesBy signed (.entries []) [] 0
  | somePairs {ps : List (Expr × Expr)} {ts : List Token} {d : Nat}
      (hps : DerivesBy signed (.pairs ps) ts d) :
      DerivesBy signed (.entries ps) ts d
  | lastPair {k v : Expr} {ts us : List Token} {dk dv : Nat}
      (hk : DerivesBy signed (.tree .expression k) ts dk)
      (hv : DerivesBy signed (.tree .expression v) us dv) :
      DerivesBy signed (.pairs [(k, v)]) (ts ++ .colon :: us) (max dk dv)
  | nextPair {k v : Expr} {ps : List (Expr × Expr)} {ts us vs : List Token} {dk dv ds : Nat}
      (hk : DerivesBy signed (.tree .expression k) ts dk) (hv : DerivesBy signed (.tree .expression v) us dv)
      (hps : DerivesBy signed (.pairs ps) vs ds) :
      DerivesBy signed (.pairs ((k, v) :: ps)) (ts ++ .colon :: us ++ .comma :: vs) (max (max dk dv) ds)

/-- The derivations of the language, in which a minus over an integer literal is folded into the literal. -/
abbrev Derives : Phrase → List Token → Nat → Prop :=
  DerivesBy UnaryOp.over

/-- The derivations in which each sign stands in the tree over its operand, whatever this is. -/
abbrev DerivesKept : Phrase → List Token → Nat → Prop :=
  DerivesBy .unary

/-- No tree is without height. -/
theorem height_pos (e : Expr) : 0 < e.height := by
  cases e <;> simp [height]

/-- A sign makes a tree at most one level higher, and never lower. -/
theorem height_over (op : UnaryOp) (e : Expr) :
    e.height ≤ (op.over e).height ∧ (op.over e).height ≤ e.height + 1 := by
  unfold UnaryOp.over
  split <;> simp [height]

end VulnProbe.Expr
