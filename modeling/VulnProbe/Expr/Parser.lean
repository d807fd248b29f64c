import VulnProbe.Expr.Basic
import VulnProbe.Expr.Lexer

namespace VulnProbe.Expr.Parser

/-- The tokens not yet read; the last one, the end of input, is never passed. -/
abbrev Tokens := List Located

/-- A tree and its height, which may not be above `maxDepth`. -/
abbrev Node := Expr × Nat

/-- A reader takes the tokens not yet read and gives a result with what is left. -/
abbrev Reader (α : Type) := Tokens → Except ExprError (α × Tokens)

/-- The next token. -/
def peek : Tokens → Token
  | t :: _ => t.token
  | [] => .endOfInput

/-- The position of the next token. -/
def position : Tokens → Nat
  | t :: _ => t.pos
  | [] => 0

/-- The tokens after the next one. -/
def advance : Tokens → Tokens
  | _ :: t :: rest => t :: rest
  | ts => ts

/-- A fault at the next token. -/
def fail {α : Type} (ts : Tokens) (issue : SyntaxIssue) : Except ExprError α :=
  .error (.syntaxError (position ts) issue)

/-- Passes a given token. -/
def expect (wanted : Token) (ts : Tokens) : Except ExprError Tokens :=
  if peek ts = wanted then .ok (advance ts) else fail ts (.expected wanted (peek ts))

/-- A tree one level above its tallest child, with the tokens after it. -/
def node (e : Expr) (childHeight : Nat) (ts : Tokens) : Except ExprError (Node × Tokens) :=
  if childHeight + 1 > maxDepth then fail ts .tooDeep else .ok ((e, childHeight + 1), ts)

/-- The rest of a chain of operands of one level, with at most `fuel` more operators. The chain leans
    to the left. -/
def chainAfter (operator? : Token → Option BinaryOp) (operand : Reader Node) :
    Nat → Node → Reader Node
  | 0, lhs, ts => .ok (lhs, ts)
  | fuel + 1, lhs, ts =>
    match operator? (peek ts) with
    | none => .ok (lhs, ts)
    | some op =>
      match operand (advance ts) with
      | .error e => .error e
      | .ok (rhs, ts) =>
        match node (.binary op lhs.1 rhs.1) (max lhs.2 rhs.2) ts with
        | .error e => .error e
        | .ok (lhs, ts) => chainAfter operator? operand fuel lhs ts

/-- A chain of operands of one level. Each operator makes the tree higher, so `maxDepth` of them are
    more than any tree has. -/
def chain (operator? : Token → Option BinaryOp) (operand : Reader Node) : Reader Node := fun ts =>
  match operand ts with
  | .error e => .error e
  | .ok (lhs, ts) => chainAfter operator? operand maxDepth lhs ts

/-- The operator of the `||` level. -/
def orOp? : Token → Option BinaryOp
  | .orOr => some .or
  | _ => none

/-- The operator of the `&&` level. -/
def andOp? : Token → Option BinaryOp
  | .andAnd => some .and
  | _ => none

/-- The relations. -/
def relationOp? : Token → Option BinaryOp
  | .lt => some .lt
  | .le => some .le
  | .gt => some .gt
  | .ge => some .ge
  | .eqEq => some .eq
  | .ne => some .ne
  | .ident name => if name == "in" then some .isIn else none
  | _ => none

/-- The operators of the `+` level. -/
def sumOp? : Token → Option BinaryOp
  | .plus => some .add
  | .minus => some .sub
  | _ => none

/-- The operators of the `*` level. -/
def productOp? : Token → Option BinaryOp
  | .star => some .mul
  | .slash => some .div
  | .percent => some .rem
  | _ => none

/-- The rest of a bracketed list up to its closing token, after the trees already read in reverse and
    the tallest height among them, with at most `fuel` more trees. -/
def argumentsAfter (expression : Reader Node) (close : Token) :
    Nat → List Expr → Nat → Reader (List Expr × Nat)
  | 0, _, _, ts => fail ts (.unexpected (peek ts))
  | fuel + 1, read, height, ts =>
    match expression ts with
    | .error e => .error e
    | .ok ((e, h), ts) =>
      if peek ts = close then .ok (((e :: read).reverse, max height h), advance ts)
      else
        match expect .comma ts with
        | .error e => .error e
        | .ok ts => argumentsAfter expression close fuel (e :: read) (max height h) ts

/-- Expressions with commas between them up to a closing token, and the height of the tallest. -/
def arguments (expression : Reader Node) (close : Token) : Reader (List Expr × Nat) := fun ts =>
  if peek ts = close then .ok (([], 0), advance ts)
  else argumentsAfter expression close (ts.length + 1) [] 0 ts

/-- The rest of a map up to its closing brace, as `argumentsAfter`. -/
def entriesAfter (expression : Reader Node) :
    Nat → List (Expr × Expr) → Nat → Reader (List (Expr × Expr) × Nat)
  | 0, _, _, ts => fail ts (.unexpected (peek ts))
  | fuel + 1, read, height, ts =>
    match expression ts with
    | .error e => .error e
    | .ok ((key, hk), ts) =>
      match expect .colon ts with
      | .error e => .error e
      | .ok ts =>
        match expression ts with
        | .error e => .error e
        | .ok ((value, hv), ts) =>
          let height := max (max height hk) hv
          if peek ts = .rbrace then .ok ((((key, value) :: read).reverse, height), advance ts)
          else
            match expect .comma ts with
            | .error e => .error e
            | .ok ts => entriesAfter expression fuel ((key, value) :: read) height ts

/-- The entries of a map after its opening brace. -/
def entries (expression : Reader Node) : Reader (List (Expr × Expr) × Nat) := fun ts =>
  if peek ts = .rbrace then .ok (([], 0), advance ts)
  else entriesAfter expression (ts.length + 1) [] 0 ts

/-- A name in the place of an operand: a constant, a call or a variable. -/
def named (expression : Reader Node) (name : String) : Reader Node := fun ts =>
  if name == "true" then .ok ((.literal (.bool true), 1), ts)
  else if name == "false" then .ok ((.literal (.bool false), 1), ts)
  else if name == "null" then .ok ((.literal .null, 1), ts)
  else if peek ts = .lparen then
    match arguments expression .rparen (advance ts) with
    | .error e => .error e
    | .ok ((args, h), ts) => node (.call name args) h ts
  else .ok ((.ident name, 1), ts)

/-- An operand without what may follow it. The reader of the expressions inside it is given. -/
def primary (expression : Reader Node) : Reader Node := fun ts =>
  let rest := advance ts
  match peek ts with
  | .int i => .ok ((.literal (.int i), 1), rest)
  | .str s => .ok ((.literal (.string s), 1), rest)
  | .bytes bs => .ok ((.literal (.bytes bs), 1), rest)
  | .ident name => named expression name rest
  | .lparen =>
    match expression rest with
    | .error e => .error e
    | .ok (inner, ts) => (expect .rparen ts).map fun ts => (inner, ts)
  | .lbracket =>
    match arguments expression .rbracket rest with
    | .error e => .error e
    | .ok ((items, h), ts) => node (.list items) h ts
  | .lbrace =>
    match entries expression rest with
    | .error e => .error e
    | .ok ((es, h), ts) => node (.map es) h ts
  | found => fail rest (.unexpected found)

/-- A field or a method call after its dot. -/
def selection (expression : Reader Node) (operand : Node) : Reader Node := fun ts =>
  let rest := advance ts
  match peek ts with
  | .ident name =>
    if peek rest = .lparen then
      match arguments expression .rparen (advance rest) with
      | .error e => .error e
      | .ok ((args, h), ts) => node (.method operand.1 name args) (max operand.2 h) ts
    else node (.select operand.1 name) operand.2 rest
  | found => fail rest (.noFieldName found)

/-- An index after its opening bracket. -/
def indexing (expression : Reader Node) (operand : Node) : Reader Node := fun ts =>
  match expression ts with
  | .error e => .error e
  | .ok ((i, h), ts) =>
    match expect .rbracket ts with
    | .error e => .error e
    | .ok ts => node (.index operand.1 i) (max operand.2 h) ts

/-- The selections and indices that follow an operand, at most `fuel` of them. -/
def postfixAfter (expression : Reader Node) : Nat → Node → Reader Node
  | 0, operand, ts => .ok (operand, ts)
  | fuel + 1, operand, ts =>
    if peek ts = .dot then
      match selection expression operand (advance ts) with
      | .error e => .error e
      | .ok (operand, ts) => postfixAfter expression fuel operand ts
    else if peek ts = .lbracket then
      match indexing expression operand (advance ts) with
      | .error e => .error e
      | .ok (operand, ts) => postfixAfter expression fuel operand ts
    else .ok (operand, ts)

/-- An operand with what follows it, which makes the tree higher each time, as in a `chain`. -/
def postfixed (expression : Reader Node) : Reader Node := fun ts =>
  match primary expression ts with
  | .error e => .error e
  | .ok (operand, ts) => postfixAfter expression maxDepth operand ts

/-- A sign. -/
def signOp? : Token → Option UnaryOp
  | .bang => some .not
  | .minus => some .neg
  | _ => none

/-- A sign over an operand: a minus over an integer literal is part of the literal. -/
def signed (op : UnaryOp) (operand : Node) (ts : Tokens) : Except ExprError (Node × Tokens) :=
  match op, operand with
  | .neg, (.literal (.int i), h) => .ok ((.literal (.int (-i)), h), ts)
  | op, (e, h) => node (.unary op e) h ts

/-- Refuses to open one more expression or sign. -/
def tooDeep : Reader Node := fun ts =>
  fail ts .tooDeep

/-- An operand with its signs. `inner` reads what stands under a sign, one level deeper. -/
def unary (inner expression : Reader Node) : Reader Node := fun ts =>
  match signOp? (peek ts) with
  | none => postfixed expression ts
  | some op =>
    match inner (advance ts) with
    | .error e => .error e
    | .ok (operand, ts) => signed op operand ts

/-- Everything that binds tighter than the conditional, over the reader of operands with signs. -/
def disjunction (operand : Reader Node) : Reader Node :=
  chain orOp? (chain andOp? (chain relationOp? (chain sumOp? (chain productOp? operand))))

/-- A conditional or what binds tighter. `expression` reads the last branch. -/
def conditional (operand expression : Reader Node) : Reader Node := fun ts =>
  match disjunction operand ts with
  | .error e => .error e
  | .ok ((test, ht), ts) =>
    if peek ts = .question then
      match disjunction operand (advance ts) with
      | .error e => .error e
      | .ok ((yes, hy), ts) =>
        match expect .colon ts with
        | .error e => .error e
        | .ok ts =>
          match expression ts with
          | .error e => .error e
          | .ok ((no, hn), ts) => node (.cond test yes no) (max (max ht hy) hn) ts
    else .ok ((test, ht), ts)

/-- The readers of expressions and of operands with signs when `depth` more of them may be opened. The
    levels bind, from loosest to tightest: the conditional, `||`, `&&`, the relations, `+` and `-`, `*`
    `/` and `%`, the signs, and the selections that follow an operand. -/
def readers : Nat → Reader Node × Reader Node
  | 0 => (tooDeep, unary tooDeep tooDeep)
  | depth + 1 =>
    let inner := readers depth
    let expression := conditional inner.2 inner.1
    (expression, unary inner.2 expression)

/-- An expression, when `depth` more expressions and signs may be opened. -/
def expression (depth : Nat) : Reader Node :=
  (readers depth).1

end Parser

/-- The tree of a list of tokens. -/
def ofTokens (ts : Parser.Tokens) : Except ExprError Expr :=
  match Parser.expression maxDepth ts with
  | .error e => .error e
  | .ok ((e, _), ts) =>
    if Parser.peek ts = .endOfInput then .ok e
    else Parser.fail ts (.trailing (Parser.peek ts))

/-- The tree of an expression. -/
def parse (source : String) : Except ExprError Expr :=
  match tokenize source with
  | .error e => .error e
  | .ok ts => ofTokens ts

end VulnProbe.Expr
