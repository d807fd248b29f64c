import VulnProbe.Expr.Lexer
import VulnProbe.Proofs.Expr.Grammar

namespace VulnProbe

namespace Expr

/-- The next tighter level, if there is one. -/
def Level.tighter (l : Level) : Level :=
  l.tighter?.getD l

/-- The tightest level that a tree is of without parentheses. -/
def level : Expr → Level
  | .literal (.int i) => if i < 0 then .sign else .primary
  | .literal _ | .ident _ | .list _ | .map _ | .call _ _ => .primary
  | .select _ _ | .index _ _ | .method _ _ _ => .postfixed
  | .unary _ _ => .sign
  | .binary op _ _ => op.level
  | .cond _ _ _ => .expression

/-- What is written for a literal. -/
def literalPieces : Value → List Token
  | .null => [.ident "null"]
  | .bool b => [.ident (if b then "true" else "false")]
  | .int i => [.int i]
  | .string s => [.str s]
  | .bytes bs => [.bytes bs]
  | _ => []

/-- The pieces of a tree where a tree of some level is wanted: in parentheses if the tree is looser. -/
def enclose (wanted : Level) (e : Expr) (pieces : List Token) : List Token :=
  if wanted.rank ≤ e.level.rank then pieces else .lparen :: pieces ++ [.rparen]

mutual
/-- What is written for a tree, piece by piece. A piece is a token, but an integer has its sign. -/
def pieces : Expr → List Token
  | .literal v => literalPieces v
  | .ident name => [.ident name]
  | .list items => .lbracket :: piecesAll items ++ [.rbracket]
  | .map entries => .lbrace :: piecesEntries entries ++ [.rbrace]
  | .select operand field => enclose .postfixed operand (pieces operand) ++ [.dot, .ident field]
  | .index operand i =>
    enclose .postfixed operand (pieces operand) ++ .lbracket :: pieces i ++ [.rbracket]
  | .call function args => .ident function :: .lparen :: piecesAll args ++ [.rparen]
  | .method receiver name args =>
    enclose .postfixed receiver (pieces receiver) ++
      .dot :: .ident name :: .lparen :: piecesAll args ++ [.rparen]
  | .unary op operand => op.token :: enclose .sign operand (pieces operand)
  | .binary op lhs rhs =>
    enclose op.level lhs (pieces lhs) ++ op.token :: enclose op.level.tighter rhs (pieces rhs)
  | .cond test yes no =>
    enclose .or test (pieces test) ++ .question :: enclose .or yes (pieces yes) ++ .colon :: pieces no

/-- What is written for trees with commas between them. -/
def piecesAll : List Expr → List Token
  | [] => []
  | [e] => pieces e
  | e :: rest => pieces e ++ .comma :: piecesAll rest

/-- What is written for the entries of a map. -/
def piecesEntries : List (Expr × Expr) → List Token
  | [] => []
  | [(k, v)] => pieces k ++ .colon :: pieces v
  | (k, v) :: rest => pieces k ++ .colon :: pieces v ++ .comma :: piecesEntries rest
end

end Expr

namespace Token

/-- A character of a text between double quotes. -/
def escaped (c : Char) : List Char :=
  if c = '\\' ∨ c = '"' then ['\\', c] else [c]

/-- How a piece is written. -/
def text : Token → String
  | .int i => toString i
  | .str s => String.ofList ('"' :: s.toList.flatMap escaped ++ ['"'])
  | .bytes bs =>
    String.ofList ('b' :: '"' :: bs.flatMap (fun b => '\\' :: 'x' :: Hex.byteDigits b) ++ ['"'])
  | .ident name => name
  | .lparen => "("
  | .rparen => ")"
  | .lbracket => "["
  | .rbracket => "]"
  | .lbrace => "\x7b"
  | .rbrace => "\x7d"
  | .dot => "."
  | .comma => ","
  | .colon => ":"
  | .question => "?"
  | .plus => "+"
  | .minus => "-"
  | .star => "*"
  | .slash => "/"
  | .percent => "%"
  | .bang => "!"
  | .lt => "<"
  | .le => "<="
  | .gt => ">"
  | .ge => ">="
  | .eqEq => "=="
  | .ne => "!="
  | .andAnd => "&&"
  | .orOr => "||"
  | .endOfInput => ""

end Token

namespace Expr

/-- The text of a tree, with one space between two pieces. -/
def print (e : Expr) : String :=
  " ".intercalate (e.pieces.map Token.text)

/-- A character that a name of ASCII characters may start with. -/
def isAsciiHead (c : Char) : Bool :=
  c.isAlpha || c == '_'

/-- A character that may continue a name of ASCII characters. -/
def isAsciiTail (c : Char) : Bool :=
  c.isAlphanum || c == '_'

/-- A name of ASCII characters. -/
def isAsciiName (name : String) : Bool :=
  match name.toList with
  | [] => false
  | c :: cs => isAsciiHead c && cs.all isAsciiTail

/-- The literals that can be written: the least integer cannot, since its digits alone are too great. -/
def isPrintableLiteral : Value → Bool
  | .null | .bool _ | .string _ | .bytes _ => true
  | .int i => minInt < i && i ≤ maxInt
  | _ => false

/-- An integer under a minus would be folded into one literal. -/
def isFolded : UnaryOp → Expr → Bool
  | .neg, .literal (.int _) => true
  | _, _ => false

mutual
/-- The trees that can be written and read back. -/
def isPrintable : Expr → Bool
  | .literal v => isPrintableLiteral v
  | .ident name => isAsciiName name && !decide (IsConstantName name)
  | .list items => isPrintableAll items
  | .map entries => isPrintableEntries entries
  | .select operand field => isPrintable operand && isAsciiName field
  | .index operand i => isPrintable operand && isPrintable i
  | .call function args =>
    isAsciiName function && !decide (IsConstantName function) && isPrintableAll args
  | .method receiver name args => isPrintable receiver && isAsciiName name && isPrintableAll args
  | .unary op operand => isPrintable operand && !isFolded op operand
  | .binary _ lhs rhs => isPrintable lhs && isPrintable rhs
  | .cond test yes no => isPrintable test && isPrintable yes && isPrintable no

/-- All of some trees can be written. -/
def isPrintableAll : List Expr → Bool
  | [] => true
  | e :: rest => isPrintable e && isPrintableAll rest

/-- All keys and values can be written. -/
def isPrintableEntries : List (Expr × Expr) → Bool
  | [] => true
  | (k, v) :: rest => isPrintable k && isPrintable v && isPrintableEntries rest
end

/-- Trees can be written together if each of them can. -/
theorem isPrintableAll_iff {es : List Expr} :
    isPrintableAll es = true ↔ ∀ e ∈ es, isPrintable e = true := by
  induction es with
  | nil => simp [isPrintableAll]
  | cons e es ih => simp [isPrintableAll, ih]

/-- Entries can be written if all keys and all values can. -/
theorem isPrintableEntries_iff {ps : List (Expr × Expr)} :
    isPrintableEntries ps = true ↔ ∀ p ∈ ps, isPrintable p.1 = true ∧ isPrintable p.2 = true := by
  induction ps with
  | nil => simp [isPrintableEntries]
  | cons p ps ih => simp [isPrintableEntries, ih]

end Expr

end VulnProbe
