import VulnProbe.Text.Quoted

namespace VulnProbe

/-- A token. `endOfInput` closes every list of tokens. -/
inductive Token where
  | int (i : Int)
  | str (s : String)
  | bytes (bs : List UInt8)
  | ident (name : String)
  | lparen
  | rparen
  | lbracket
  | rbracket
  | lbrace
  | rbrace
  | dot
  | comma
  | colon
  | question
  | plus
  | minus
  | star
  | slash
  | percent
  | bang
  | lt
  | le
  | gt
  | ge
  | eqEq
  | ne
  | andAnd
  | orOr
  | endOfInput
  deriving DecidableEq, Repr, Inhabited

/-- A token and the number of characters before it. -/
structure Located where
  token : Token
  pos : Nat
  deriving DecidableEq, Repr, Inhabited

namespace Token

/-- The name of a kind of token. -/
def kindName : Token → String
  | .int _ => "Int"
  | .str _ => "Str"
  | .bytes _ => "Bytes"
  | .ident _ => "Ident"
  | .lparen => "LParen"
  | .rparen => "RParen"
  | .lbracket => "LBracket"
  | .rbracket => "RBracket"
  | .lbrace => "LBrace"
  | .rbrace => "RBrace"
  | .dot => "Dot"
  | .comma => "Comma"
  | .colon => "Colon"
  | .question => "Question"
  | .plus => "Plus"
  | .minus => "Minus"
  | .star => "Star"
  | .slash => "Slash"
  | .percent => "Percent"
  | .bang => "Bang"
  | .lt => "Lt"
  | .le => "Le"
  | .gt => "Gt"
  | .ge => "Ge"
  | .eqEq => "EqEq"
  | .ne => "Ne"
  | .andAnd => "AndAnd"
  | .orOr => "OrOr"
  | .endOfInput => "Eof"

/-- A token as messages show it: its kind, with its content in brackets. -/
def shown (t : Token) : String :=
  match t with
  | .int i => t.kindName ++ "(" ++ toString i ++ ")"
  | .str s => t.kindName ++ "(" ++ Text.quoted s ++ ")"
  | .bytes bs =>
    t.kindName ++ "([" ++ ", ".intercalate (bs.map fun b => toString b.toNat) ++ "])"
  | .ident name => t.kindName ++ "(" ++ Text.quoted name ++ ")"
  | _ => t.kindName

end Token

end VulnProbe
