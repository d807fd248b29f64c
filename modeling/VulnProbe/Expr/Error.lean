import VulnProbe.Expr.DeclType
import VulnProbe.Expr.Token
import VulnProbe.Text.Base64
import VulnProbe.Text.Percent
import VulnProbe.Url.Host

namespace VulnProbe.Expr

/-- The greatest height of a tree, and the greatest number of expressions and signs open at once. -/
def maxDepth : Nat := 128

/-- What is wrong with the text of an expression. `reported` is a cause known only by its text. -/
inductive SyntaxIssue where
  | badInteger
  | badCharacter (c : Char)
  | unfinishedEscape
  | badEscape (letter : Char)
  | unfinishedText
  | unexpected (found : Token)
  | trailing (found : Token)
  | expected (wanted found : Token)
  | noFieldName (found : Token)
  | tooDeep
  | reported (text : String)
  deriving DecidableEq, Repr

/-- What a static pass over an expression finds. `reported` is a cause known only by its text. -/
inductive CheckIssue where
  | undeclaredName (name : String)
  | undeclaredFunction (name : String)
  | undeclaredMethod (name : String)
  | field (issue : FieldIssue)
  | reported (text : String)
  deriving DecidableEq, Repr

/-- Why an evaluation fails. Types are given by their names. `reported` is a cause known only by its
    text. -/
inductive RuntimeIssue where
  | unbound (name : String)
  | keyNotText (type : String)
  | noKey (key : String)
  | noField (field type : String)
  | outOfRange (index : Int) (length : Nat)
  | noIndexOverload (target index : String)
  | overflow
  | divisionByZero
  | noUnaryOverload (op type : String)
  | noBinaryOverload (left op right : String)
  | notBool (op type : String)
  | noOverload (name type : String)
  | arity (name : String) (wanted given : Nat)
  | undeclaredFunction (name : String)
  | noMethod (name type : String)
  | reverseOutsideSet
  | emptyRange (lo hi : Int)
  | negativeLength
  | negativeIndex
  | notBase64 (issue : Base64.Issue)
  | notPercentText (issue : Percent.Issue)
  | notInteger (text : String)
  | badUrl (text : String) (issue : UrlIssue)
  | badPattern (pattern issue : String)
  | reported (text : String)
  deriving DecidableEq, Repr

end Expr

/-- Why an expression has no value. -/
inductive ExprError where
  | syntaxError (pos : Nat) (issue : Expr.SyntaxIssue)
  | checkError (issue : Expr.CheckIssue)
  | runtimeError (issue : Expr.RuntimeIssue)
  deriving DecidableEq, Repr

namespace Expr

/-- The text of a fault in the text of an expression. -/
def SyntaxIssue.message : SyntaxIssue → String
  | .badInteger => "invalid integer literal"
  | .badCharacter c => "unexpected character '" ++ c.toString ++ "'"
  | .unfinishedEscape => "unterminated escape sequence"
  | .badEscape letter => "invalid \\" ++ letter.toString ++ " escape"
  | .unfinishedText => "unterminated string literal"
  | .unexpected found => "unexpected token " ++ found.shown
  | .trailing found => "unexpected trailing token " ++ found.shown
  | .expected wanted found => "expected " ++ wanted.shown ++ ", found " ++ found.shown
  | .noFieldName found => "expected field name, found " ++ found.shown
  | .tooDeep => "expression nested deeper than " ++ toString maxDepth ++ " levels"
  | .reported text => text

/-- The text of what a static pass finds. -/
def CheckIssue.message : CheckIssue → String
  | .undeclaredName name => "undeclared reference to '" ++ name ++ "'"
  | .undeclaredFunction name => "undeclared reference to function '" ++ name ++ "'"
  | .undeclaredMethod name => "undeclared reference to method '" ++ name ++ "'"
  | .field issue => issue.message
  | .reported text => text

/-- The source of the entry that asks for a callback, which is no expression of its own. -/
def newReverseSource : String := "newReverse()"

/-- The text of a failed evaluation. -/
def RuntimeIssue.message : RuntimeIssue → String
  | .unbound name => "no such attribute '" ++ name ++ "'"
  | .keyNotText type => "map keys must be strings, got " ++ type
  | .noKey key => "no such key '" ++ key ++ "'"
  | .noField field type => "no such field '" ++ field ++ "' on " ++ type
  | .outOfRange i length =>
    "index " ++ toString i ++ " out of range (len " ++ toString length ++ ")"
  | .noIndexOverload target i => "no matching overload for " ++ target ++ "[" ++ i ++ "]"
  | .overflow => "integer overflow"
  | .divisionByZero => "division by zero"
  | .noUnaryOverload op type => "no matching overload for " ++ op ++ type
  | .noBinaryOverload left op right =>
    "no matching overload for " ++ left ++ " " ++ op ++ " " ++ right
  | .notBool op type => "operator " ++ op ++ " expects bool, got " ++ type
  | .noOverload name type => "no matching overload for " ++ name ++ "(" ++ type ++ ")"
  | .arity name wanted given =>
    name ++ " expects " ++ toString wanted ++ " argument(s), got " ++ toString given
  | .undeclaredFunction name => "undeclared function '" ++ name ++ "'"
  | .noMethod name type => "no such method '" ++ name ++ "' on " ++ type
  | .reverseOutsideSet => newReverseSource ++ " is only supported as a whole set entry"
  | .emptyRange lo hi => "randomInt: empty range " ++ toString lo ++ ".." ++ toString hi
  | .negativeLength => "randomLowercase: negative length"
  | .negativeIndex => "substr: negative index"
  | .notBase64 issue => "base64Decode: " ++ issue.message
  | .notPercentText issue => "urldecode: " ++ issue.message
  | .notInteger text => "int: cannot convert '" ++ text ++ "'"
  | .badUrl text issue => "urlParse '" ++ text ++ "': " ++ issue.message
  | .badPattern pattern issue => "invalid regex '" ++ pattern ++ "': " ++ issue
  | .reported text => text

end Expr

/-- The text of an expression error. -/
def ExprError.message : ExprError → String
  | .syntaxError pos issue => "syntax error at " ++ toString pos ++ ": " ++ issue.message
  | .checkError issue => "check error: " ++ issue.message
  | .runtimeError issue => "evaluation error: " ++ issue.message

end VulnProbe
