namespace VulnProbe.Regex

/-- A switch of the notation. -/
inductive Flag where
  | caseless
  | multiLine
  | dotAll
  | swapGreed
  | unicode
  | crlf
  | spaced
  deriving DecidableEq, Repr

/-- Switches turned on and off. -/
abbrev FlagChanges := List (Flag × Bool)

/-- The classes that are written with a letter after a backslash. -/
inductive LetterClass where
  | digit
  | space
  | word
  deriving DecidableEq, Repr

/-- A character of the pattern. `isByte` tells the form with two hexadecimal digits, which may stand
    for a byte. -/
structure Literal where
  char : Char
  isByte : Bool
  deriving DecidableEq, Repr

/-- A property of characters, named alone or with a value. -/
inductive PropertyName where
  | plain (name : String)
  | valued (property value : String)
  deriving DecidableEq, Repr

/-- How two sets in brackets are joined. -/
inductive SetOp where
  | intersection
  | difference
  | symmetricDifference
  deriving DecidableEq, Repr

/-- What stands in brackets. -/
inductive SetAst where
  | range (lo hi : Literal)
  | posix (name : String) (negated : Bool)
  | letter (c : LetterClass) (negated : Bool)
  | property (name : PropertyName) (negated : Bool)
  | bracket (negated : Bool) (inner : SetAst)
  | union (items : List SetAst)
  | binary (op : SetOp) (lhs rhs : SetAst)
  deriving Inhabited

/-- A place without width. -/
inductive Anchor where
  | lineStart
  | lineEnd
  | textStart
  | textEnd
  | wordBoundary
  | notWordBoundary
  | wordStart
  | wordEnd
  | wordStartHalf
  | wordEndHalf
  deriving DecidableEq, Repr

/-- What a pair of parentheses does. -/
inductive GroupKind where
  | capture (index : Nat) (name : Option String)
  | plain (changes : FlagChanges)
  deriving DecidableEq, Repr

/-- A pattern as written. -/
inductive Ast where
  | empty
  | flags (changes : FlagChanges)
  | literal (l : Literal)
  | dot
  | anchor (a : Anchor)
  | letter (c : LetterClass) (negated : Bool)
  | property (name : PropertyName) (negated : Bool)
  | bracket (negated : Bool) (inner : SetAst)
  | repetition (e : Ast) (least : Nat) (most : Option Nat) (greedy : Bool)
  | group (kind : GroupKind) (e : Ast)
  | concat (items : List Ast)
  | alternate (branches : List Ast)
  deriving Inhabited

/-- The set of some items: one item stands for itself. -/
def SetAst.ofItems : List SetAst → SetAst
  | [item] => item
  | items => .union items

/-- The sequence of some patterns: one stands for itself, and none is empty. -/
def Ast.ofItems : List Ast → Ast
  | [] => .empty
  | [item] => item
  | items => .concat items

/-- The choice between some branches; one branch stands for itself. -/
def Ast.ofBranches : List Ast → Ast
  | [branch] => branch
  | branches => .alternate branches

mutual
/-- How many brackets, unions and joins are nested in a set. -/
def SetAst.height : SetAst → Nat
  | .range .. => 0
  | .posix .. => 0
  | .letter .. => 0
  | .property .. => 0
  | .bracket _ inner => inner.height + 1
  | .union [] => 0
  | .union (item :: items) => max item.height (SetAst.heightAll items) + 1
  | .binary _ lhs rhs => max lhs.height rhs.height + 1

/-- The height of the tallest of some sets. -/
def SetAst.heightAll : List SetAst → Nat
  | [] => 0
  | item :: rest => max item.height (SetAst.heightAll rest)
end

mutual
/-- How many compound patterns are nested in a pattern. -/
def Ast.height : Ast → Nat
  | .empty => 0
  | .flags _ => 0
  | .literal _ => 0
  | .dot => 0
  | .anchor _ => 0
  | .letter .. => 0
  | .property .. => 0
  | .bracket _ inner => inner.height + 1
  | .repetition e .. => e.height + 1
  | .group _ e => e.height + 1
  | .concat items => Ast.heightAll items + 1
  | .alternate branches => Ast.heightAll branches + 1

/-- The height of the tallest of some patterns. -/
def Ast.heightAll : List Ast → Nat
  | [] => 0
  | e :: rest => max e.height (Ast.heightAll rest)
end

end VulnProbe.Regex
