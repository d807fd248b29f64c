import VulnProbe.Regex.Ast
import VulnProbe.Regex.Classes

namespace VulnProbe.Regex

/-- What must hold around a place. Word boundaries look at ASCII or at all word characters. -/
inductive Look where
  | textStart
  | textEnd
  | lineStart
  | lineEnd
  | crlfStart
  | crlfEnd
  | word (kind : Anchor) (unicode : Bool)
  deriving DecidableEq, Repr

/-- A pattern with its switches resolved. -/
inductive Pattern where
  | empty
  | byte (set : CharSet)
  | char (set : CharSet)
  | look (l : Look)
  | capture (index : Nat) (name : Option String) (p : Pattern)
  | repetition (p : Pattern) (least : Nat) (most : Option Nat) (greedy : Bool)
  | concat (items : List Pattern)
  | alternate (branches : List Pattern)
  deriving Inhabited

/-- The switches at a place. A switch holds from where it stands to the end of its group. -/
structure Flags where
  caseless : Bool
  multiLine : Bool
  dotAll : Bool
  swapGreed : Bool
  unicode : Bool
  crlf : Bool

namespace Flags

/-- The switches at the start of a pattern. -/
def initial : Flags := ⟨false, false, false, false, true, false⟩

/-- The switches after one change. -/
def apply (f : Flags) (change : Flag × Bool) : Flags :=
  match change.1 with
  | .caseless => { f with caseless := change.2 }
  | .multiLine => { f with multiLine := change.2 }
  | .dotAll => { f with dotAll := change.2 }
  | .swapGreed => { f with swapGreed := change.2 }
  | .unicode => { f with unicode := change.2 }
  | .crlf => { f with crlf := change.2 }
  | .spaced => f

/-- The switches after some changes. -/
def applyAll (f : Flags) (changes : FlagChanges) : Flags :=
  changes.foldl apply f

/-- The greatest member of a set at a place. -/
def top (f : Flags) : Nat :=
  if f.unicode then maxScalar else maxByte

/-- A set as a pattern. -/
def ofSet (f : Flags) (s : CharSet) : Pattern :=
  if f.unicode then .char s else .byte s

/-- A set with both cases of its members where case does not count. -/
def folded (f : Flags) (s : CharSet) : CharSet :=
  if !f.caseless then s else if f.unicode then foldCase s else foldAsciiCase s

/-- A set or, if negated, the rest of the characters or bytes. -/
def negatedIf (f : Flags) (negated : Bool) (s : CharSet) : CharSet :=
  if negated then s.complement f.top else s

/-- The number that a character stands for in a set. A set of bytes holds ASCII characters and bytes
    given by two digits. -/
def member? (f : Flags) (l : Literal) : Option Nat :=
  if f.unicode || l.isByte || l.char.toNat < 128 then some l.char.toNat else none

/-- The set of a class that is written with a letter. -/
def letterSet (f : Flags) (c : LetterClass) (negated : Bool) : CharSet :=
  let set := match c, f.unicode with
    | .digit, true => digitSet
    | .space, true => blankSet
    | .word, true => wordSet
    | .digit, false => posixSet "digit"
    | .space, false => posixSet "space"
    | .word, false => posixSet "word"
  f.negatedIf negated set

/-- The set of the characters with a property. Bytes have none. -/
def propertySet? (f : Flags) (name : PropertyName) (negated : Bool) : Option CharSet :=
  if !f.unicode then none
  else
    let found := match name with
      | .plain name => plainProperty? name
      | .valued property value => valuedProperty? property value
    found.map fun s => f.negatedIf negated (f.folded s)

mutual
/-- The members of what stands in brackets. Case is folded before a set is negated, and on both
    sides before sets are joined. -/
def setOf? (f : Flags) : SetAst → Option CharSet
  | .range lo hi => do
    let a ← f.member? lo
    let b ← f.member? hi
    some [(a, b)]
  | .posix name negated => some (f.negatedIf negated (f.folded (posixSet name)))
  | .letter c negated => some (f.letterSet c negated)
  | .property name negated => f.propertySet? name negated
  | .bracket negated inner => do
    let s ← setOf? f inner
    some (f.negatedIf negated (f.folded s))
  | .union items => setOfAll? f items
  | .binary op lhs rhs => do
    let a ← setOf? f lhs
    let b ← setOf? f rhs
    let a := f.folded a
    let b := f.folded b
    some (match op with
      | .intersection => a.inter f.top b
      | .difference => a.diff f.top b
      | .symmetricDifference => a.symmDiff f.top b)

/-- The members of any of some sets. -/
def setOfAll? (f : Flags) : List SetAst → Option CharSet
  | [] => some []
  | item :: rest => do
    let a ← setOf? f item
    let b ← setOfAll? f rest
    some (a.union b)
end

/-- A character as a pattern. -/
def literal (f : Flags) (l : Literal) : Pattern :=
  let n := l.char.toNat
  if f.unicode then
    let variants := if f.caseless then caseVariants l.char else []
    .char (CharSet.ofRuns ((n, n) :: variants.map fun v => (v, v)))
  else if l.isByte || n < 128 then
    .byte (if n < 128 then f.folded [(n, n)] else [(n, n)])
  else .char [(n, n)]

/-- Any character or byte, but for the ends of lines unless they count. -/
def dot (f : Flags) : Pattern :=
  let ends := if f.dotAll then [] else if f.crlf then [(10, 10), (13, 13)] else [(10, 10)]
  f.ofSet (CharSet.complement f.top ends)

/-- What an anchor demands. -/
def lookOf (f : Flags) (a : Anchor) : Look :=
  match a with
  | .textStart => .textStart
  | .textEnd => .textEnd
  | .lineStart => if !f.multiLine then .textStart else if f.crlf then .crlfStart else .lineStart
  | .lineEnd => if !f.multiLine then .textEnd else if f.crlf then .crlfEnd else .lineEnd
  | kind => .word kind f.unicode

end Flags

namespace Pattern

mutual
/-- Whether a pattern has no width, whatever it matches. -/
def isWidthless : Pattern → Bool
  | .empty => true
  | .byte _ => false
  | .char _ => false
  | .look _ => true
  | .capture _ _ p => isWidthless p
  | .repetition p .. => isWidthless p
  | .concat items => areWidthless items
  | .alternate branches => areWidthless branches

/-- Whether no pattern of a list has width. -/
def areWidthless : List Pattern → Bool
  | [] => true
  | p :: rest => isWidthless p && areWidthless rest
end

/-- A pattern repeated. Repeating what has no width says no more than having it once; no repetition
    at all is empty, groups included, and one repetition is the pattern itself. -/
def repeated (p : Pattern) (least : Nat) (most : Option Nat) (greedy : Bool) : Pattern :=
  let (least, most) :=
    if isWidthless p then (min least 1, some (min (most.getD 1) 1)) else (least, most)
  if most == some 0 then .empty
  else if least == 1 && most == some 1 then p
  else .repetition p least most greedy

mutual
/-- The meaning of a pattern under some switches, with the switches after it. Only a set can fail to
    have one. -/
def ofAst? (f : Flags) : Ast → Option (Pattern × Flags)
  | .empty => some (.empty, f)
  | .flags changes => some (.empty, f.applyAll changes)
  | .literal l => some (f.literal l, f)
  | .dot => some (f.dot, f)
  | .anchor a => some (.look (f.lookOf a), f)
  | .letter c negated => some (f.ofSet (f.letterSet c negated), f)
  | .property name negated => (f.propertySet? name negated).map fun s => (.char s, f)
  | .bracket negated inner =>
    (f.setOf? inner).map fun s => (f.ofSet (f.negatedIf negated (f.folded s)), f)
  | .repetition e least most greedy => do
    let (p, f) ← ofAst? f e
    some (repeated p least most (greedy != f.swapGreed), f)
  | .group (.capture index name) e => do
    let (p, _) ← ofAst? f e
    some (.capture index name p, f)
  | .group (.plain changes) e => do
    let (p, _) ← ofAst? (f.applyAll changes) e
    some (p, f)
  | .concat items => do
    let (ps, f) ← ofAsts? f items
    some (.concat ps, f)
  | .alternate branches => do
    let (ps, f) ← ofAsts? f branches
    some (.alternate ps, f)

/-- The meanings of some patterns, each under the switches after the one before it. -/
def ofAsts? (f : Flags) : List Ast → Option (List Pattern × Flags)
  | [] => some ([], f)
  | e :: rest => do
    let (p, f) ← ofAst? f e
    let (ps, f) ← ofAsts? f rest
    some (p :: ps, f)
end

mutual
/-- The groups of a pattern, each with its number and name. -/
def groups : Pattern → List (Nat × Option String)
  | .empty => []
  | .byte _ => []
  | .char _ => []
  | .look _ => []
  | .capture index name p => (index, name) :: groups p
  | .repetition p .. => groups p
  | .concat items => groupsAll items
  | .alternate branches => groupsAll branches

/-- The groups of some patterns. -/
def groupsAll : List Pattern → List (Nat × Option String)
  | [] => []
  | p :: rest => groups p ++ groupsAll rest
end

mutual
/-- Whether a pattern may match the empty text. -/
def canBeEmpty : Pattern → Bool
  | .empty => true
  | .byte _ => false
  | .char _ => false
  | .look _ => true
  | .capture _ _ p => canBeEmpty p
  | .repetition p least .. => least == 0 || canBeEmpty p
  | .concat items => canAllBeEmpty items
  | .alternate branches => canAnyBeEmpty branches

/-- Whether every pattern of a list may match the empty text. -/
def canAllBeEmpty : List Pattern → Bool
  | [] => true
  | p :: rest => canBeEmpty p && canAllBeEmpty rest

/-- Whether some pattern of a list may match the empty text. -/
def canAnyBeEmpty : List Pattern → Bool
  | [] => false
  | p :: rest => canBeEmpty p || canAnyBeEmpty rest
end

end Pattern

end VulnProbe.Regex
