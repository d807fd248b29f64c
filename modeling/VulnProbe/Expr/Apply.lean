import VulnProbe.Expr.Builtin
import VulnProbe.Expr.Error
import VulnProbe.Expr.Lexer
import VulnProbe.Regex.Matcher
import VulnProbe.Text.Casing
import VulnProbe.Text.Hex
import VulnProbe.Text.Sha256
import VulnProbe.Url.Parser

namespace VulnProbe.Expr

/-- Random numbers, found by where in a computation they are drawn. Random functions take their choices
    from them, so that a value is settled by the arguments and the draws. -/
def Draws : Type := List Nat → Nat

namespace Draws

/-- Draws that a seed settles: each step on the way mixes its number in. -/
def ofSeed (seed : Nat) : Draws := fun path =>
  path.foldl (fun a i => (a * 6364136223846793005 + i * 1442695040888963407 + 7) % 2305843009213693952) seed / 65536

/-- The draws of the part of a computation with a number. -/
def child (d : Draws) (i : Nat) : Draws := fun path => d (i :: path)

/-- The number drawn here. -/
def value (d : Draws) : Nat := d []

end Draws

/-- The outcome of a computation. -/
abbrev Outcome (α : Type) := Except RuntimeIssue α

/-- Demands a number. -/
def intArg (name : String) : Value → Outcome Int
  | .int i => .ok i
  | v => .error (.noOverload name v.typeName)

/-- Demands a text. -/
def textArg (name : String) : Value → Outcome String
  | .string s => .ok s
  | v => .error (.noOverload name v.typeName)

/-- Demands a text or byte string, as bytes. -/
def bytesArg (name : String) (v : Value) : Outcome (List UInt8) :=
  match v.bytes? with
  | some bs => .ok bs
  | none => .error (.noOverload name v.typeName)

/-- Demands no argument. -/
def noArgs (name : String) : List Value → Outcome Unit
  | [] => .ok ()
  | args => .error (.arity name 0 args.length)

/-- Demands one argument. -/
def oneArg (name : String) : List Value → Outcome Value
  | [a] => .ok a
  | args => .error (.arity name 1 args.length)

/-- Demands two arguments. -/
def twoArgs (name : String) : List Value → Outcome (Value × Value)
  | [a, b] => .ok (a, b)
  | args => .error (.arity name 2 args.length)

/-- Demands three arguments. -/
def threeArgs (name : String) : List Value → Outcome (Value × Value × Value)
  | [a, b, c] => .ok (a, b, c)
  | args => .error (.arity name 3 args.length)

/-- Whether a number has 64 bits with its sign. -/
def inRange (i : Int) : Bool :=
  minInt ≤ i && i ≤ maxInt

/-- A number that must have 64 bits with its sign. -/
def bounded (i : Int) : Outcome Value :=
  if inRange i then .ok (.int i) else .error .overflow

/-- The number that decimal digits stand for; none without digits or with another character. -/
def natOfDigits? (cs : List Char) : Option Nat :=
  if cs.isEmpty || !cs.all Char.isDigit then none
  else some (cs.foldl (fun n c => n * 10 + (c.toNat - 48)) 0)

/-- The number of 64 bits that a text writes, in decimal with an optional sign. -/
def intOfText? (s : String) : Option Int :=
  let found := match s.toList with
    | '-' :: digits => (natOfDigits? digits).map fun n => -(n : Int)
    | '+' :: digits => (natOfDigits? digits).map fun n => (n : Int)
    | digits => (natOfDigits? digits).map fun n => (n : Int)
  found.filter inRange

/-- Whether a list occurs in another one, without a gap. -/
def occursIn {α : Type} [BEq α] (needle : List α) : List α → Bool
  | [] => needle.isEmpty
  | a :: rest => needle.isPrefixOf (a :: rest) || occursIn needle rest

/-- A small letter for each of the numbers below `n`. -/
def randomLetters (draws : Draws) (n : Nat) : String :=
  String.ofList ((List.range n).map fun i => Char.ofNat (97 + (draws.child i).value % 26))

/-- Compiles a pattern. -/
def patternArg (name : String) (v : Value) : Outcome Regex := do
  let text ← textArg name v
  match Regex.compile text with
  | .ok r => .ok r
  | .error issue => .error (.badPattern text issue.message)

/-- The text of a captured group, empty if it took no part. -/
def groupText (bytes : Option (List UInt8)) : String :=
  Utf8.decodeLossy (bytes.getD [])

/-- The named groups of the first match, as a map. -/
def submatches (r : Regex) (body : List UInt8) : Dict Value :=
  match r.captures? body with
  | none => []
  | some groups => Dict.ofList (groups.map fun (name, bytes) => (name, .string (groupText bytes)))

/-- The text of `length` characters from `start` on, as far as there are any. -/
def substring (s : String) (start length : Nat) : String :=
  String.ofList ((s.toList.drop start).take length)

/-- Calls a function. The number of arguments is looked at first, then their types in order. -/
def Builtin.apply (f : Builtin) (args : List Value) (draws : Draws) : Outcome Value :=
  match f with
  | .newReverse => .error .reverseOutsideSet
  | .randomInt => do
    let (a, b) ← twoArgs f.name args
    let lo ← intArg f.name a
    let hi ← intArg f.name b
    if hi ≤ lo then .error (.emptyRange lo hi)
    else .ok (.int (lo + draws.value % (hi - lo)))
  | .randomLowercase => do
    let n ← intArg f.name (← oneArg f.name args)
    if n < 0 then .error .negativeLength else .ok (.string (randomLetters draws n.toNat))
  | .base64 => do
    let bs ← bytesArg f.name (← oneArg f.name args)
    .ok (.string (Base64.encode bs))
  | .base64Decode => do
    let bs ← bytesArg f.name (← oneArg f.name args)
    match Base64.decode bs with
    | .ok found => .ok (.bytes found)
    | .error issue => .error (.notBase64 issue)
  | .urlencode => do
    let bs ← bytesArg f.name (← oneArg f.name args)
    .ok (.string (Percent.encode bs))
  | .urldecode => do
    let bs ← bytesArg f.name (← oneArg f.name args)
    match Percent.decode (Utf8.ofString (Utf8.decodeLossy bs)) with
    | .ok found => .ok (.string found)
    | .error issue => .error (.notPercentText issue)
  | .hexEncode => do
    let bs ← bytesArg f.name (← oneArg f.name args)
    .ok (.string (Hex.encode bs))
  | .sha256 => do
    let bs ← bytesArg f.name (← oneArg f.name args)
    .ok (.string (Hex.encode (Sha256.digest bs)))
  | .substr => do
    let (a, b, c) ← threeArgs f.name args
    let s ← textArg f.name a
    let start ← intArg f.name b
    let length ← intArg f.name c
    if start < 0 || length < 0 then .error .negativeIndex
    else .ok (.string (substring s start.toNat length.toNat))
  | .string => do
    let v ← oneArg f.name args
    .ok (.string v.text)
  | .int => do
    match ← oneArg f.name args with
    | .int i => .ok (.int i)
    | .bool b => .ok (.int (if b then 1 else 0))
    | .string s =>
      match intOfText? (Text.trim s) with
      | some i => .ok (.int i)
      | none => .error (.notInteger s)
    | v => .error (.noOverload f.name v.typeName)
  | .bytes => do
    let bs ← bytesArg f.name (← oneArg f.name args)
    .ok (.bytes bs)
  | .size => do
    match ← oneArg f.name args with
    | .string s => .ok (.int s.length)
    | .bytes bs => .ok (.int bs.length)
    | .list items => .ok (.int items.length)
    | .map entries => .ok (.int entries.length)
    | v => .error (.noOverload f.name v.typeName)
  | .urlParse => do
    let text ← textArg f.name (← oneArg f.name args)
    match Url.parseTrimmed text with
    | .ok u => .ok (.url u)
    | .error issue => .error (.badUrl text issue)

/-- The bytes of some arguments one after another. -/
def joinedBytes (name : String) : List Value → Outcome (List UInt8)
  | [] => .ok []
  | v :: rest => do
    let bs ← bytesArg name v
    let more ← joinedBytes name rest
    .ok (bs ++ more)

/-- Calls a method. The number of arguments is looked at first, then the types, from the receiver to the
    last argument. The receiver of a matching method is the pattern. -/
def Method.apply (m : Method) (receiver : Value) (args : List Value) : Outcome Value :=
  match m with
  | .contains => do
    let needle ← oneArg m.name args
    let hay ← textArg m.name receiver
    let needle ← textArg m.name needle
    .ok (.bool (occursIn needle.toList hay.toList))
  | .icontains => do
    let needle ← oneArg m.name args
    let hay ← textArg m.name receiver
    let needle ← textArg m.name needle
    .ok (.bool (occursIn (Text.lower needle).toList (Text.lower hay).toList))
  | .bcontains => do
    let needle ← oneArg m.name args
    let hay ← bytesArg m.name receiver
    let needle ← bytesArg m.name needle
    .ok (.bool (occursIn needle hay))
  | .matches | .bmatches => do
    let body ← oneArg m.name args
    let pattern ← patternArg m.name receiver
    let body ← bytesArg m.name body
    .ok (.bool (pattern.isMatch body))
  | .submatch | .bsubmatch => do
    let body ← oneArg m.name args
    let pattern ← patternArg m.name receiver
    let body ← bytesArg m.name body
    .ok (.map (submatches pattern body))
  | .startsWith => do
    let start ← oneArg m.name args
    let s ← textArg m.name receiver
    let start ← textArg m.name start
    .ok (.bool (start.toList.isPrefixOf s.toList))
  | .endsWith => do
    let ending ← oneArg m.name args
    let s ← textArg m.name receiver
    let ending ← textArg m.name ending
    .ok (.bool (ending.toList.isSuffixOf s.toList))
  | .bstartsWith => do
    let start ← oneArg m.name args
    let bs ← bytesArg m.name receiver
    let start ← bytesArg m.name start
    .ok (.bool (start.isPrefixOf bs))
  | .concat =>
    match receiver with
    | .bytes bs => do
      let more ← joinedBytes m.name args
      .ok (.bytes (bs ++ more))
    | .string s => .ok (.string (s ++ String.join (args.map Value.text)))
    | v => .error (.noOverload m.name v.typeName)
  | .lower => do
    noArgs m.name args
    let s ← textArg m.name receiver
    .ok (.string (Text.lower s))
  | .upper => do
    noArgs m.name args
    let s ← textArg m.name receiver
    .ok (.string (Text.upper s))

/-- Calls the function with a name. -/
def callFunction (name : String) (args : List Value) (draws : Draws) : Outcome Value :=
  match Builtin.ofName? name with
  | some f => f.apply args draws
  | none => .error (.undeclaredFunction name)

/-- Calls the method with a name. -/
def callMethod (receiver : Value) (name : String) (args : List Value) : Outcome Value :=
  match Method.ofName? name with
  | some m => m.apply receiver args
  | none => .error (.noMethod name receiver.typeName)

end VulnProbe.Expr
