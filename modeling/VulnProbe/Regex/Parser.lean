import VulnProbe.Regex.Ast
import VulnProbe.Text.Letter

namespace VulnProbe.Regex.Parser

/-- The greatest height of a pattern. -/
def maxHeight : Nat := 250

/-- Passes blanks and comments; a comment ends with its line. -/
def skipBlanks (inComment : Bool) : List Char → List Char
  | [] => []
  | c :: rest =>
    if inComment then skipBlanks (c != '\n') rest
    else if Text.isBlank c then skipBlanks false rest
    else if c == '#' then skipBlanks true rest
    else c :: rest

/-- Passes blanks and comments where they do not count. -/
def skip (spaced : Bool) (cs : List Char) : List Char :=
  if spaced then skipBlanks false cs else cs

/-- The character that follows the first one, over blanks and the mark of one comment. -/
def peekAfter (spaced : Bool) : List Char → Option Char
  | [] => none
  | _ :: rest =>
    if spaced then
      let shown := rest.dropWhile Text.isBlank
      let shown := match shown with
        | '#' :: more => more.dropWhile Text.isBlank
        | _ => shown
      match shown with
      | c :: _ => some c
      | [] => rest.head?
    else rest.head?

/-- The value of a hexadecimal digit. -/
def hexValue? (c : Char) : Option Nat :=
  if c.isDigit then some (c.toNat - 48)
  else if 'a' ≤ c && c ≤ 'f' then some (c.toNat - 87)
  else if 'A' ≤ c && c ≤ 'F' then some (c.toNat - 55)
  else none

/-- The character with a scalar value. -/
def scalar? (n : Nat) : Option Char :=
  if n < 0xD800 || (0xDFFF < n && n ≤ 0x10FFFF) then some (Char.ofNat n) else none

/-- Reads so many hexadecimal digits after a value. -/
def hexDigits (spaced : Bool) : Nat → Nat → List Char → Option (Nat × List Char)
  | 0, value, cs => some (value, cs)
  | n + 1, value, c :: cs => do
    let d ← hexValue? c
    hexDigits spaced n (value * 16 + d) (skip spaced cs)
  | _ + 1, _, [] => none

/-- Reads hexadecimal digits up to a closing brace; there must be at least one. -/
def hexInBraces (spaced : Bool) : Nat → Option Nat → List Char → Option (Nat × List Char)
  | 0, _, _ => none
  | fuel + 1, value, cs =>
    match skip spaced cs with
    | [] => none
    | c :: rest =>
      if c == '}' then value.map (·, skip spaced rest)
      else do
        let d ← hexValue? c
        hexInBraces spaced fuel (some (value.getD 0 * 16 + d)) rest

/-- Reads a character by its number, after the letter that tells how many digits there are. -/
def hexLiteral (spaced : Bool) (letter : Char) (cs : List Char) : Option (Literal × List Char) :=
  match skip spaced cs with
  | [] => none
  | '{' :: rest => do
    let (value, rest) ← hexInBraces spaced (rest.length + 1) none rest
    let c ← scalar? value
    some (⟨c, false⟩, rest)
  | cs => do
    let count := if letter == 'x' then 2 else if letter == 'u' then 4 else 8
    let (value, rest) ← hexDigits spaced count 0 cs
    let c ← scalar? value
    some (⟨c, letter == 'x'⟩, rest)

/-- The text before the first place where `mark` stands, and what follows the mark. -/
def cutAt? (mark : List Char) : List Char → Option (List Char × List Char)
  | [] => none
  | c :: rest =>
    if mark.isPrefixOf (c :: rest) then some ([], (c :: rest).drop mark.length)
    else (cutAt? mark rest).map fun (before, after) => (c :: before, after)

/-- The property that the text between braces names. -/
def propertyName (cs : List Char) : PropertyName :=
  match (cutAt? ['!', '='] cs).orElse fun _ =>
      (cutAt? [':'] cs).orElse fun _ => cutAt? ['='] cs with
  | some (property, value) => .valued (String.ofList property) (String.ofList value)
  | none => .plain (String.ofList cs)

/-- Reads the characters up to a closing brace. -/
def upToBrace (spaced : Bool) : Nat → List Char → List Char → Option (List Char × List Char)
  | 0, _, _ => none
  | fuel + 1, read, cs =>
    match skip spaced cs with
    | [] => none
    | c :: rest => if c == '}' then some (read.reverse, rest) else upToBrace spaced fuel (c :: read) rest

/-- Reads the name of a property after its letter. -/
def property (spaced : Bool) (cs : List Char) : Option (PropertyName × List Char) :=
  match skip spaced cs with
  | [] => none
  | '{' :: rest => do
    let (name, rest) ← upToBrace spaced (rest.length + 1) [] rest
    some (propertyName name, rest)
  | c :: rest => if c == '\\' then none else some (.plain c.toString, skip spaced rest)

/-- A character that has a meaning of its own somewhere in a pattern. -/
def isMeta (c : Char) : Bool :=
  "\\.+*?()|[]\x7b\x7d^$#&-~".contains c

/-- A character that may stand for itself after a backslash. -/
def isEscapable (c : Char) : Bool :=
  isMeta c || (c.toNat < 128 && !c.isAlphanum && c != '<' && c != '>')

/-- What a backslash makes of the characters after it, or one character. -/
inductive Primitive where
  | literal (l : Literal)
  | dot
  | anchor (a : Anchor)
  | letter (c : LetterClass) (negated : Bool)
  | property (name : PropertyName) (negated : Bool)

/-- A character that may stand in the name of a word boundary. -/
def isBoundaryChar (c : Char) : Bool :=
  c.isAlpha || c == '-'

/-- Reads the name of a word boundary up to what follows it. -/
def boundaryName (spaced : Bool) : Nat → List Char → List Char → List Char × List Char
  | 0, read, cs => (read.reverse, cs)
  | fuel + 1, read, cs =>
    match cs with
    | [] => (read.reverse, [])
    | c :: rest =>
      if isBoundaryChar c then boundaryName spaced fuel (c :: read) (skip spaced rest)
      else (read.reverse, cs)

/-- A word boundary, after its letter: its kind may be named in braces. Braces that do not start with
    a letter or a hyphen are not passed. -/
def wordBoundary (spaced : Bool) (cs : List Char) : Option (Anchor × List Char) :=
  match cs with
  | '{' :: rest =>
    match skip spaced rest with
    | [] => none
    | c :: more =>
      if isBoundaryChar c then
        match boundaryName spaced (more.length + 1) [] (c :: more) with
        | (name, '}' :: after) =>
          if name = "start".toList then some (.wordStart, after)
          else if name = "end".toList then some (.wordEnd, after)
          else if name = "start-half".toList then some (.wordStartHalf, after)
          else if name = "end-half".toList then some (.wordEndHalf, after)
          else none
        | _ => none
      else some (.wordBoundary, cs)
  | _ => some (.wordBoundary, cs)

/-- Reads what follows a backslash. -/
def escape (spaced : Bool) : List Char → Option (Primitive × List Char)
  | [] => none
  | c :: rest =>
    let plain (code : Nat) : Option (Primitive × List Char) :=
      some (.literal ⟨Char.ofNat code, false⟩, rest)
    if c == 'x' || c == 'u' || c == 'U' then
      (hexLiteral spaced c rest).map fun (l, rest) => (.literal l, rest)
    else if c == 'p' || c == 'P' then
      (property spaced rest).map fun (name, rest) => (.property name (c == 'P'), rest)
    else if c == 'd' || c == 'D' then some (.letter .digit (c == 'D'), rest)
    else if c == 's' || c == 'S' then some (.letter .space (c == 'S'), rest)
    else if c == 'w' || c == 'W' then some (.letter .word (c == 'W'), rest)
    else if isEscapable c then plain c.toNat
    else if c == 'a' then plain 7
    else if c == 'f' then plain 12
    else if c == 't' then plain 9
    else if c == 'n' then plain 10
    else if c == 'r' then plain 13
    else if c == 'v' then plain 11
    else if c == 'A' then some (.anchor .textStart, rest)
    else if c == 'z' then some (.anchor .textEnd, rest)
    else if c == 'b' then (wordBoundary spaced rest).map fun (a, rest) => (.anchor a, rest)
    else if c == 'B' then some (.anchor .notWordBoundary, rest)
    else if c == '<' then some (.anchor .wordStart, rest)
    else if c == '>' then some (.anchor .wordEnd, rest)
    else none

/-- The names of the classes that are written between colons. -/
def posixNames : List String :=
  ["alnum", "alpha", "ascii", "blank", "cntrl", "digit", "graph", "lower", "print", "punct", "space",
    "upper", "word", "xdigit"]

/-- Reads a class between colons, after the opening bracket; none if it is not one. -/
def posixClass? (cs : List Char) : Option (SetAst × List Char) :=
  match cs with
  | ':' :: rest =>
    let (negated, rest) := match rest with
      | '^' :: more => (true, more)
      | _ => (false, rest)
    let name := String.ofList (rest.takeWhile (· != ':'))
    match rest.dropWhile (· != ':') with
    | ':' :: ']' :: after => if posixNames.contains name then some (.posix name negated, after) else none
    | _ => none
  | _ => none

/-- Reads one character or class inside brackets. -/
def setPrimitive (spaced : Bool) : List Char → Option (Primitive × List Char)
  | [] => none
  | '\\' :: rest => escape spaced rest
  | c :: rest => some (.literal ⟨c, false⟩, rest)

/-- A character or class as an item of a set; an anchor cannot be one. -/
def Primitive.item? : Primitive → Option SetAst
  | .literal l => some (.range l l)
  | .letter c negated => some (.letter c negated)
  | .property name negated => some (.property name negated)
  | .dot => none
  | .anchor _ => none

/-- Reads an item or a range of characters inside brackets. -/
def setItem (spaced : Bool) (cs : List Char) : Option (SetAst × List Char) := do
  let (lo, rest) ← setPrimitive spaced cs
  match skip spaced rest with
  | [] => none
  | c :: more =>
    let after := peekAfter spaced (c :: more)
    if c != '-' || after == some ']' || after == some '-' then (lo.item?).map (·, c :: more)
    else
      match skip spaced more with
      | [] => none
      | more =>
        match lo, ← setPrimitive spaced more with
        | .literal a, (.literal b, rest) => if a.char ≤ b.char then some (.range a b, rest) else none
        | _, _ => none

/-- Reads hyphens that stand for themselves, after items already read in reverse. -/
def leadingHyphens (spaced : Bool) : Nat → List SetAst → List Char → Option (List SetAst × List Char)
  | 0, _, _ => none
  | fuel + 1, items, cs =>
    match cs with
    | [] => none
    | '-' :: rest => leadingHyphens spaced fuel (.range ⟨'-', false⟩ ⟨'-', false⟩ :: items) (skip spaced rest)
    | cs => some (items, cs)

/-- Reads what follows an opening bracket: a circumflex negates, and hyphens or a closing bracket that
    come first stand for themselves. -/
def openSet (spaced : Bool) (cs : List Char) : Option (Bool × List SetAst × List Char) := do
  let cs := skip spaced cs
  let (negated, cs) := match cs with
    | '^' :: rest => (true, skip spaced rest)
    | _ => (false, cs)
  let (items, cs) ← leadingHyphens spaced (cs.length + 1) [] cs
  match items, cs with
  | [], ']' :: rest =>
    let rest := skip spaced rest
    if rest.isEmpty then none else some (negated, [.range ⟨']', false⟩ ⟨']', false⟩], rest)
  | _, _ => some (negated, items, cs)

/-- The set of the items read in reverse, joined to the set before them. -/
def closeSet (pending : Option (SetOp × SetAst)) (items : List SetAst) : SetAst :=
  match pending with
  | none => .ofItems items.reverse
  | some (op, lhs) => .binary op lhs (.ofItems items.reverse)

/-- Reads a set up to its closing bracket. Joins of sets lean to the left. -/
def setItems (spaced : Bool) :
    Nat → Option (SetOp × SetAst) → List SetAst → List Char → Option (SetAst × List Char)
  | 0, _, _, _ => none
  | fuel + 1, pending, items, cs =>
    let join (op : SetOp) (rest : List Char) :=
      setItems spaced fuel (some (op, closeSet pending items)) [] rest
    match skip spaced cs with
    | [] => none
    | ']' :: rest => some (closeSet pending items, rest)
    | '[' :: rest =>
      match posixClass? rest with
      | some (item, rest) => setItems spaced fuel pending (item :: items) rest
      | none => do
        let (negated, opened, rest) ← openSet spaced rest
        let (inner, rest) ← setItems spaced fuel none opened rest
        setItems spaced fuel pending (.bracket negated inner :: items) rest
    | '&' :: '&' :: rest => join .intersection rest
    | '-' :: '-' :: rest => join .difference rest
    | '~' :: '~' :: rest => join .symmetricDifference rest
    | cs => do
      let (item, rest) ← setItem spaced cs
      setItems spaced fuel pending (item :: items) rest

/-- Reads a set in brackets, after the opening one. -/
def bracket (spaced : Bool) (cs : List Char) : Option (Ast × List Char) := do
  let (negated, opened, rest) ← openSet spaced cs
  let (inner, rest) ← setItems spaced (cs.length + 1) none opened rest
  some (.bracket negated inner, rest)

/-- Reads decimal digits in reverse. -/
def digitsAfter (spaced : Bool) : Nat → List Char → List Char → List Char × List Char
  | 0, read, cs => (read, cs)
  | fuel + 1, read, cs =>
    match cs with
    | [] => (read, [])
    | c :: rest =>
      if c.isDigit then digitsAfter spaced fuel (c :: read) (skip spaced rest) else (read, cs)

/-- A count: none if there are no digits, and no result if it is too great. Blanks around it do not
    count. -/
def count (spaced : Bool) (cs : List Char) : Option (Option Nat × List Char) :=
  let start := cs.dropWhile Text.isBlank
  let (digits, rest) := digitsAfter spaced (start.length + 1) [] start
  let rest := skip spaced (rest.dropWhile Text.isBlank)
  let value := digits.foldr (fun c n => n * 10 + (c.toNat - 48)) 0
  if digits.isEmpty then some (none, rest)
  else if value < 4294967296 then some (some value, rest)
  else none

/-- Reads the bounds of a repetition, after the opening brace. -/
def bounds (spaced : Bool) (cs : List Char) : Option ((Nat × Option Nat) × List Char) := do
  let (least, rest) ← count spaced (skip spaced cs)
  match rest with
  | ',' :: rest =>
    match skip spaced rest with
    | '}' :: rest => do
      let least ← least
      some ((least, none), rest)
    | rest => do
      let least ← least
      let (most, rest) ← count spaced rest
      let most ← most
      match rest with
      | '}' :: rest => if least ≤ most then some ((least, some most), rest) else none
      | _ => none
  | '}' :: rest => do
    let least ← least
    some ((least, some least), rest)
  | _ => none

/-- What may be repeated: anything that is not empty and no switch. -/
def isRepeatable : Ast → Bool
  | .empty => false
  | .flags _ => false
  | _ => true

/-- Repeats the pattern read last, unless there is none. -/
def repeated (least : Nat) (most : Option Nat) (greedy : Bool) : List Ast → Option (List Ast)
  | e :: items => if isRepeatable e then some (.repetition e least most greedy :: items) else none
  | [] => none

/-- A question mark after a repetition makes it lazy. -/
def laziness : List Char → Bool × List Char
  | '?' :: rest => (false, rest)
  | cs => (true, cs)

/-- The switch with a letter. -/
def flag? : Char → Option Flag
  | 'i' => some .caseless
  | 'm' => some .multiLine
  | 's' => some .dotAll
  | 'U' => some .swapGreed
  | 'u' => some .unicode
  | 'R' => some .crlf
  | 'x' => some .spaced
  | _ => none

/-- Reads switches up to the colon or parenthesis that ends them. `negating` tells that a hyphen was
    read, and `dangling` that it was read last. -/
def flagsUpTo (negating dangling : Bool) (read : FlagChanges) :
    List Char → Option (FlagChanges × Char × List Char)
  | [] => none
  | c :: rest =>
    if c == ':' || c == ')' then if dangling then none else some (read.reverse, c, rest)
    else if c == '-' then if negating then none else flagsUpTo true true read rest
    else
      match flag? c with
      | none => none
      | some f =>
        if read.any (·.1 == f) then none else flagsUpTo negating false ((f, !negating) :: read) rest

/-- What a change does to a switch. -/
def flagState? (f : Flag) (changes : FlagChanges) : Option Bool :=
  (changes.find? (·.1 == f)).map (·.2)

/-- A character of the name of a group. -/
def isGroupNameTail (c : Char) : Bool :=
  c == '_' || c == '.' || c == '[' || c == ']' || Text.isLetter c || Text.isNumber c

/-- Reads the name of a group up to the bracket that ends it. -/
def groupName? (cs : List Char) : Option (String × List Char) :=
  let name := cs.takeWhile (· != '>')
  match name, cs.dropWhile (· != '>') with
  | c :: tail, _ :: rest =>
    if Text.isNameHead c && tail.all isGroupNameTail then some (String.ofList name, rest) else none
  | _, _ => none

/-- What has not been read, whether blanks do not count there, and the groups opened so far. -/
structure Place where
  rest : List Char
  spaced : Bool
  groups : Nat
  names : List String

/-- What follows an opening parenthesis: switches alone, or a group and the place inside it. -/
inductive Opening where
  | flags (changes : FlagChanges) (place : Place)
  | group (kind : GroupKind) (place : Place)

/-- Opens a group with a name, which no other group may have. -/
def namedGroup (place : Place) (cs : List Char) : Option Opening := do
  let (name, rest) ← groupName? cs
  if place.names.contains name then none
  else
    let index := place.groups + 1
    some (.group (.capture index (some name)) ⟨rest, place.spaced, index, name :: place.names⟩)

/-- Reads what follows an opening parenthesis. -/
def openGroup (place : Place) (cs : List Char) : Option Opening :=
  match skip place.spaced cs with
  | '?' :: '=' :: _ => none
  | '?' :: '!' :: _ => none
  | '?' :: '<' :: '=' :: _ => none
  | '?' :: '<' :: '!' :: _ => none
  | '?' :: 'P' :: '<' :: rest => namedGroup place rest
  | '?' :: '<' :: rest => namedGroup place rest
  | '?' :: rest => do
    let (changes, ending, rest) ← flagsUpTo false false [] rest
    let spaced := (flagState? .spaced changes).getD place.spaced
    if ending == ')' then
      if changes.isEmpty then none
      else some (.flags changes ⟨rest, spaced, place.groups, place.names⟩)
    else some (.group (.plain changes) ⟨rest, spaced, place.groups, place.names⟩)
  | rest =>
    let index := place.groups + 1
    some (.group (.capture index none) ⟨rest, place.spaced, index, place.names⟩)

/-- A character or class as a pattern. -/
def Primitive.pattern : Primitive → Ast
  | .literal l => .literal l
  | .dot => .dot
  | .anchor a => .anchor a
  | .letter c negated => .letter c negated
  | .property name negated => .property name negated

/-- Reads branches up to a closing parenthesis or the end; `branches` and `items` are those read, in
    reverse. -/
def choices : Nat → List Ast → List Ast → Place → Option (Ast × Place)
  | 0, _, _, _ => none
  | fuel + 1, branches, items, place =>
    let cs := skip place.spaced place.rest
    let finished := (Ast.ofBranches (Ast.ofItems items.reverse :: branches).reverse,
      { place with rest := cs })
    let more (items : List Ast) (rest : List Char) :=
      choices fuel branches items { place with rest := rest }
    match cs with
    | [] => some finished
    | c :: rest =>
      if c == ')' then some finished
      else if c == '|' then
        choices fuel (Ast.ofItems items.reverse :: branches) [] { place with rest := rest }
      else if c == '[' then do
        let (e, rest) ← bracket place.spaced rest
        more (e :: items) rest
      else if c == '?' || c == '*' || c == '+' then do
        let (greedy, rest) := laziness rest
        let items ← repeated (if c == '+' then 1 else 0) (if c == '?' then some 1 else none) greedy items
        more items rest
      else if c == '{' then do
        let ((least, most), rest) ← bounds place.spaced rest
        let (greedy, rest) := laziness (skip place.spaced rest)
        let items ← repeated least most greedy items
        more items rest
      else if c == '(' then do
        match ← openGroup place rest with
        | .flags changes place => choices fuel branches (.flags changes :: items) place
        | .group kind inside =>
          let (e, inside) ← choices fuel [] [] inside
          match inside.rest with
          | ')' :: rest =>
            choices fuel branches (.group kind e :: items)
              { inside with rest := rest, spaced := place.spaced }
          | _ => none
      else if c == '\\' then do
        let (p, rest) ← escape place.spaced rest
        more (p.pattern :: items) rest
      else if c == '.' then more (.dot :: items) rest
      else if c == '^' then more (.anchor .lineStart :: items) rest
      else if c == '$' then more (.anchor .lineEnd :: items) rest
      else more (.literal ⟨c, false⟩ :: items) rest

/-- The tree of a pattern; none if it is malformed or nested too deeply. The notation is that of regular
    expressions without look-around and back-references. -/
def parse? (pattern : String) : Option Ast := do
  let cs := pattern.toList
  let (e, place) ← choices (cs.length + 1) [] [] ⟨cs, false, 0, []⟩
  if place.rest.isEmpty && e.height ≤ maxHeight then some e else none

end VulnProbe.Regex.Parser
