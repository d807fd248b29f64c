import VulnProbe.Expr.Error
import VulnProbe.Text.Hex
import VulnProbe.Text.Letter

namespace VulnProbe.Expr

/-- What a quoted literal is made of: characters for a text, bytes for a byte string. -/
structure Content (α : Type) where
  /-- What a character stands for. -/
  char : Char → List α
  /-- What an escape by a number below 256 stands for. -/
  byte : Nat → List α

/-- The content of a text literal. -/
def Content.text : Content Char where
  char c := [c]
  byte n := [Char.ofNat n]

/-- The content of a byte string literal: characters stand for their UTF-8 bytes. -/
def Content.bytes : Content UInt8 where
  char := String.utf8EncodeChar
  byte n := [UInt8.ofNat n]

/-- A sign is accepted before the digits of an escape, in the place of one of them. -/
def escapeDigits : List Char → List Char
  | '+' :: c :: rest => c :: rest
  | cs => cs

/-- The number that digits in base 16 write. -/
def hexNumber? (cs : List Char) : Option Nat :=
  cs.foldl (fun n? c => do pure ((← n?) * 16 + (← Hex.value? c))) (some 0)

/-- The number in an escape of `count` places. -/
def escapeNumber? (count : Nat) (cs : List Char) : Option Nat :=
  let places := cs.take count
  if places.length == count then hexNumber? (escapeDigits places) else none

/-- A letter after a backslash that stands for one character. -/
def plainEscape? (letter : Char) : Option Char :=
  if letter == 'n' then some '\n'
  else if letter == 't' then some '\t'
  else if letter == 'r' then some '\r'
  else if letter == '0' then some (Char.ofNat 0)
  else if letter == '\\' || letter == '"' || letter == '\x27' then some letter
  else none

/-- The character with a number, surrogates excluded. -/
def scalar? (n : Nat) : Option Char :=
  if h : n.isValidChar then some (Char.ofNatAux n h) else none

/-- What the escape with a letter stands for, and the number of characters it takes after the letter.
    `pos` is the position after the letter. An unknown escape stands for itself. -/
def escape {α : Type} (content : Content α) (pos : Nat) (letter : Char) (cs : List Char) :
    Except ExprError (List α × Nat) :=
  match plainEscape? letter with
  | some c => .ok (content.char c, 0)
  | none =>
    if letter == 'x' then
      match escapeNumber? 2 cs with
      | some n => .ok (content.byte n, 2)
      | none => .error (.syntaxError pos (.badEscape letter))
    else if letter == 'u' then
      match (escapeNumber? 4 cs).bind scalar? with
      | some c => .ok (content.char c, 4)
      | none => .error (.syntaxError pos (.badEscape letter))
    else .ok (content.char '\\' ++ content.char letter, 0)

/-- Reads a literal up to its closing quote. `start` is the position of the opening quote, `pos` that
    of the next character, and `read` holds what is read so far in reverse. Gives the content and the
    position after the closing quote. -/
def readQuoted {α : Type} (content : Content α) (isRaw : Bool) (quote : Char) (start pos : Nat)
    (read : List α) (cs : List Char) : Except ExprError (List α × Nat) :=
  match cs with
  | [] => .error (.syntaxError start .unfinishedText)
  | c :: rest =>
    if c == quote then .ok (read.reverse, pos + 1)
    else if c == '\\' && !isRaw then
      match rest with
      | [] => .error (.syntaxError pos .unfinishedEscape)
      | letter :: rest =>
        match escape content (pos + 2) letter rest with
        | .error e => .error e
        | .ok (items, extra) =>
          readQuoted content isRaw quote start (pos + 2 + extra) (items.reverse ++ read)
            (rest.drop extra)
    else readQuoted content isRaw quote start (pos + 1) ((content.char c).reverse ++ read) rest
termination_by cs.length
decreasing_by all_goals (simp; try omega)

/-- How a quoted literal is introduced. -/
structure QuoteMark where
  isRaw : Bool
  isBytes : Bool
  quote : Char
  deriving DecidableEq, Repr

/-- A quote of either kind. -/
def isQuote (c : Char) : Bool :=
  c == '"' || c == '\x27'

/-- The letter that marks a raw literal. -/
def isRawMark (c : Char) : Bool :=
  c == 'r' || c == 'R'

/-- The letter that marks a byte string literal. -/
def isBytesMark (c : Char) : Bool :=
  c == 'b' || c == 'B'

/-- The marks and the opening quote at the front of a text: up to one mark of each kind, in either
    order. -/
def quoteMark? : List Char → Option QuoteMark
  | [] => none
  | a :: rest =>
    if isQuote a then some ⟨false, false, a⟩
    else if isRawMark a || isBytesMark a then
      match rest with
      | [] => none
      | b :: rest =>
        if isQuote b then some ⟨isRawMark a, isBytesMark a, b⟩
        else if (isRawMark a && isBytesMark b) || (isBytesMark a && isRawMark b) then
          match rest with
          | [] => none
          | c :: _ => if isQuote c then some ⟨true, true, c⟩ else none
        else none
    else none

/-- The number of marks before the quote. -/
def QuoteMark.width (m : QuoteMark) : Nat :=
  m.isRaw.toNat + m.isBytes.toNat

/-- The literal whose marks are known; `rest` follows the opening quote. Gives the token and the
    position after it. -/
def quotedToken (m : QuoteMark) (pos : Nat) (rest : List Char) : Except ExprError (Token × Nat) :=
  let quotePos := pos + m.width
  if m.isBytes then do
    let (bytes, next) ← readQuoted .bytes m.isRaw m.quote quotePos (quotePos + 1) [] rest
    pure (.bytes bytes, next)
  else do
    let (chars, next) ← readQuoted .text m.isRaw m.quote quotePos (quotePos + 1) [] rest
    pure (.str (String.ofList chars), next)

/-- The number that decimal digits write. -/
def decimalNumber (cs : List Char) : Nat :=
  cs.foldl (fun n c => n * 10 + (c.toNat - 48)) 0

/-- The greatest integer. -/
def maxInt : Int := 9223372036854775807

/-- The least integer. -/
def minInt : Int := -9223372036854775808

/-- An integer literal is not greater than the greatest integer. -/
def intToken? (n : Nat) : Option Token :=
  if (n : Int) ≤ maxInt then some (.int n) else none

/-- The letter that marks digits in base 16. -/
def isHexMark (c : Char) : Bool :=
  c == 'x' || c == 'X'

/-- The integer literal that starts with the digit `c`, with the number of characters after it. -/
def numberToken? (c : Char) (rest : List Char) : Option Token × Nat :=
  let decimal :=
    let ds := rest.takeWhile Char.isDigit
    (intToken? (decimalNumber (c :: ds)), ds.length)
  match rest with
  | x :: rest =>
    if c == '0' && isHexMark x then
      let ds := rest.takeWhile fun d => (Hex.value? d).isSome
      let n? := if ds.isEmpty then none else hexNumber? ds
      (n?.bind intToken?, ds.length + 1)
    else decimal
  | [] => decimal

/-- The operator or bracket that starts with `c`, with the number of characters after it. -/
def symbolToken? (c : Char) (next : Option Char) : Option (Token × Nat) :=
  if c == '&' && next == some '&' then some (.andAnd, 1)
  else if c == '|' && next == some '|' then some (.orOr, 1)
  else if c == '=' && next == some '=' then some (.eqEq, 1)
  else if c == '!' && next == some '=' then some (.ne, 1)
  else if c == '<' && next == some '=' then some (.le, 1)
  else if c == '>' && next == some '=' then some (.ge, 1)
  else if c == '(' then some (.lparen, 0)
  else if c == ')' then some (.rparen, 0)
  else if c == '[' then some (.lbracket, 0)
  else if c == ']' then some (.rbracket, 0)
  else if c == '\x7b' then some (.lbrace, 0)
  else if c == '\x7d' then some (.rbrace, 0)
  else if c == '.' then some (.dot, 0)
  else if c == ',' then some (.comma, 0)
  else if c == ':' then some (.colon, 0)
  else if c == '?' then some (.question, 0)
  else if c == '+' then some (.plus, 0)
  else if c == '-' then some (.minus, 0)
  else if c == '*' then some (.star, 0)
  else if c == '/' then some (.slash, 0)
  else if c == '%' then some (.percent, 0)
  else if c == '!' then some (.bang, 0)
  else if c == '<' then some (.lt, 0)
  else if c == '>' then some (.gt, 0)
  else none

/-- The token that starts with the character `c` at a position, `c` not being blank, and the number of
    characters it takes after `c`, so that the rest of a text is always shorter. Positions count
    characters. -/
def scanToken (pos : Nat) (c : Char) (rest : List Char) : Except ExprError (Token × Nat) :=
  match quoteMark? (c :: rest) with
  | some m => do
    let (token, next) ← quotedToken m pos (rest.drop m.width)
    pure (token, next - pos - 1)
  | none =>
    if c.isDigit then
      match numberToken? c rest with
      | (some token, extra) => .ok (token, extra)
      | (none, _) => .error (.syntaxError pos .badInteger)
    else if Text.isNameHead c then
      let tail := rest.takeWhile Text.isNameTail
      .ok (.ident (String.ofList (c :: tail)), tail.length)
    else
      match symbolToken? c rest.head? with
      | some found => .ok found
      | none => .error (.syntaxError pos (.badCharacter c))

/-- The tokens of a text that starts at a position, after the tokens already found in reverse. -/
def tokensAfter (found : List Located) (pos : Nat) (cs : List Char) :
    Except ExprError (List Located) :=
  match cs with
  | [] => .ok ((⟨.endOfInput, pos⟩ :: found).reverse)
  | c :: rest =>
    if Text.isBlank c then tokensAfter found (pos + 1) rest
    else
      match scanToken pos c rest with
      | .error e => .error e
      | .ok (token, extra) =>
        tokensAfter (⟨token, pos⟩ :: found) (pos + 1 + extra) (rest.drop extra)
termination_by cs.length
decreasing_by all_goals (simp; try omega)

/-- The tokens of an expression, closed by the end of input at the number of characters. -/
def tokenize (source : String) : Except ExprError (List Located) :=
  tokensAfter [] 0 source.toList

end VulnProbe.Expr
