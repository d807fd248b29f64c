import VulnProbe.Yaml.Scalar
import VulnProbe.Yaml.Token

namespace VulnProbe.Yaml

/-- A place where a key may have started: how many tokens stood before it, and where it is in the text.
    That it is one is only known when a colon is met, and then the tokens for it are put in there. A
    required key must turn out to be one. -/
structure KeyPlace where
  isRequired : Bool
  tokensBefore : Nat
  index : Nat
  line : Nat
  column : Nat

/-- A stream in the course of reading. `tokens` is in reverse. `indent` is the column of the innermost
    block collection and `outer` those around it: outside brackets the indentation tells where
    collections start and end. `keys` holds the place of a key for each level of brackets, the innermost
    first. -/
structure Scan where
  cursor : Cursor
  tokens : List Token
  count : Nat
  depth : Nat
  indent : Int
  outer : List Int
  allowsKey : Bool
  keys : List (Option KeyPlace)
  limit : Nat

namespace Scan

/-- A scan at the start of a text. A mark of the byte order may come first, and takes a column. -/
def start (cs : List Char) : Scan :=
  let c : Cursor := ⟨cs, 0, 0, 0⟩
  let c := if cs.head? == some '\uFEFF' then c.advance 1 else c
  ⟨c, [], 0, 0, -1, [], true, [none], cs.length + 2⟩

/-- Adds a token. -/
def push (s : Scan) (t : Token) : Scan :=
  { s with tokens := t :: s.tokens, count := s.count + 1 }

/-- Adds a token after so many others. -/
def insertAfter (s : Scan) (before : Nat) (t : Token) : Scan :=
  let later := s.count - before
  { s with tokens := s.tokens.take later ++ t :: s.tokens.drop later, count := s.count + 1 }

/-- Passes characters of the line. -/
def advance (s : Scan) (n : Nat) : Scan :=
  { s with cursor := s.cursor.advance n }

/-- Whether the scan is inside brackets. -/
def inFlow (s : Scan) : Bool :=
  s.depth > 0

/-- Gives up the place of a key that has not turned out to be one. -/
def dropKey? (s : Scan) : Option Scan :=
  match s.keys with
  | some k :: rest => if k.isRequired then none else some { s with keys := none :: rest }
  | _ => some s

/-- Notes that a key may start here. -/
def noteKey? (s : Scan) : Option Scan :=
  if !s.allowsKey then some s
  else
    let isRequired := !s.inFlow && s.indent == s.cursor.column
    (dropKey? s).map fun s =>
      { s with keys := some ⟨isRequired, s.count, s.cursor.index, s.cursor.line, s.cursor.column⟩
          :: s.keys.drop 1 }

/-- Whether the place of a key can no longer start one: a key takes one line and at most so many
    characters. -/
def isStale (s : Scan) (k : KeyPlace) : Bool :=
  k.line < s.cursor.line || k.index + 1024 < s.cursor.index

/-- Gives up the places that can no longer start a key. -/
def dropStaleKeys? (s : Scan) : Option Scan :=
  if s.keys.any fun k => k.any fun k => s.isStale k && k.isRequired then none
  else some { s with keys := s.keys.map fun k => k.filter fun k => !s.isStale k }

/-- Starts a block collection at a column that is further in, with a token after so many others. -/
def openBlock (s : Scan) (column before : Nat) (t : Token) : Scan :=
  if s.inFlow || (column : Int) ≤ s.indent then s
  else { s.insertAfter before t with indent := column, outer := s.indent :: s.outer }

/-- Ends the block collections that are further in than a column. -/
def closeBlocks (column : Int) : List Int → Scan → Scan
  | [], s => s
  | i :: outer, s =>
    if s.indent ≤ column then s
    else closeBlocks column outer { s.push .blockEnd with indent := i, outer := outer }

/-- Ends the block collections that are further in than a column, unless the scan is in brackets. -/
def leaveBlocks (s : Scan) (column : Int) : Scan :=
  if s.inFlow then s else closeBlocks column s.outer s

/-- Passes blanks, comments and line breaks up to the next token. A tab does not count as a blank where
    a key may start outside brackets. -/
def skipToToken : Nat → Scan → Scan
  | 0, s => s
  | fuel + 1, s =>
    let isPassed (c : Char) : Bool := c == ' ' || ((s.inFlow || !s.allowsKey) && c == '\t')
    let c := (s.cursor.skipWhile isPassed).skipComment
    match c.takeBreak? with
    | some (_, c) => skipToToken fuel { s with cursor := c, allowsKey := s.allowsKey || !s.inFlow }
    | none => { s with cursor := c }

/-- Ends all block collections before something that concerns the whole document. -/
def leaveDocument? (s : Scan) : Option Scan :=
  ((s.leaveBlocks (-1)).dropKey?).map fun s => { s with allowsKey := false }

/-- Reads a number of a directive: at most nine digits. -/
def versionNumber? (c : Cursor) : Option (Nat × Cursor) :=
  let (digits, c) := c.takeWhile Char.isDigit
  if digits.isEmpty || digits.length > 9 then none
  else some (digits.foldl (fun n d => n * 10 + (d.toNat - 48)) 0, c)

/-- Passes a character. -/
def pass? (x : Char) (c : Cursor) : Option Cursor :=
  if c.rest.head? == some x then some (c.advance 1) else none

/-- Reads the handle of a tag: an exclamation mark, a name, and another mark if there is one. In a
    directive the name needs its second mark. -/
def tagHandle? (isDirective : Bool) (c : Cursor) : Option (List Char × Cursor) := do
  let c ← pass? '!' c
  let (name, c) := c.takeWhile isWord
  match c.rest with
  | '!' :: _ => some ('!' :: name ++ ['!'], c.advance 1)
  | _ => if isDirective && !name.isEmpty then none else some ('!' :: name, c)

/-- A character of a tag. Some may stand only in a tag that is written out. -/
def isTagChar (isWhole : Bool) (c : Char) : Bool :=
  isWord c || ";/?:@&=+$.%!~*\x27()".contains c || (isWhole && (c == ',' || c == '[' || c == ']'))

/-- The byte of two hexadecimal digits after a percent sign. -/
def escapedByte? : List Char → Option Nat
  | '%' :: a :: b :: _ => hexNumber? [a, b]
  | _ => none

/-- Reads the bytes of a character that follow its first, in the same form. -/
def escapedTail? : Nat → Nat → Cursor → Option (Nat × Cursor)
  | 0, n, c => some (n, c)
  | count + 1, n, c => do
    let b ← escapedByte? c.rest
    if b / 64 == 2 then escapedTail? count (n * 64 + b % 64) (c.advance 3) else none

/-- Reads a character that is written by its bytes. -/
def escapedChar? (c : Cursor) : Option (Char × Cursor) := do
  let b ← escapedByte? c.rest
  let c := c.advance 3
  let (n, c) ←
    if b < 128 then some (b, c)
    else if b / 32 == 6 then escapedTail? 1 (b % 32) c
    else if b / 16 == 14 then escapedTail? 2 (b % 16) c
    else if b / 8 == 30 then escapedTail? 3 (b % 8) c
    else none
  some (Char.ofNat n, c)

/-- Reads the characters of a tag, after those already read in reverse. -/
def tagChars? (isWhole : Bool) : Nat → List Char → Cursor → Option (List Char × Cursor)
  | 0, _, _ => none
  | fuel + 1, read, c =>
    match c.rest with
    | [] => some (read.reverse, c)
    | x :: _ =>
      if !isTagChar isWhole x then some (read.reverse, c)
      else if x == '%' then do
        let (y, c) ← escapedChar? c
        tagChars? isWhole fuel (y :: read) c
      else tagChars? isWhole fuel (x :: read) (c.advance 1)

/-- Reads the characters of a tag, of which there must be one. -/
def tagSuffix? (isWhole : Bool) (fuel : Nat) (c : Cursor) : Option (List Char × Cursor) := do
  let (suffix, c) ← tagChars? isWhole fuel [] c
  if suffix.isEmpty then none else some (suffix, c)

/-- Reads a tag: written out in angle brackets, or with a handle. A tag with one mark has the handle
    `!`, and a mark alone is a tag without a handle. -/
def tag? (fuel : Nat) (c : Cursor) : Option (Token × Cursor) :=
  match c.rest with
  | '!' :: '<' :: _ => do
    let (suffix, c) ← tagSuffix? true fuel (c.advance 2)
    let c ← pass? '>' c
    some (.tag "" (String.ofList suffix), c)
  | _ => do
    let (handle, c) ← tagHandle? false c
    if handle.length > 1 && handle.getLast? == some '!' then
      let (suffix, c) ← tagSuffix? false fuel c
      some (.tag (String.ofList handle) (String.ofList suffix), c)
    else
      let (more, c) ← tagChars? false fuel [] c
      let suffix := handle.drop 1 ++ more
      if suffix.isEmpty then some (.tag "" "!", c) else some (.tag "!" (String.ofList suffix), c)

/-- Reads the content of a directive after its name. -/
def directiveBody? (fuel : Nat) (name : List Char) (c : Cursor) : Option (Token × Cursor) :=
  let c := c.skipWhile isSpace
  if name == "YAML".toList then do
    let (major, c) ← versionNumber? c
    let c ← pass? '.' c
    let (minor, c) ← versionNumber? c
    some (.version major minor, c)
  else if name == "TAG".toList then do
    let (handle, c) ← tagHandle? true c
    if !(c.rest.head?.any isSpace) then none
    else
      let (head, c) ← tagSuffix? true fuel (c.skipWhile isSpace)
      if endsWord c.rest then some (.tagDirective (String.ofList handle) (String.ofList head), c)
      else none
  else none

/-- Reads a directive, of which there are two. -/
def directive? (s : Scan) : Option Scan := do
  let s ← s.leaveDocument?
  let (name, c) := (s.cursor.advance 1).takeWhile isWord
  if name.isEmpty || !endsWord c.rest then none
  else
    let (t, c) ← directiveBody? s.limit name c
    let c ← c.endLine?
    some { s.push t with cursor := c }

/-- Reads the mark of a document. -/
def documentMark? (s : Scan) (t : Token) : Option Scan := do
  let s ← s.leaveDocument?
  some ((s.push t).advance 3)

/-- Opens a bracket. -/
def openBracket? (s : Scan) (t : Token) : Option Scan := do
  let s ← s.noteKey?
  some (({ s with keys := none :: s.keys, depth := s.depth + 1, allowsKey := true }.push t).advance 1)

/-- Closes a bracket. -/
def closeBracket? (s : Scan) (t : Token) : Option Scan := do
  let s ← s.dropKey?
  let s := if s.inFlow then { s with depth := s.depth - 1, keys := s.keys.drop 1 } else s
  some (({ s with allowsKey := false }.push t).advance 1)

/-- Reads a comma. -/
def flowEntry? (s : Scan) : Option Scan := do
  let s ← s.dropKey?
  some (({ s with allowsKey := true }.push .flowEntry).advance 1)

/-- Reads the hyphen of an entry. -/
def blockEntry? (s : Scan) : Option Scan :=
  if !s.inFlow && !s.allowsKey then none
  else do
    let s := s.openBlock s.cursor.column s.count .blockSequenceStart
    let s ← s.dropKey?
    some (({ s with allowsKey := true }.push .blockEntry).advance 1)

/-- Reads the question mark of a key. -/
def key? (s : Scan) : Option Scan :=
  if !s.inFlow && !s.allowsKey then none
  else do
    let s := s.openBlock s.cursor.column s.count .blockMappingStart
    let s ← s.dropKey?
    some (({ s with allowsKey := !s.inFlow }.push .key).advance 1)

/-- Reads the colon of a value. If a key was noted before it, the tokens for the key are put in. -/
def value? (s : Scan) : Option Scan :=
  match s.keys with
  | some k :: keys =>
    let s := (s.insertAfter k.tokensBefore .key).openBlock k.column k.tokensBefore .blockMappingStart
    some (({ s with keys := none :: keys, allowsKey := false }.push .value).advance 1)
  | _ =>
    if !s.inFlow && !s.allowsKey then none
    else
      let s := s.openBlock s.cursor.column s.count .blockMappingStart
      some (({ s with allowsKey := !s.inFlow }.push .value).advance 1)

/-- Whether the name of an anchor may end here. -/
def endsAnchor (cs : List Char) : Bool :=
  endsWord cs || cs.head?.any ("?:,]\x7d%@`".contains ·)

/-- Reads an anchor or an alias. -/
def anchor? (s : Scan) (make : String → Token) : Option Scan := do
  let s ← s.noteKey?
  let (name, c) := (s.cursor.advance 1).takeWhile isWord
  if name.isEmpty || !endsAnchor c.rest then none
  else some { s.push (make (String.ofList name)) with cursor := c, allowsKey := false }

/-- Reads a tag. Inside brackets it may end with a comma. -/
def tagToken? (s : Scan) : Option Scan := do
  let s ← s.noteKey?
  let (t, c) ← tag? s.limit s.cursor
  if endsWord c.rest || (s.inFlow && c.rest.head? == some ',') then
    some { s.push t with cursor := c, allowsKey := false }
  else none

/-- Reads a scalar in a block. -/
def blockScalarToken? (s : Scan) (isLiteral : Bool) : Option Scan := do
  let s ← s.dropKey?
  let (text, c) ← blockScalar? isLiteral s.indent s.limit (s.cursor.advance 1)
  let style := if isLiteral then Style.literal else .folded
  some { s.push (.scalar style text) with cursor := c, allowsKey := true }

/-- Reads a scalar in quotes. -/
def quotedToken? (s : Scan) (quote : Char) : Option Scan := do
  let s ← s.noteKey?
  let (text, c) ← quotedScalar? quote s.limit (s.cursor.advance 1)
  some { s.push (.scalar .quoted text) with cursor := c, allowsKey := false }

/-- Reads a plain scalar. A key may start after it if it was left after a line break. -/
def plainToken? (s : Scan) : Option Scan := do
  let s ← s.noteKey?
  let (text, isBroken, c) ← plainScalar? s.inFlow (s.indent + 1).toNat s.limit s.cursor
  some { s.push (.scalar .plain text) with cursor := c, allowsKey := isBroken }

/-- A character that no plain scalar starts with. -/
def isIndicator (c : Char) : Bool :=
  "-?:,[]\x7b\x7d#&*!|>\x27\"%@`".contains c

/-- Whether a plain scalar starts here. -/
def startsPlain (inFlow : Bool) : List Char → Bool
  | [] => false
  | c :: rest =>
    !(isIndicator c || isSpace c || isBreak c)
      || (c == '-' && !(rest.head?.any isSpace))
      || (!inFlow && (c == '?' || c == ':') && !endsWord rest)

/-- Reads the next token that starts with a character. -/
def token? (s : Scan) (c : Char) (rest : List Char) : Option Scan :=
  if s.cursor.column == 0 && c == '%' then s.directive?
  else if s.cursor.hasMark '-' then s.documentMark? .documentStart
  else if s.cursor.hasMark '.' then s.documentMark? .documentEnd
  else if c == '[' then s.openBracket? .flowSequenceStart
  else if c == '\x7b' then s.openBracket? .flowMappingStart
  else if c == ']' then s.closeBracket? .flowSequenceEnd
  else if c == '\x7d' then s.closeBracket? .flowMappingEnd
  else if c == ',' then s.flowEntry?
  else if c == '-' && endsWord rest then s.blockEntry?
  else if c == '?' && (s.inFlow || endsWord rest) then s.key?
  else if c == ':' && (s.inFlow || endsWord rest) then s.value?
  else if c == '*' then s.anchor? .alias
  else if c == '&' then s.anchor? .anchor
  else if c == '!' then s.tagToken?
  else if c == '|' && !s.inFlow then s.blockScalarToken? true
  else if c == '>' && !s.inFlow then s.blockScalarToken? false
  else if c == '\x27' || c == '"' then s.quotedToken? c
  else if startsPlain s.inFlow (c :: rest) then s.plainToken?
  else none

/-- Ends the stream. -/
def finish? (s : Scan) : Option Scan := do
  let s ← (s.leaveBlocks (-1)).dropKey?
  some (s.push .streamEnd)

/-- Reads all tokens that are left. -/
def all? : Nat → Scan → Option Scan
  | 0, _ => none
  | fuel + 1, s => do
    let s ← (skipToToken s.limit s).dropStaleKeys?
    let s := s.leaveBlocks s.cursor.column
    match s.cursor.rest with
    | [] => s.finish?
    | c :: rest =>
      let s ← s.token? c rest
      all? fuel s

end Scan

/-- The tokens of a stream; none if it is malformed. -/
def tokens? (text : String) : Option (List Token) := do
  let cs := text.toList
  if !cs.all isPrintable then none
  else
    let s := Scan.start cs
    let s ← Scan.all? s.limit s
    some s.tokens.reverse

end VulnProbe.Yaml
