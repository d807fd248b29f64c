import VulnProbe.Yaml.Cursor

namespace VulnProbe.Yaml

/-- What stands between two words of a scalar: blanks within a line, or line breaks. The breaks after
    the first are in reverse. One line break between two lines becomes a blank, and of several breaks
    the first is dropped. -/
inductive Gap where
  | blanks (text : List Char)
  | breaks (first : Option Char) (more : List Char)

/-- Whether a gap goes over a line break. -/
def Gap.isBroken : Gap → Bool
  | .blanks _ => false
  | .breaks .. => true

/-- What a gap is kept as, in reverse. -/
def Gap.folded : Gap → List Char
  | .blanks text => text.reverse
  | .breaks none more => more
  | .breaks (some first) more =>
    if first == '\n' then if more.isEmpty then [' '] else more else more ++ [first]

/-- Passes the blanks of a line that continues a scalar. A tab must not stand before the column
    `indent`. -/
def skipIndent? (indent : Nat) (c : Cursor) : Option Cursor :=
  let blanks := c.rest.takeWhile isSpace
  if (blanks.take (indent - c.column)).contains '\t' then none else some (c.advance blanks.length)

/-- Reads further line breaks of a gap. -/
def breaksAfter (indent : Nat) (first : Option Char) :
    Nat → List Char → Cursor → Option (Gap × Cursor)
  | 0, _, _ => none
  | fuel + 1, more, c => do
    let c ← skipIndent? indent c
    match c.takeBreak? with
    | some (b, c) => breaksAfter indent first fuel (b :: more) c
    | none => some (.breaks first more, c)

/-- Reads a gap. -/
def gap? (indent fuel : Nat) (c : Cursor) : Option (Gap × Cursor) :=
  let (blanks, c) := c.takeWhile isSpace
  match c.takeBreak? with
  | some (b, c) => breaksAfter indent (some b) fuel [] c
  | none => some (.blanks blanks, c)

/-- A character that ends a plain word inside brackets. -/
def isFlowMark (c : Char) : Bool :=
  c == ',' || c == '[' || c == ']' || c == '\x7b' || c == '\x7d'

/-- Reads a plain word, in reverse. A colon inside brackets must not stand before a mark. -/
def plainWord? (inFlow : Bool) (read : List Char) : List Char → Option (List Char)
  | [] => some read
  | c :: rest =>
    let nextIsMark := match rest with
      | x :: _ => isFlowMark x || x == '?'
      | [] => false
    if isSpace c || isBreak c then some read
    else if inFlow && c == ':' && nextIsMark then none
    else if (c == ':' && endsWord rest) || (inFlow && isFlowMark c) then some read
    else plainWord? inFlow (c :: read) rest

/-- Reads a plain scalar, after the text already read in reverse and the gap after it. Tells the text,
    and whether the scalar was left after a line break. -/
def plainAfter (inFlow : Bool) (indent lines : Nat) :
    Nat → List Char → Gap → Cursor → Option (List Char × Bool × Cursor)
  | 0, _, _, _ => none
  | fuel + 1, text, gap, c =>
    if c.hasDocumentMark || c.rest.head? == some '#' then some (text, gap.isBroken, c)
    else
      match plainWord? inFlow [] c.rest with
      | none => none
      | some [] => some (text, gap.isBroken, c)
      | some word =>
        let text := word ++ (gap.folded ++ text)
        let c := c.advance word.length
        match c.rest with
        | [] => some (text, false, c)
        | x :: _ =>
          if !isSpace x && !isBreak x then some (text, false, c)
          else
            match gap? indent lines c with
            | none => none
            | some (gap, c) =>
              if !inFlow && c.column < indent then some (text, gap.isBroken, c)
              else plainAfter inFlow indent lines fuel text gap c

/-- Reads a plain scalar that must be indented at least to a column. `fuel` bounds the lines, here and
    in the readers of the other scalars. -/
def plainScalar? (inFlow : Bool) (indent fuel : Nat) (c : Cursor) :
    Option (String × Bool × Cursor) :=
  (plainAfter inFlow indent fuel fuel [] (.blanks []) c).map fun (text, isBroken, c) =>
    (String.ofList text.reverse, isBroken, c)

/-- What an escape letter stands for alone. -/
def escaped? (c : Char) : Option Char :=
  if c == '0' then some '\x00'
  else if c == 'a' then some '\x07'
  else if c == 'b' then some '\x08'
  else if c == 't' || c == '\t' then some '\t'
  else if c == 'n' then some '\n'
  else if c == 'v' then some '\x0b'
  else if c == 'f' then some '\x0c'
  else if c == 'r' then some '\r'
  else if c == 'e' then some '\x1b'
  else if c == ' ' || c == '"' || c == '/' || c == '\\' then some c
  else if c == 'N' then some '\u0085'
  else if c == '_' then some '\u00a0'
  else if c == 'L' then some '\u2028'
  else if c == 'P' then some '\u2029'
  else none

/-- How many hexadecimal digits follow an escape letter. -/
def escapeDigits? (c : Char) : Option Nat :=
  if c == 'x' then some 2 else if c == 'u' then some 4 else if c == 'U' then some 8 else none

/-- The value of a hexadecimal digit. -/
def hexDigit? (c : Char) : Option Nat :=
  if c.isDigit then some (c.toNat - 48)
  else if 'a' ≤ c && c ≤ 'f' then some (c.toNat - 87)
  else if 'A' ≤ c && c ≤ 'F' then some (c.toNat - 55)
  else none

/-- The value of hexadecimal digits. -/
def hexNumber? (cs : List Char) : Option Nat :=
  cs.foldlM (fun n c => (hexDigit? c).map (n * 16 + ·)) 0

/-- The character that an escape stands for, after its backslash, and the number of characters of the
    escape. -/
def escape? : List Char → Option (Char × Nat)
  | [] => none
  | c :: rest =>
    match escaped? c with
    | some x => some (x, 1)
    | none => do
      let count ← escapeDigits? c
      let digits := rest.take count
      let n ← if digits.length == count then hexNumber? digits else none
      if n < 0xD800 || (0xDFFF < n && n ≤ 0x10FFFF) then some (Char.ofNat n, count + 1) else none

/-- Where a run of characters in quotes ends: at a blank, a line break or the end, at the closing quote,
    or at a line break that does not count. -/
inductive RunEnd where
  | blank
  | quote
  | joined

/-- Reads a run of characters in quotes, after what is already read in reverse. -/
def quotedRun (quote : Char) : Nat → List Char → Cursor → Option (List Char × RunEnd × Cursor)
  | 0, _, _ => none
  | fuel + 1, text, c =>
    match c.rest with
    | [] => some (text, .blank, c)
    | x :: rest =>
      if isSpace x || isBreak x then some (text, .blank, c)
      else if x == quote then
        if quote == '\x27' && rest.head? == some quote then
          quotedRun quote fuel (quote :: text) (c.advance 2)
        else some (text, .quote, c.advance 1)
      else if quote == '"' && x == '\\' then
        if rest.head?.any isBreak then
          match (c.advance 1).takeBreak? with
          | some (_, c) => some (text, .joined, c)
          | none => none
        else
          match escape? rest with
          | some (y, count) => quotedRun quote fuel (y :: text) (c.advance (count + 1))
          | none => none
      else quotedRun quote fuel (x :: text) (c.advance 1)

/-- Reads what is left of a scalar in quotes, after the text already read in reverse. -/
def quotedAfter (quote : Char) (limit : Nat) : Nat → List Char → Cursor → Option (List Char × Cursor)
  | 0, _, _ => none
  | fuel + 1, text, c =>
    if c.hasDocumentMark || c.rest.isEmpty then none
    else
      match quotedRun quote limit text c with
      | none => none
      | some (text, .quote, c) => some (text, c)
      | some (text, .blank, c) =>
        match gap? 0 limit c with
        | none => none
        | some (gap, c) => quotedAfter quote limit fuel (gap.folded ++ text) c
      | some (text, .joined, c) =>
        match breaksAfter 0 none limit [] c with
        | none => none
        | some (gap, c) => quotedAfter quote limit fuel (gap.folded ++ text) c

/-- Reads a scalar in quotes, after the opening one. -/
def quotedScalar? (quote : Char) (fuel : Nat) (c : Cursor) : Option (String × Cursor) :=
  (quotedAfter quote fuel fuel [] c).map fun (text, c) => (String.ofList text.reverse, c)

/-- What is done with the line breaks at the end of a block. -/
inductive Chomping where
  | strip
  | clip
  | keep

/-- What the head of a block says: the treatment of its end, and how far it is indented. -/
structure BlockHead where
  chomping : Chomping
  increment : Option Nat

/-- Reads the mark for the treatment of the end. -/
def chomping? (c : Cursor) : Option (Chomping × Cursor) :=
  match c.rest with
  | '+' :: _ => some (.keep, c.advance 1)
  | '-' :: _ => some (.strip, c.advance 1)
  | _ => none

/-- Reads the digit for the indentation. It must not be zero. -/
def increment? (c : Cursor) : Option (Option Nat × Cursor) :=
  match c.rest with
  | x :: _ =>
    if !x.isDigit then some (none, c)
    else if x == '0' then none
    else some (some (x.toNat - 48), c.advance 1)
  | [] => some (none, c)

/-- Reads the head of a block up to the end of its line. -/
def blockHead? (c : Cursor) : Option (BlockHead × Cursor) := do
  let (head, c) ← match chomping? c with
    | some (chomping, c) => (increment? c).map fun (increment, c) => (⟨chomping, increment⟩, c)
    | none => do
      let (increment, c) ← increment? c
      match increment, chomping? c with
      | some n, some (chomping, c) => some (BlockHead.mk chomping (some n), c)
      | increment, _ => some (⟨.clip, increment⟩, c)
  let c ← c.endLine?
  some (head, c)

/-- Passes the indentation of a line of a block, up to the column `indent` if that is known. A tab must
    not stand in it. -/
def blockIndent? (indent : Option Nat) (c : Cursor) : Option Cursor :=
  let blanks := c.rest.takeWhile (· == ' ')
  let count := match indent with
    | none => blanks.length
    | some n => min blanks.length (n - c.column)
  let c := c.advance count
  let isInside := match indent with
    | none => true
    | some n => c.column < n
  if isInside && c.rest.head? == some '\t' then none else some c

/-- Passes empty lines of a block. Tells their breaks in reverse and the greatest column reached. -/
def blockBreaks (indent : Option Nat) :
    Nat → List Char → Nat → Cursor → Option (List Char × Nat × Cursor)
  | 0, _, _, _ => none
  | fuel + 1, breaks, widest, c => do
    let c ← blockIndent? indent c
    let widest := max widest c.column
    match c.takeBreak? with
    | some (b, c) => blockBreaks indent fuel (b :: breaks) widest c
    | none => some (breaks, widest, c)

/-- Reads the lines of a block that are indented to a column. `text` and the breaks are in reverse;
    `isBlankLine` tells that the line before started with a blank. The breaks that end the text come
    apart from it. -/
def blockLines (isLiteral : Bool) (indent limit : Nat) :
    Nat → List Char → Option Char → List Char → Bool → Cursor →
      Option (List Char × Option Char × List Char × Cursor)
  | 0, _, _, _, _, _ => none
  | fuel + 1, text, lineBreak, breaks, isBlankLine, c =>
    match c.rest with
    | [] => some (text, lineBreak, breaks, c)
    | x :: _ =>
      if c.column != indent then some (text, lineBreak, breaks, c)
      else
        let isFolded := !isLiteral && lineBreak == some '\n' && !isBlankLine && !isSpace x
        let text :=
          if isFolded then if breaks.isEmpty then ' ' :: text else text
          else lineBreak.toList ++ text
        let (lineText, c) := c.takeWhile fun _ => true
        let text := lineText.reverse ++ (breaks ++ text)
        let (lineBreak, c) := match c.takeBreak? with
          | some (b, c) => (some b, c)
          | none => (none, c)
        match blockBreaks (some indent) limit [] 0 c with
        | none => none
        | some (breaks, _, c) =>
          blockLines isLiteral indent limit fuel text lineBreak breaks (isSpace x) c

/-- Reads a scalar in a block, after its mark. `indent` is the column of the collection around it, if
    there is one. -/
def blockScalar? (isLiteral : Bool) (indent : Int) (fuel : Nat) (c : Cursor) :
    Option (String × Cursor) := do
  let (head, c) ← blockHead? c
  let given := head.increment.map fun n => (max indent 0).toNat + n
  let (breaks, widest, c) ← blockBreaks given fuel [] 0 c
  let column := given.getD (max widest (max (indent + 1).toNat 1))
  let (text, lineBreak, breaks, c) ← blockLines isLiteral column fuel fuel [] none breaks false c
  let text := match head.chomping with
    | .strip => text
    | .clip => lineBreak.toList ++ text
    | .keep => breaks ++ (lineBreak.toList ++ text)
  some (String.ofList text.reverse, c)

end VulnProbe.Yaml
