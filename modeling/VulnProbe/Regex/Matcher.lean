import VulnProbe.Regex.Parser
import VulnProbe.Regex.Program
import VulnProbe.Text.Utf8

namespace VulnProbe.Regex

open VulnProbe.Text

/-- The scalar value that starts a byte string, and the number of bytes after its first. -/
def nextChar? : List UInt8 → Option (Char × Nat)
  | [] => none
  | b :: rest =>
    match Utf8.first b rest with
    | (some c, extra) => some (c, extra)
    | (none, _) => none

/-- The scalar value that starts at the last byte which is not a tail, of the four before a place;
    `before` holds them in reverse. -/
def lastChar? (before : List UInt8) : Option Char :=
  let near := before.take 4
  let tails := near.takeWhile Utf8.isTail
  let start := near.take (min (tails.length + 1) near.length)
  (nextChar? start.reverse).map (·.1)

/-- A word character. -/
def isWordChar (unicode : Bool) (c : Char) : Bool :=
  if unicode then wordTable.contains c.toNat else c.isAlphanum || c == '_'

/-- Whether the text before and after a place ends and starts with a word character; none where it is
    no text. -/
def wordSides (unicode : Bool) (before after : List UInt8) : Option Bool × Option Bool :=
  if unicode then
    (if before.isEmpty then some false else (lastChar? before).map (isWordChar true),
      if after.isEmpty then some false else (nextChar? after).map fun p => isWordChar true p.1)
  else
    let side (bytes : List UInt8) := some ((bytes.head?.map fun b =>
      isWordChar false (Char.ofNat b.toNat)).getD false)
    (side before, side after)

/-- Whether a word boundary is at a place. Next to what is no text there is none of the kinds that
    demand that no word character stands there. -/
def isBoundary (kind : Anchor) (sides : Option Bool × Option Bool) : Bool :=
  let left := sides.1.getD false
  let right := sides.2.getD false
  match kind with
  | .wordBoundary => left != right
  | .wordStart => !left && right
  | .wordEnd => left && !right
  | .wordStartHalf => sides.1 == some false
  | .wordEndHalf => sides.2 == some false
  | .notWordBoundary => sides.1.isSome && sides.2.isSome && left == right
  | _ => false

/-- Whether a look holds between the bytes before a place, in reverse, and those after it. -/
def Look.holds (l : Look) (before after : List UInt8) : Bool :=
  match l with
  | .textStart => before.isEmpty
  | .textEnd => after.isEmpty
  | .lineStart => before.isEmpty || before.head? == some 10
  | .lineEnd => after.isEmpty || after.head? == some 10
  | .crlfStart => before.isEmpty || before.head? == some 10
      || (before.head? == some 13 && after.head? != some 10)
  | .crlfEnd => after.isEmpty || after.head? == some 13
      || (after.head? == some 10 && before.head? != some 13)
  | .word kind unicode => isBoundary kind (wordSides unicode before after)

/-- Where the groups of a match start and end. -/
abbrev Slots := Array (Option Nat)

/-- A thread: the step it is at, how many bytes of a character it still has to pass before that, and
    its groups. -/
structure Thread where
  step : Nat
  wait : Nat
  slots : Slots

/-- Follows threads to the steps that take bytes or end the match. `seen` marks the steps followed at
    this place, which later threads need not follow again. -/
def follow (prog : Program) (before after : List UInt8) (pos : Nat) :
    Nat → List (Nat × Slots) → Array Bool → Array Thread → Array Bool × Array Thread
  | 0, _, seen, found => (seen, found)
  | _ + 1, [], seen, found => (seen, found)
  | fuel + 1, (step, slots) :: stack, seen, found =>
    if seen.getD step true then follow prog before after pos fuel stack seen found
    else
      let seen := seen.setIfInBounds step true
      match prog[step]? with
      | some (.look l next) =>
        let stack := if l.holds before after then (next, slots) :: stack else stack
        follow prog before after pos fuel stack seen found
      | some (.save slot next) =>
        follow prog before after pos fuel ((next, slots.setIfInBounds slot (some pos)) :: stack) seen
          found
      | some (.split preferred other) =>
        follow prog before after pos fuel ((preferred, slots) :: (other, slots) :: stack) seen found
      | _ => follow prog before after pos fuel stack seen (found.push ⟨step, 0, slots⟩)

/-- Follows the threads that have passed their characters; the others wait. -/
def followAll (prog : Program) (before after : List UInt8) (pos : Nat) :
    List Thread → Array Bool → Array Thread → Array Thread
  | [], _, found => found
  | t :: rest, seen, found =>
    if t.wait > 0 then followAll prog before after pos rest seen (found.push t)
    else
      let (seen, found) :=
        follow prog before after pos (2 * prog.size + 2) [(t.step, t.slots)] seen found
      followAll prog before after pos rest seen found

/-- Lets the threads take the next byte, in order. A thread that ends the match ends all threads after
    it. -/
def advance (prog : Program) (after : List UInt8) :
    List Thread → List Thread → Option Slots → List Thread × Option Slots
  | [], moved, best => (moved.reverse, best)
  | t :: rest, moved, best =>
    if t.wait > 0 then advance prog after rest (⟨t.step, t.wait - 1, t.slots⟩ :: moved) best
    else
      match prog[t.step]? with
      | some (.byte set next) =>
        match after with
        | b :: _ =>
          advance prog after rest
            (if set.contains b.toNat then ⟨next, 0, t.slots⟩ :: moved else moved) best
        | [] => advance prog after rest moved best
      | some (.char set next) =>
        match nextChar? after with
        | some (c, extra) =>
          advance prog after rest
            (if set.contains c.toNat then ⟨next, extra, t.slots⟩ :: moved else moved) best
        | none => advance prog after rest moved best
      | some .matched => (moved.reverse, some t.slots)
      | _ => advance prog after rest moved best

/-- Runs a program from a place on. All threads go over the bytes together. A new thread starts at each
    place, after all others, until a match is found, so that of the matches that start first the
    preferred one is found. -/
def run (prog : Program) (start : Nat) (noSlots : Slots) (pos : Nat) (before : List UInt8) :
    List UInt8 → List Thread → Option Slots → Option Slots
  | after, threads, best =>
    let pending := if best.isNone then threads ++ [⟨start, 0, noSlots⟩] else threads
    if pending.isEmpty then best
    else
      let found := followAll prog before after pos pending (Array.replicate prog.size false) #[]
      let (moved, best) := advance prog after found.toList [] best
      match after with
      | [] => best
      | b :: rest => run prog start noSlots (pos + 1) (b :: before) rest moved best

/-- Why a text is no pattern. -/
inductive Issue where
  | malformed
  | tooLarge
  deriving DecidableEq, Repr

/-- The text of an issue. -/
def Issue.message : Issue → String
  | .malformed => "regex parse error:"
  | .tooLarge => s!"Compiled regex exceeds size limit of {Program.maxSpace} bytes."

end VulnProbe.Regex

namespace VulnProbe

/-- A pattern that can be searched for. -/
structure Regex where
  program : Regex.Program
  start : Nat
  groups : List (Nat × Option String)

namespace Regex

/-- A pattern from its text. -/
def compile (pattern : String) : Except Issue Regex :=
  match (Parser.parse? pattern).bind (Pattern.ofAst? Flags.initial) with
  | none => .error .malformed
  | some (p, _) =>
    if Program.space p > Program.maxSpace then .error .tooLarge
    else
      let (start, program) := Program.emit p (Program.add #[] .matched)
      .ok ⟨program, start, p.groups⟩

/-- The groups of the leftmost match, as places in the byte string; none without a match. -/
def find? (r : Regex) (body : List UInt8) : Option Slots :=
  let count := r.groups.foldl (fun n g => max n (g.1 + 1)) 1
  run r.program r.start (Array.replicate (2 * count) none) 0 [] body [] none

/-- Whether the pattern matches somewhere. -/
def isMatch (r : Regex) (body : List UInt8) : Bool :=
  (find? r body).isSome

/-- The bytes of a group of a match; none if the group took no part in it. -/
def groupBytes? (slots : Slots) (index : Nat) (body : List UInt8) : Option (List UInt8) :=
  match slots.getD (2 * index) none, slots.getD (2 * index + 1) none with
  | some a, some b => some ((body.drop a).take (b - a))
  | _, _ => none

/-- The named groups of the leftmost match, each with its bytes if it took part; none without a match. -/
def captures? (r : Regex) (body : List UInt8) : Option (List (String × Option (List UInt8))) :=
  (find? r body).map fun slots => r.groups.filterMap fun (index, name) =>
    name.map (·, groupBytes? slots index body)

end Regex

end VulnProbe
