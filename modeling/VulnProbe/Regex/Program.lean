import VulnProbe.Regex.Pattern

namespace VulnProbe.Regex

open VulnProbe.Text

/-- A step of a program; the numbers are places of the program. The machine follows all threads at once
    and prefers the one that comes first, so the first branch of a choice and the longer way of a greedy
    repetition come first. -/
inductive Instr where
  | byte (set : RunSet) (next : Nat)
  | char (set : RunSet) (next : Nat)
  | look (l : Look) (next : Nat)
  | save (slot next : Nat)
  | split (preferred other : Nat)
  | matched

/-- A program under construction, in the order in which its steps get their places. -/
abbrev Program := Array Instr

namespace Program

/-- Adds a step and tells its place. -/
def add (prog : Program) (i : Instr) : Nat × Program :=
  (prog.size, prog.push i)

/-- A choice between going on inside a repetition and leaving it. -/
def loop (greedy : Bool) (inside outside : Nat) : Instr :=
  if greedy then .split inside outside else .split outside inside

/-- The step that takes one member of a set of characters. ASCII members are single bytes. -/
def takeChar (set : CharSet) (next : Nat) : Instr :=
  if set.all fun run => run.2 < 128 then .byte ⟨set.toArray⟩ next else .char ⟨set.toArray⟩ next

/-- Emits code so many times, each time before the code emitted last. -/
def times (emit : Nat × Program → Nat × Program) : Nat → Nat × Program → Nat × Program
  | 0, code => code
  | n + 1, code => times emit n (emit code)

/-- Emits code that may be left out, so many times nested. -/
def optional (emit : Nat × Program → Nat × Program) (greedy : Bool) (exit : Nat) :
    Nat → Nat × Program → Nat × Program
  | 0, code => code
  | n + 1, code =>
    let (entry, prog) := emit code
    optional emit greedy exit n (prog.add (loop greedy entry exit))

/-- Emits code that runs at least once and then as often as it can. -/
def oneOrMore (emit : Nat × Program → Nat × Program) (greedy : Bool) (next : Nat) (prog : Program) :
    Nat × Nat × Program :=
  let (again, prog) := prog.add .matched
  let (entry, prog) := emit (again, prog)
  (entry, again, prog.set! again (loop greedy entry next))

mutual
/-- Puts the code of a pattern before the code at a place, and tells where it starts. -/
def emit : Pattern → Nat × Program → Nat × Program
  | .empty, code => code
  | .byte set, (next, prog) => prog.add (.byte ⟨set.toArray⟩ next)
  | .char set, (next, prog) => prog.add (takeChar set next)
  | .look l, (next, prog) => prog.add (.look l next)
  | .capture index _ p, (next, prog) =>
    let (entry, prog) := emit p (prog.add (.save (2 * index + 1) next))
    prog.add (.save (2 * index) entry)
  | .concat items, code => emitAll items code
  | .alternate branches, (next, prog) => emitBranches branches next prog
  | .repetition p least (some most) greedy, (next, prog) =>
    times (emit p) least (optional (emit p) greedy next (most - least) (next, prog))
  | .repetition p 0 none greedy, (next, prog) =>
    let (entry, again, prog) := oneOrMore (emit p) greedy next prog
    if p.canBeEmpty then prog.add (loop greedy entry next) else (again, prog)
  | .repetition p (least + 1) none greedy, (next, prog) =>
    let (entry, _, prog) := oneOrMore (emit p) greedy next prog
    times (emit p) least (entry, prog)

/-- The code of patterns one after another. -/
def emitAll : List Pattern → Nat × Program → Nat × Program
  | [], code => code
  | p :: rest, code => emit p (emitAll rest code)

/-- The code of a choice. -/
def emitBranches : List Pattern → Nat → Program → Nat × Program
  | [], next, prog => (next, prog)
  | [p], next, prog => emit p (next, prog)
  | p :: rest, next, prog =>
    let (other, prog) := emitBranches rest next prog
    let (entry, prog) := emit p (next, prog)
    prog.add (.split entry other)
end

/-- The greatest space that a program may take. -/
def maxSpace : Nat := 10485760

/-- The space that one step takes. -/
def stepSpace : Nat := 32

/-- The space that the steps for one member of a set of characters take: one step for ASCII
    characters; others are spelt out byte by byte. -/
def charSpace (set : CharSet) : Nat :=
  if set.all fun run => run.2 < 128 then stepSpace + 8 * set.length
  else stepSpace + 60 * set.length

mutual
/-- The space that the program of a pattern takes. -/
def space : Pattern → Nat
  | .empty => stepSpace
  | .byte set => stepSpace + 8 * (set.length - 1)
  | .char set => charSpace set
  | .look _ => stepSpace
  | .capture _ _ p => space p + 2 * stepSpace
  | .repetition p least none _ => space p * max least 1 + 2 * stepSpace
  | .repetition p least (some most) _ =>
    space p * max least most + (most - least) * (stepSpace + 8) + stepSpace
  | .concat items => spaceAll items
  | .alternate branches => spaceAll branches + 2 * stepSpace

/-- The space that the programs of some patterns take. -/
def spaceAll : List Pattern → Nat
  | [] => 0
  | p :: rest => space p + spaceAll rest
end

end Program

end VulnProbe.Regex
