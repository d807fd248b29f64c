namespace VulnProbe.Text

/-- The numbers of a written table, given by its lines. Numbers are written in base 26 with the most
    significant digit first; the last digit is a small letter and the others are capitals, so a table
    needs no separators. A number may go on in the next line. -/
def tableNumbers (lines : List String) : List Nat :=
  let step (state : Nat × List Nat) (c : Char) : Nat × List Nat :=
    if c.isLower then (0, (state.1 * 26 + (c.toNat - 97)) :: state.2)
    else (state.1 * 26 + (c.toNat - 65), state.2)
  (lines.foldl (fun state line => line.toList.foldl step state) (0, [])).2.reverse

/-- Disjoint runs of numbers in increasing order, each with its first and last member and with the
    numbers that go with its members. -/
structure RunMap where
  runs : Array (Nat × Nat × List Nat)

namespace RunMap

/-- Reads runs after the number `start`; each is followed by how many numbers go with it, and these
    numbers. -/
def runsOf (start : Nat) : Nat → List Nat → List (Nat × Nat × List Nat)
  | fuel + 1, gap :: length :: count :: rest =>
    (start + gap, start + gap + length, rest.take count)
      :: runsOf (start + gap + length + 1) fuel (rest.drop count)
  | _, _ => []

/-- The map that a table writes. -/
def ofTable (lines : List String) : RunMap :=
  let numbers := tableNumbers lines
  ⟨(runsOf 0 numbers.length numbers).toArray⟩

/-- Searches the runs with indices from `lo` up to `hi`, halving them at most `steps` times. -/
def search (runs : Array (Nat × Nat × List Nat)) (n : Nat) : Nat → Nat → Nat → Option (List Nat)
  | 0, _, _ => none
  | steps + 1, lo, hi =>
    if hi ≤ lo then none
    else
      let mid := (lo + hi) / 2
      match runs[mid]? with
      | none => none
      | some (a, b, values) =>
        if n < a then search runs n steps lo mid
        else if b < n then search runs n steps (mid + 1) hi
        else some values

/-- The numbers that go with a number, by halving; none outside the runs. -/
def find? (m : RunMap) (n : Nat) : Option (List Nat) :=
  search m.runs n (m.runs.size + 1) 0 m.runs.size

/-- The single number that goes with a number, or zero. -/
def value (m : RunMap) (n : Nat) : Nat :=
  ((m.find? n).bind List.head?).getD 0

end RunMap

/-- A difference of either sign from a base, told by one number: even ones count up, odd ones down. -/
def shifted (base code : Nat) : Nat :=
  if code % 2 == 0 then base + code / 2 else base - (code + 1) / 2

/-- Disjoint runs of numbers in increasing order, each with its first and last member. A run is written
    as the gap before it and its length less one. -/
structure RunSet where
  runs : Array (Nat × Nat)

namespace RunSet

/-- Reads gaps and lengths after the number `start`. -/
def runsOf (start : Nat) : List Nat → List (Nat × Nat)
  | gap :: length :: rest =>
    (start + gap, start + gap + length) :: runsOf (start + gap + length + 1) rest
  | _ => []

/-- The set that a table writes. -/
def ofTable (lines : List String) : RunSet :=
  ⟨(runsOf 0 (tableNumbers lines)).toArray⟩

/-- Searches the runs with indices from `lo` up to `hi`, halving them at most `steps` times. -/
def search (runs : Array (Nat × Nat)) (n : Nat) : Nat → Nat → Nat → Bool
  | 0, _, _ => false
  | steps + 1, lo, hi =>
    if hi ≤ lo then false
    else
      let mid := (lo + hi) / 2
      match runs[mid]? with
      | none => false
      | some (a, b) =>
        if n < a then search runs n steps lo mid
        else if b < n then search runs n steps (mid + 1) hi
        else true

/-- Membership, by halving. -/
def contains (s : RunSet) (n : Nat) : Bool :=
  search s.runs n (s.runs.size + 1) 0 s.runs.size

end RunSet

end VulnProbe.Text
