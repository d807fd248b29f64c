namespace VulnProbe.Regex

/-- Disjoint runs in increasing order, each with its first and last member. -/
abbrev CharSet := List (Nat × Nat)

namespace CharSet

/-- Puts a run that starts no earlier than those already joined, in reverse, after them. -/
def joinRun (joined : List (Nat × Nat)) (run : Nat × Nat) : List (Nat × Nat) :=
  match joined with
  | [] => [run]
  | (a, b) :: rest => if run.1 ≤ b + 1 then (a, max b run.2) :: rest else run :: (a, b) :: rest

/-- The set of the members of some runs, which may overlap and stand in any order. -/
def ofRuns (runs : List (Nat × Nat)) : CharSet :=
  ((runs.mergeSort fun a b => a.1 ≤ b.1).foldl joinRun []).reverse

/-- The members of either set. -/
def union (a b : CharSet) : CharSet :=
  ofRuns (a ++ b)

/-- The numbers from `start` to `top` that are in none of the runs. -/
def gapsFrom (top : Nat) (start : Nat) : CharSet → CharSet
  | [] => if start ≤ top then [(start, top)] else []
  | (a, b) :: rest =>
    if start < a then (start, a - 1) :: gapsFrom top (b + 1) rest else gapsFrom top (b + 1) rest

/-- The numbers up to `top` that are no members. -/
def complement (top : Nat) (s : CharSet) : CharSet :=
  gapsFrom top 0 s

/-- The members of both sets of numbers up to `top`. -/
def inter (top : Nat) (a b : CharSet) : CharSet :=
  complement top (union (complement top a) (complement top b))

/-- The members of the first set alone. -/
def diff (top : Nat) (a b : CharSet) : CharSet :=
  inter top a (complement top b)

/-- The members of exactly one of the sets. -/
def symmDiff (top : Nat) (a b : CharSet) : CharSet :=
  diff top (union a b) (inter top a b)

end CharSet

/-- The greatest scalar value. -/
def maxScalar : Nat := 0x10FFFF

/-- The greatest byte. -/
def maxByte : Nat := 0xFF

end VulnProbe.Regex
