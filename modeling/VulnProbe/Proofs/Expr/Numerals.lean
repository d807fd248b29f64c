import Mathlib.Data.Nat.Digits.Defs
import VulnProbe.Expr.Apply
import VulnProbe.Proofs.Expr.Spelling.Integers

namespace VulnProbe.Expr

variable {cs : List Char} {s : String} {n : Nat} {i j : Int}

/-- One or more decimal digits. -/
def IsDigits (cs : List Char) : Prop :=
  cs ≠ [] ∧ ∀ c ∈ cs, c.isDigit = true

/-- The number that digits write: the sum of the digits, each times the power of ten of its place. -/
def placeValue (cs : List Char) : Nat :=
  Nat.ofDigits 10 (cs.reverse.map fun c => c.toNat - '0'.toNat)

/-- Digits that write an integer, with a sign before them or without one. -/
inductive Numeral : List Char → Int → Prop where
  | unsigned {digits : List Char} (hdigits : IsDigits digits) : Numeral digits (placeValue digits)
  | plus {digits : List Char} (hdigits : IsDigits digits) : Numeral ('+' :: digits) (placeValue digits)
  | minus {digits : List Char} (hdigits : IsDigits digits) : Numeral ('-' :: digits) (-placeValue digits)

private theorem foldl_eq_placeValue (cs : List Char) :
    cs.foldl (fun n c => n * 10 + (c.toNat - 48)) 0 = placeValue cs := by
  have hstep : (fun (n : Nat) (c : Char) => n * 10 + (c.toNat - 48)) =
      fun n c => c.toNat - '0'.toNat + 10 * n := by
    funext n c
    rw [Nat.add_comm, Nat.mul_comm]
    rfl
  rw [placeValue, Nat.ofDigits_eq_foldr, List.foldr_map, List.foldr_reverse, hstep]
  rfl

private theorem natOfDigits?_eq_some_iff : natOfDigits? cs = some n ↔ IsDigits cs ∧ placeValue cs = n := by
  simp [natOfDigits?, foldl_eq_placeValue, IsDigits, and_assoc]

private theorem natOfDigits?_toDigits (n : Nat) : natOfDigits? (Nat.toDigits 10 n) = some n := by
  have hdigits : ∀ d ∈ Nat.toDigits 10 n, d.isDigit = true := fun d => isDigit_of_mem_toDigits
  have hfold : decimalNumber (Nat.toDigits 10 n) = n := decimalNumber_toDigits n
  rw [natOfDigits?, if_neg (by simpa using hdigits)]
  exact congrArg some hfold

/-- The integer that a numeral writes, however many digits it has. -/
def numeral? (cs : List Char) : Option Int :=
  match cs with
  | '-' :: digits => (natOfDigits? digits).map fun n : Nat => -(n : Int)
  | '+' :: digits => (natOfDigits? digits).map fun n : Nat => (n : Int)
  | digits => (natOfDigits? digits).map fun n : Nat => (n : Int)

/-- An integer of 64 bits is read from a text if the text is a numeral of a number of that size. -/
theorem intOfText?_eq_filter (s : String) : intOfText? s = (numeral? s.toList).filter inRange := by
  have hcast (found : Option Nat) :
      (do let n ← found; pure (n : Int)) = found.map fun n : Nat => (n : Int) := by
    cases found <;> rfl
  simp only [intOfText?, hcast, Option.map_map]
  rfl

/-- A number is read exactly from its numerals. -/
theorem numeral?_eq_some_iff : numeral? cs = some i ↔ Numeral cs i := by
  constructor
  · intro hcs
    unfold numeral? at hcs
    split at hcs
    all_goals
      obtain ⟨n, hn, rfl⟩ := Option.map_eq_some_iff.mp hcs
      obtain ⟨hdigits, rfl⟩ := natOfDigits?_eq_some_iff.mp hn
    · exact .minus hdigits
    · exact .plus hdigits
    · exact .unsigned hdigits
  · intro hcs
    cases hcs with
    | minus hdigits => simp [numeral?, natOfDigits?_eq_some_iff.mpr ⟨hdigits, rfl⟩]
    | plus hdigits => simp [numeral?, natOfDigits?_eq_some_iff.mpr ⟨hdigits, rfl⟩]
    | unsigned hdigits =>
      -- no digit is a sign
      unfold numeral?
      split
      · exact absurd (hdigits.2 '-' List.mem_cons_self) (by decide)
      · exact absurd (hdigits.2 '+' List.mem_cons_self) (by decide)
      · rw [natOfDigits?_eq_some_iff.mpr ⟨hdigits, rfl⟩]
        rfl

/-- The text of an integer is a numeral of it. -/
theorem numeral_toString (i : Int) : Numeral (toString i).toList i := by
  obtain ⟨hdigits, hvalue⟩ := natOfDigits?_eq_some_iff.mp (natOfDigits?_toDigits i.natAbs)
  rw [toList_toString_int]
  split
  · have habs : -(i.natAbs : Int) = i := by omega
    have hminus := Numeral.minus hdigits
    rwa [hvalue, habs] at hminus
  · have habs : (i.natAbs : Int) = i := by omega
    have hunsigned := Numeral.unsigned hdigits
    rwa [hvalue, habs] at hunsigned

/-- A numeral writes one number only. -/
theorem Numeral.unique (hi : Numeral cs i) (hj : Numeral cs j) : i = j :=
  Option.some.inj ((numeral?_eq_some_iff.mpr hi).symm.trans (numeral?_eq_some_iff.mpr hj))

/-- A numeral holds no blank. -/
theorem Numeral.isBlank_eq_false (hcs : Numeral cs i) : ∀ c ∈ cs, Text.isBlank c = false := by
  have hdigit {digits : List Char} (hdigits : IsDigits digits) : ∀ c ∈ digits, Text.isBlank c = false :=
    fun c hc => isBlank_of_isAsciiTail (isAsciiTail_of_isDigit (hdigits.2 c hc))
  cases hcs with
  | unsigned hdigits => exact hdigit hdigits
  | plus hdigits => exact List.forall_mem_cons.mpr ⟨rfl, hdigit hdigits⟩
  | minus hdigits => exact List.forall_mem_cons.mpr ⟨rfl, hdigit hdigits⟩

end VulnProbe.Expr
