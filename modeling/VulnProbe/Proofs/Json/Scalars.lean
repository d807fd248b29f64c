import Mathlib.Tactic.SplitIfs
import VulnProbe.Json.Parser
import VulnProbe.Json.Printer
import VulnProbe.Proofs.Expr.Spelling.Integers
import VulnProbe.Proofs.Text.Stripped

namespace VulnProbe.Json

section Escapes

private theorem hexValue?_digitChar : ∀ n < 16, hexValue? n.digitChar = some n := by
  decide

private theorem hex4?_hex4 {n : Nat} (hn : n < 65536) (rest : List Char) :
    hex4? (hex4 n ++ rest) = some (n, rest) := by
  have hdigit (m : Nat) : hexValue? (m % 16).digitChar = some (m % 16) :=
    hexValue?_digitChar _ (Nat.mod_lt _ (by decide))
  have hvalue : ((n / 4096 % 16 * 16 + n / 256 % 16) * 16 + n / 16 % 16) * 16 + n % 16 = n := by
    omega
  simp [hex4, hex4?, hdigit, hvalue]

/-- A number below the surrogates is the number of a character. -/
theorem escape?_hex4 {n : Nat} (hn : n < 0xD800) (rest : List Char) :
    escape? ('u' :: (hex4 n ++ rest)) = some (Char.ofNat n, 5) := by
  have hhigh : ¬ (0xD800 ≤ n ∧ n ≤ 0xDBFF) := by omega
  have hlow : ¬ (0xDC00 ≤ n ∧ n ≤ 0xDFFF) := by omega
  simp [escape?, hex4?_hex4 (Nat.lt_trans hn (by decide)), hhigh, hlow]

end Escapes

section Characters

private theorem textAfter_quote (read rest : List Char) :
    textAfter read ('"' :: rest) = some (String.ofList read.reverse, rest) := by
  rw [textAfter]

private theorem textAfter_escape {c : Char} {rest : List Char} {n : Nat}
    (hescape : escape? rest = some (c, n))
    (read : List Char) : textAfter read ('\\' :: rest) = textAfter (c :: read) (rest.drop n) := by
  rw [textAfter]
  simp only [hescape]

private theorem textAfter_plain {c : Char} (hquote : c ≠ '"') (hslash : c ≠ '\\') (hcontrol : 32 ≤ c.toNat)
    (read rest : List Char) : textAfter read (c :: rest) = textAfter (c :: read) rest := by
  rw [textAfter]
  · rw [if_neg (Nat.not_lt.mpr hcontrol)]
  · exact hquote
  · exact hslash

/-- What stands for a character is read as that character. -/
theorem textAfter_escapedChar (c : Char) (read rest : List Char) :
    textAfter read (escapedChar c ++ rest) = textAfter (c :: read) rest := by
  have hletter {d : Char} (hescape : escape? (d :: rest) = some (c, 1)) :
      textAfter read ('\\' :: d :: rest) = textAfter (c :: read) rest := textAfter_escape hescape read
  have hnumber {n : Nat} (hn : (c.toNat == n) = true) : Char.ofNat n = c := by
    rw [← beq_iff_eq.mp hn, Char.ofNat_toNat]
  unfold escapedChar
  split_ifs with hquote hslash hback hfeed hline hreturn htab hcontrol
  · obtain rfl := beq_iff_eq.mp hquote
    exact hletter rfl
  · obtain rfl := beq_iff_eq.mp hslash
    exact hletter rfl
  · obtain rfl := hnumber hback
    exact hletter rfl
  · obtain rfl := hnumber hfeed
    exact hletter rfl
  · obtain rfl := beq_iff_eq.mp hline
    exact hletter rfl
  · obtain rfl := beq_iff_eq.mp hreturn
    exact hletter rfl
  · obtain rfl := beq_iff_eq.mp htab
    exact hletter rfl
  · have hescape := escape?_hex4 (n := c.toNat) (by omega) rest
    rw [Char.ofNat_toNat] at hescape
    exact textAfter_escape hescape read
  · exact textAfter_plain (by simpa using hquote) (by simpa using hslash) (Nat.not_lt.mp hcontrol) read rest

/-- The characters of a text are read back one after another. -/
theorem textAfter_flatMap (cs read rest : List Char) :
    textAfter read (cs.flatMap escapedChar ++ '"' :: rest) =
      some (String.ofList (read.reverse ++ cs), rest) := by
  induction cs generalizing read with
  | nil => rw [List.flatMap_nil, List.nil_append, textAfter_quote, List.append_nil]
  | cons c cs ih =>
    rw [List.flatMap_cons, List.append_assoc, textAfter_escapedChar, ih, List.reverse_cons,
      List.append_assoc]
    rfl

end Characters

/-- The text in quotes, as the reader takes it: the quotation mark first. -/
theorem toList_quote (s : String) :
    (quote s).toList = '"' :: (s.toList.flatMap escapedChar ++ ['"']) := by
  simp [quote]

/-- A text in quotes is read back, whatever stands behind it. -/
theorem textAfter_toList (s : String) (rest : List Char) :
    textAfter [] (s.toList.flatMap escapedChar ++ '"' :: rest) = some (s, rest) := by
  rw [textAfter_flatMap, List.reverse_nil, List.nil_append, String.ofList_toList]

section Digits

variable {n : Nat} {rest : List Char}

/-- Only zero has a zero in front. -/
theorem head?_toDigits_ne_zero (hn : n ≠ 0) : (Nat.toDigits 10 n).head? ≠ some '0' := by
  induction n using Nat.strongRecOn with
  | ind n ih =>
    rw [Nat.toDigits_eq_if (by decide)]
    split
    · rename_i hlt
      have hdigit : ∀ m < 10, m ≠ 0 → m.digitChar ≠ '0' := by decide
      simpa using hdigit n hlt hn
    · rename_i hge
      have hquotient := ih (n / 10) (Nat.div_lt_self (Nat.pos_of_ne_zero hn) (by decide)) (by omega)
      rwa [List.head?_append, Option.or_of_isSome (by simp)]

private theorem digitsValue_toDigits (n : Nat) : digitsValue (Nat.toDigits 10 n) = n :=
  Expr.decimalNumber_toDigits n

/-- What may stand behind an integer. -/
def EndsNumber (rest : List Char) : Prop :=
  ∀ c ∈ rest.head?, c.isDigit = false ∧ c ≠ '.' ∧ c ≠ 'e' ∧ c ≠ 'E'

/-- Nothing may stand behind an integer. -/
theorem endsNumber_nil : EndsNumber [] := by
  simp [EndsNumber]

/-- What may stand behind an integer is no exponent. -/
theorem EndsNumber.exponentOf (hrest : EndsNumber rest) : exponentOf rest = some (none, rest) := by
  cases rest with
  | nil => rfl
  | cons c rest =>
    obtain ⟨-, -, hsmall, hcapital⟩ := hrest c rfl
    simp [Json.exponentOf, hsmall, hcapital]

/-- The digits before what may stand behind an integer are all of its digits. -/
theorem EndsNumber.takeWhile (hrest : EndsNumber rest) (n : Nat) :
    (Nat.toDigits 10 n ++ rest).takeWhile Char.isDigit = Nat.toDigits 10 n := by
  have hnone : rest.takeWhile Char.isDigit = [] := by
    cases rest with
    | nil => rfl
    | cons c rest => rw [List.takeWhile_cons_of_neg (by simp [(hrest c rfl).1])]
  rw [List.takeWhile_append_of_pos fun d => Expr.isDigit_of_mem_toDigits, hnone, List.append_nil]

/-- Behind the digits of an integer, what stands behind it is left. -/
theorem EndsNumber.dropWhile (hrest : EndsNumber rest) (n : Nat) :
    (Nat.toDigits 10 n ++ rest).dropWhile Char.isDigit = rest := by
  rw [List.dropWhile_append_of_pos fun d => Expr.isDigit_of_mem_toDigits]
  exact Text.dropWhile_eq_self fun c hc => (hrest c hc).1

/-- The digits of a number are read as that number, with the sign that was read before them. -/
theorem numberAfter_toDigits (isNegative : Bool)
    (hfits : (if isNegative then decide (0 < n) && decide (n ≤ 9223372036854775808)
      else decide (n < countLimit)) = true)
    (hrest : EndsNumber rest) :
    numberAfter isNegative (Nat.toDigits 10 n ++ rest) =
      some (.int (if isNegative then -(n : Int) else n), rest) := by
  have hzero :
      (decide ((Nat.toDigits 10 n).length > 1) && (Nat.toDigits 10 n).head? == some '0') = false := by
    by_cases hn : n = 0
    · subst hn
      rfl
    · simp [head?_toDigits_ne_zero hn]
  have hfraction : ∀ r, rest ≠ '.' :: r := by
    rintro r rfl
    exact (hrest '.' rfl).2.1 rfl
  have hnonempty : (Nat.toDigits 10 n).isEmpty = false := by simp
  unfold numberAfter
  simp only [hrest.takeWhile, hrest.dropWhile, hnonempty, hzero, digitsValue_toDigits]
  simp [hrest.exponentOf, hfits]

end Digits

section Integers

/-- The integers of 64 bits, with or without a sign. -/
def IsMachineInteger (i : Int) : Prop :=
  -9223372036854775808 ≤ i ∧ i < countLimit

/-- A value that starts with a digit is a number. -/
theorem valueWith_of_isDigit {c : Char} (hc : c.isDigit = true) (item : Reader Json) (cs : List Char) :
    valueWith item (c :: cs) = numberAfter false (c :: cs) := by
  have hne {d : Char} (hd : d.isDigit = false) : c ≠ d := by
    rintro rfl
    rw [hc] at hd
    cases hd
  rw [valueWith]
  all_goals exact fun rest h => hne rfl (List.cons.inj h).1

/-- An integer of 64 bits is read back, whatever reads the values inside others. -/
theorem valueWith_int {i : Int} (hi : IsMachineInteger i) {rest : List Char} (hrest : EndsNumber rest)
    (item : Reader Json) : valueWith item ((toString i).toList ++ rest) = some (.int i, rest) := by
  rw [Expr.toList_toString_int]
  obtain ⟨hmin, hmax⟩ := hi
  by_cases hneg : i < 0
  · have habs : -(i.natAbs : Int) = i := by omega
    have hread := numberAfter_toDigits (n := i.natAbs) true (by simp; omega) hrest
    rw [if_pos rfl, habs] at hread
    rw [if_pos hneg]
    exact hread
  · have habs : (i.natAbs : Int) = i := by omega
    have hread := numberAfter_toDigits (n := i.natAbs) false (by simp; omega) hrest
    rw [if_neg (by decide), habs] at hread
    obtain ⟨c, ds, hdigits, hc⟩ := Expr.exists_toDigits_cons i.natAbs
    rw [if_neg hneg, ← hread, hdigits]
    exact valueWith_of_isDigit hc item _

end Integers

end VulnProbe.Json
