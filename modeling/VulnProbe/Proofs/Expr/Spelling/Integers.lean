import VulnProbe.Proofs.Expr.Spelling.Names

namespace VulnProbe.Expr

/-- The digits of a number are digits. -/
theorem isDigit_of_mem_toDigits {n : Nat} {d : Char} (hd : d ∈ Nat.toDigits 10 n) : d.isDigit = true :=
  Nat.isDigit_of_mem_toDigits (by decide) (by decide) hd

/-- A number has at least one digit. -/
theorem exists_toDigits_cons (n : Nat) : ∃ d ds, Nat.toDigits 10 n = d :: ds ∧ d.isDigit = true := by
  cases hdigits : Nat.toDigits 10 n with
  | nil => exact absurd hdigits Nat.toDigits_ne_nil
  | cons d ds => exact ⟨d, ds, rfl, isDigit_of_mem_toDigits (hdigits ▸ List.mem_cons_self)⟩

/-- The digits of a number are read as the number. -/
theorem decimalNumber_toDigits (n : Nat) : decimalNumber (Nat.toDigits 10 n) = n := by
  have hfold : decimalNumber (Nat.toDigits 10 n) = Nat.ofDigitChars 10 (Nat.toDigits 10 n) 0 := by
    simp [decimalNumber, Nat.ofDigitChars_eq_foldl, Nat.mul_comm]
  rw [hfold, Nat.ofDigitChars_ten_toDigits]

private theorem quoteMark?_of_isDigit {c : Char} (hc : c.isDigit = true) (rest : List Char) :
    quoteMark? (c :: rest) = none := by
  have hquote : isQuote c = false := isQuote_of_isAsciiTail (isAsciiTail_of_isDigit hc)
  have hmarks : (isRawMark c || isBytesMark c) = false := by
    simp only [isRawMark, isBytesMark, Bool.or_eq_false_iff, beq_eq_false_iff_ne]
    refine ⟨⟨?_, ?_⟩, ?_, ?_⟩ <;> (rintro rfl; exact absurd hc (by decide))
  simp [quoteMark?, hquote, hmarks]

/-- A digit or a space marks no digits in base 16. -/
theorem isHexMark_of_isDigit {c : Char} (hc : c.isDigit = true) : isHexMark c = false := by
  simp only [isHexMark, Bool.or_eq_false_iff, beq_eq_false_iff_ne]
  constructor <;> (rintro rfl; exact absurd hc (by decide))

/-- The digits of a number are read as that number. -/
theorem numberToken?_of_digits {c : Char} {ds rest : List Char} (hds : ∀ d ∈ ds, d.isDigit = true)
    (hrest : Spaced rest) :
    numberToken? c (ds ++ rest) = (intToken? (decimalNumber (c :: ds)), ds.length) := by
  have htakeWhile : (ds ++ rest).takeWhile Char.isDigit = ds := takeWhile_of_spaced hds rfl hrest
  unfold numberToken?
  simp only [htakeWhile]
  split
  · rename_i x rest' hx
    have hmark : isHexMark x = false := by
      cases ds with
      | nil =>
        obtain rfl | ⟨cs, rfl⟩ := hrest
        · cases hx
        · obtain ⟨rfl, -⟩ := List.cons.inj hx
          rfl
      | cons d ds =>
        obtain ⟨rfl, -⟩ := List.cons.inj hx
        exact isHexMark_of_isDigit (hds d List.mem_cons_self)
    simp [hmark]
  · rfl

/-- The digits of an integer that is not below zero. -/
theorem spells_digits {n : Nat} (hn : (n : Int) ≤ maxInt) : Spells (Nat.toDigits 10 n) [.int n] := by
  have hdigits : ∀ d ∈ Nat.toDigits 10 n, d.isDigit = true := fun d => isDigit_of_mem_toDigits
  have hnumber := decimalNumber_toDigits n
  cases hchars : Nat.toDigits 10 n with
  | nil => exact absurd hchars Nat.toDigits_ne_nil
  | cons c ds =>
    rw [hchars] at hdigits hnumber
    have hc := hdigits c List.mem_cons_self
    refine spells_of_scan (isBlank_of_isAsciiTail (isAsciiTail_of_isDigit hc)) fun pos rest hrest => ?_
    have htoken := numberToken?_of_digits (c := c)
      (fun d hd => hdigits d (List.mem_cons_of_mem c hd)) hrest
    rw [hnumber, intToken?, if_pos hn] at htoken
    rw [scanToken, quoteMark?_of_isDigit hc]
    simp only [hc, ↓reduceIte, htoken]

/-- A text with a minus before it is read with a minus before it. -/
theorem spells_minus {text : List Char} {ts : List Token} (htext : Spells text ts) :
    Spells ('-' :: text) (.minus :: ts) := by
  intro found pos rest hrest
  have hminus : tokensAfter found pos ('-' :: [] ++ (text ++ rest)) =
      tokensAfter (⟨.minus, pos⟩ :: found) (pos + 1) (text ++ rest) := tokensAfter_of_scan rfl rfl
  obtain ⟨us, next, hus, htokens⟩ : ∃ (us : List Located) (next : Nat), us.map (·.token) = ts ∧
      tokensAfter (⟨.minus, pos⟩ :: found) (pos + 1) (text ++ rest) =
        tokensAfter (us.reverse ++ ⟨.minus, pos⟩ :: found) next rest := htext hrest
  refine ⟨⟨.minus, pos⟩ :: us, next, by rw [List.map_cons, hus], ?_⟩
  rw [List.reverse_cons, List.append_assoc]
  exact hminus.trans htokens

/-- The text of an integer is its digits, after a minus if it is below zero. -/
theorem toList_toString_int (i : Int) :
    (toString i).toList = if i < 0 then '-' :: Nat.toDigits 10 i.natAbs else Nat.toDigits 10 i.natAbs := by
  cases i with
  | ofNat n =>
    have hnonneg : ¬ Int.ofNat n < 0 := Int.not_lt.mpr (Int.natCast_nonneg n)
    rw [if_neg hnonneg]
    exact Nat.toList_repr
  | negSucc n =>
    rw [if_pos (Int.negSucc_lt_zero n)]
    change ("-" ++ Nat.repr (n + 1)).toList = '-' :: Nat.toDigits 10 (n + 1)
    rw [String.toList_append, Nat.toList_repr]
    rfl

/-- The text of an integer is cut into its digits, after a minus if it is below zero. The least integer
    has digits that are no token. -/
theorem spells_int {i : Int} (hmin : minInt < i) (hmax : i ≤ maxInt) :
    Spells (toString i).toList (Token.parts (.int i)) := by
  have hdigits (hbound : (i.natAbs : Int) ≤ maxInt) := spells_digits hbound
  rw [toList_toString_int, Token.parts]
  simp only [minInt, maxInt] at hmin hmax hdigits
  by_cases hneg : i < 0
  · have habs : (i.natAbs : Int) = -i := by omega
    rw [if_pos hneg, if_pos hneg, ← habs]
    exact spells_minus (hdigits (by omega))
  · have habs : (i.natAbs : Int) = i := by omega
    rw [habs] at hdigits
    rw [if_neg hneg, if_neg hneg]
    exact hdigits hmax

end VulnProbe.Expr
