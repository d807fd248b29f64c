import VulnProbe.Proofs.Expr.Spelling.Basic

namespace VulnProbe.Expr

variable {c : Char} {cs rest : List Char}

/-- The numbers of ASCII letters lie between those of `A` and `z`. -/
theorem toNat_of_isAlpha (hc : c.isAlpha = true) : 65 ≤ c.toNat ∧ c.toNat ≤ 122 := by
  rcases Bool.or_eq_true_iff.mp hc with hupper | hlower
  · have hbounds : (65 : UInt32) ≤ c.val ∧ c.val ≤ 90 := of_decide_eq_true hupper
    have hlow : 65 ≤ c.toNat := UInt32.le_iff_toNat_le.mp hbounds.1
    have hhigh : c.toNat ≤ 90 := UInt32.le_iff_toNat_le.mp hbounds.2
    omega
  · obtain ⟨hlow, hhigh⟩ := Bool.and_eq_true_iff.mp hlower
    have hlow : 97 ≤ c.toNat := UInt32.le_iff_toNat_le.mp (of_decide_eq_true hlow)
    have hhigh : c.toNat ≤ 122 := UInt32.le_iff_toNat_le.mp (of_decide_eq_true hhigh)
    omega

/-- The numbers of ASCII digits lie between those of `0` and `9`. -/
theorem toNat_of_isDigit (hc : c.isDigit = true) : 48 ≤ c.toNat ∧ c.toNat ≤ 57 := by
  obtain ⟨hlow, hhigh⟩ := Bool.and_eq_true_iff.mp hc
  exact ⟨UInt32.le_iff_toNat_le.mp (of_decide_eq_true hlow),
    UInt32.le_iff_toNat_le.mp (of_decide_eq_true hhigh)⟩

/-- A character that continues a name is no blank. -/
theorem isBlank_of_isAsciiTail (hc : isAsciiTail c = true) : Text.isBlank c = false := by
  have hbounds : 48 ≤ c.toNat ∧ c.toNat ≤ 122 := by
    rcases Bool.or_eq_true_iff.mp hc with hc | hc
    · rcases Bool.or_eq_true_iff.mp hc with hc | hc
      · have hbounds := toNat_of_isAlpha hc
        omega
      · have hbounds := toNat_of_isDigit hc
        omega
    · rw [beq_iff_eq.mp hc]
      decide
  simp only [Text.isBlank, Bool.or_eq_false_iff, Bool.and_eq_false_iff, decide_eq_false_iff_not,
    beq_eq_false_iff_ne]
  omega

private theorem isDigit_of_isAsciiHead (hc : isAsciiHead c = true) : c.isDigit = false := by
  rcases Bool.or_eq_true_iff.mp hc with hc | hc
  · have hbounds := toNat_of_isAlpha hc
    cases hdigit : c.isDigit with
    | false => rfl
    | true =>
      have hdigit := toNat_of_isDigit hdigit
      omega
  · rw [beq_iff_eq.mp hc]
    rfl

private theorem isNameHead_of_isAsciiHead (hc : isAsciiHead c = true) : Text.isNameHead c = true := by
  rcases Bool.or_eq_true_iff.mp hc with hc | hc
  · have hbounds := toNat_of_isAlpha hc
    rw [Text.isNameHead, Text.isLetter, if_pos (by omega), hc, Bool.true_or]
  · rw [Text.isNameHead, hc, Bool.or_true]

private theorem isNameTail_of_isAsciiTail (hc : isAsciiTail c = true) : Text.isNameTail c = true := by
  rcases Bool.or_eq_true_iff.mp hc with hc | hc
  · rcases Bool.or_eq_true_iff.mp hc with hc | hc
    · have hbounds := toNat_of_isAlpha hc
      rw [Text.isNameTail, Text.isLetter, if_pos (by omega), hc, Bool.true_or, Bool.true_or]
    · have hbounds := toNat_of_isDigit hc
      rw [Text.isNameTail, Text.isNumber, if_pos (by omega), hc, Bool.or_true, Bool.true_or]
  · rw [Text.isNameTail, hc, Bool.or_true]

private theorem isAsciiTail_of_isAsciiHead (hc : isAsciiHead c = true) : isAsciiTail c = true := by
  rcases Bool.or_eq_true_iff.mp hc with hc | hc
  · rw [isAsciiTail, Char.isAlphanum, hc, Bool.true_or, Bool.true_or]
  · rw [isAsciiTail, hc, Bool.or_true]

/-- A digit may continue a name. -/
theorem isAsciiTail_of_isDigit (hc : c.isDigit = true) : isAsciiTail c = true := by
  rw [isAsciiTail, Char.isAlphanum, hc, Bool.or_true, Bool.true_or]

/-- A character that continues a name is no quote. -/
theorem isQuote_of_isAsciiTail (hc : isAsciiTail c = true) : isQuote c = false := by
  rw [isQuote, Bool.or_eq_false_iff, beq_eq_false_iff_ne, beq_eq_false_iff_ne]
  constructor <;> (rintro rfl; exact absurd hc (by decide))

/-- A name has no quote after its first letters, so that they mark no quoted literal. -/
theorem quoteMark?_of_isAsciiName (hc : isAsciiHead c = true) (hcs : cs.all isAsciiTail = true)
    (hrest : Spaced rest) : quoteMark? (c :: cs ++ rest) = none := by
  have hquote := isQuote_of_isAsciiTail (isAsciiTail_of_isAsciiHead hc)
  have hspace : isQuote ' ' = false ∧ isRawMark ' ' = false ∧ isBytesMark ' ' = false := ⟨rfl, rfl, rfl⟩
  rcases cs with _ | ⟨d, _ | ⟨e, cs⟩⟩
  · rcases hrest with rfl | ⟨rest, rfl⟩ <;> simp [quoteMark?, hquote, hspace]
  · have hd := isQuote_of_isAsciiTail (by simpa using hcs)
    rcases hrest with rfl | ⟨rest, rfl⟩ <;> simp [quoteMark?, hquote, hspace, hd]
  · simp only [List.all_cons, Bool.and_eq_true] at hcs
    have hd := isQuote_of_isAsciiTail hcs.1
    have he := isQuote_of_isAsciiTail hcs.2.1
    simp [quoteMark?, hquote, hd, he]

/-- A name is read as that name. -/
theorem spells_ident {name : String} (hname : isAsciiName name = true) :
    Spells name.toList [.ident name] := by
  unfold isAsciiName at hname
  split at hname
  · cases hname
  rename_i c cs hchars
  obtain ⟨hc, hcs⟩ := Bool.and_eq_true_iff.mp hname
  have hofList : String.ofList (c :: cs) = name := by rw [← hchars, String.ofList_toList]
  have htail : ∀ d ∈ cs, Text.isNameTail d = true := fun d hd =>
    isNameTail_of_isAsciiTail (List.all_eq_true.mp hcs d hd)
  rw [hchars]
  have hblank := isBlank_of_isAsciiTail (isAsciiTail_of_isAsciiHead hc)
  refine spells_of_scan hblank fun pos rest hrest => ?_
  have hquote : quoteMark? (c :: (cs ++ rest)) = none := quoteMark?_of_isAsciiName hc hcs hrest
  have htakeWhile : (cs ++ rest).takeWhile Text.isNameTail = cs := takeWhile_of_spaced htail rfl hrest
  rw [scanToken, hquote]
  simp only [isDigit_of_isAsciiHead hc, isNameHead_of_isAsciiHead hc, htakeWhile, hofList,
    Bool.false_eq_true, ↓reduceIte]

end VulnProbe.Expr
