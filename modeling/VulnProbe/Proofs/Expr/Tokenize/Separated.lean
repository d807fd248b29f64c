import VulnProbe.Proofs.Expr.Escapes
import VulnProbe.Proofs.Expr.Positions
import VulnProbe.Proofs.Expr.Spelling.Names
import VulnProbe.Proofs.Expr.Tokenize.Shift

namespace VulnProbe.Expr

section Quoted

variable {α : Type} {content : Content α} {cs : List Char} (tail : List Char)

/-- An escape is read in the same way whatever follows the text. -/
theorem escape_append {pos extra : Nat} {letter : Char} {items : List α}
    (hescape : escape content pos letter cs = .ok (items, extra)) :
    escape content pos letter (cs ++ tail) = .ok (items, extra) := by
  have htake : (cs ++ tail).take extra = cs.take extra :=
    List.take_append_of_le_length (escape_fits hescape)
  rw [escape_eq_ok_iff] at hescape ⊢
  exact hescape.congr htake

/-- A literal is read up to its closing quote, whatever follows it. -/
theorem readQuoted_append {isRaw : Bool} {quote : Char} {start pos : Nat} {read : List α}
    {r : List α × Nat} (hread : readQuoted content isRaw quote start pos read cs = .ok r) :
    readQuoted content isRaw quote start pos read (cs ++ tail) = .ok r := by
  fun_induction readQuoted content isRaw quote start pos read cs with
  | case1 | case3 | case4 => cases hread
  | case2 pos read c rest hc =>
    rw [readQuoted.eq_def]
    simpa only [List.cons_append, if_pos hc] using hread
  | case5 pos read c hc hbackslash letter rest items extra hescape ih =>
    have hdrop : (rest ++ tail).drop extra = rest.drop extra ++ tail :=
      List.drop_append_of_le_length (escape_fits hescape)
    rw [readQuoted.eq_def]
    simp only [List.cons_append, if_neg hc, if_pos hbackslash, escape_append tail hescape, hdrop]
    exact ih hread
  | case6 pos read c rest hc hbackslash ih =>
    rw [readQuoted.eq_def]
    simp only [List.cons_append, if_neg hc, if_neg hbackslash]
    simpa using ih (by simpa using hread)

private theorem quotedToken_append {m : QuoteMark} {pos : Nat} {r : Token × Nat}
    (hquoted : quotedToken m pos cs = .ok r) : quotedToken m pos (cs ++ tail) = .ok r := by
  unfold quotedToken at hquoted ⊢
  split at hquoted
  · rename_i hbytes
    obtain ⟨_, hread, hpure⟩ := bind_eq_ok_iff.mp hquoted
    rw [if_pos hbytes, readQuoted_append tail hread]
    exact hpure
  · rename_i htext
    obtain ⟨_, hread, hpure⟩ := bind_eq_ok_iff.mp hquoted
    rw [if_neg htext, readQuoted_append tail hread]
    exact hpure

end Quoted

section Blank

variable {w : Char} (cs b : List Char)

/-- A blank is no part of a quoted literal's introduction, of a number, of a name or of a symbol. -/
theorem marks_of_isBlank (hw : Text.isBlank w = true) :
    isQuote w = false ∧ isRawMark w = false ∧ isBytesMark w = false ∧ isHexMark w = false := by
  simp only [isQuote, isRawMark, isBytesMark, isHexMark, Bool.or_eq_false_iff, beq_eq_false_iff_ne]
  refine ⟨⟨?_, ?_⟩, ⟨?_, ?_⟩, ⟨?_, ?_⟩, ?_, ?_⟩ <;> (rintro rfl; exact absurd hw (by decide))

private theorem isAsciiTail_of_isBlank (hw : Text.isBlank w = true) : isAsciiTail w = false := by
  refine Bool.eq_false_iff.mpr fun htail => ?_
  rw [isBlank_of_isAsciiTail htail] at hw
  cases hw

private theorem isDigit_of_isBlank (hw : Text.isBlank w = true) : w.isDigit = false := by
  refine Bool.eq_false_iff.mpr fun hdigit => ?_
  have htail := isAsciiTail_of_isDigit hdigit
  rw [isAsciiTail_of_isBlank hw] at htail
  cases htail

private theorem isNameTail_of_isBlank (hw : Text.isBlank w = true) : Text.isNameTail w = false := by
  have htail := isAsciiTail_of_isBlank hw
  simp only [isAsciiTail, Char.isAlphanum, Bool.or_eq_false_iff] at htail
  obtain ⟨⟨halpha, hdigit⟩, hunderscore⟩ := htail
  simp [Text.isNameTail, Text.isLetter, Text.isNumber, halpha, hdigit, hunderscore, hw]

private theorem isAsciiTail_of_isHexDigit {c : Char} (hc : IsHexDigit c) : isAsciiTail c = true := by
  unfold IsHexDigit at hc
  unfold isAsciiTail Char.isAlphanum Char.isAlpha Char.isUpper Char.isLower Char.isDigit
  simp only [Char.le_def] at hc
  grind

private theorem isSome_value?_of_isBlank (hw : Text.isBlank w = true) : (Hex.value? w).isSome = false := by
  refine Bool.eq_false_iff.mpr fun hsome => ?_
  have htail := isAsciiTail_of_isHexDigit (isSome_value?_iff.mp hsome)
  rw [isAsciiTail_of_isBlank hw] at htail
  cases htail

private theorem quoteMark?_append (hw : Text.isBlank w = true) :
    quoteMark? (cs ++ w :: b) = quoteMark? cs := by
  obtain ⟨hquote, hraw, hbytes, -⟩ := marks_of_isBlank hw
  rcases cs with _ | ⟨c, _ | ⟨d, _ | ⟨e, cs⟩⟩⟩ <;> simp [quoteMark?, hquote, hraw, hbytes]

private theorem takeWhile_append_blank {p : Char → Bool} (hp : p w = false) :
    (cs ++ w :: b).takeWhile p = cs.takeWhile p := by
  induction cs with
  | nil => simp [hp]
  | cons c cs ih => simp [List.takeWhile_cons, ih]

private theorem numberToken?_append (hw : Text.isBlank w = true) (c : Char) :
    numberToken? c (cs ++ w :: b) = numberToken? c cs := by
  have hdigits := takeWhile_append_blank cs b (isDigit_of_isBlank hw)
  cases cs with
  | nil => simp [numberToken?, (marks_of_isBlank hw).2.2.2, isDigit_of_isBlank hw]
  | cons x cs =>
    have hhex : (cs ++ w :: b).takeWhile (fun d => (Hex.value? d).isSome) =
        cs.takeWhile fun d => (Hex.value? d).isSome :=
      takeWhile_append_blank cs b (isSome_value?_of_isBlank hw)
    simp only [List.cons_append] at hdigits
    simp only [numberToken?, List.cons_append, hdigits, hhex]

private theorem symbolToken?_blank (hw : Text.isBlank w = true) (c : Char) :
    symbolToken? c (some w) = symbolToken? c none := by
  have hne : w ≠ '&' ∧ w ≠ '|' ∧ w ≠ '=' := by
    refine ⟨?_, ?_, ?_⟩ <;> (rintro rfl; exact absurd hw (by decide))
  simp [symbolToken?, hne]

/-- A token is the same where a blank and anything else follow the text. -/
theorem scanToken_append (hw : Text.isBlank w = true) {pos : Nat} {c : Char} {r : Token × Nat}
    (hscan : scanToken pos c cs = .ok r) : scanToken pos c (cs ++ w :: b) = .ok r := by
  have hmark : quoteMark? (c :: (cs ++ w :: b)) = quoteMark? (c :: cs) :=
    quoteMark?_append (c :: cs) b hw
  unfold scanToken at hscan ⊢
  rw [hmark]
  split at hscan
  · rename_i m hm
    obtain ⟨_, hquoted, hpure⟩ := bind_eq_ok_iff.mp hscan
    have hdrop : (cs ++ w :: b).drop m.width = cs.drop m.width ++ w :: b :=
      List.drop_append_of_le_length (QuoteMark.width_le_of_quoteMark? hm)
    simp only [hdrop, quotedToken_append (w :: b) hquoted]
    exact hpure
  rw [numberToken?_append cs b hw, takeWhile_append_blank cs b (isNameTail_of_isBlank hw)]
  have hsymbol : symbolToken? c (cs ++ w :: b).head? = symbolToken? c cs.head? := by
    cases cs with
    | nil => exact symbolToken?_blank hw c
    | cons d cs => rfl
  rw [hsymbol]
  exact hscan

/-- The tokens of a text are found in it where a blank and anything else follow, and the scan comes to
    the blank. -/
theorem tokensAfter_separated (hw : Text.isBlank w = true) {found ts : List Located} {pos : Nat}
    (hts : tokensAfter found pos cs = .ok ts) :
    ∃ us : List Located, ts = us ++ [⟨.endOfInput, pos + cs.length⟩] ∧
      tokensAfter found pos (cs ++ w :: b) = tokensAfter us.reverse (pos + cs.length) (w :: b) := by
  fun_induction tokensAfter found pos cs with
  | case1 found pos =>
    cases hts
    exact ⟨found.reverse, List.reverse_cons, by rw [List.reverse_reverse]; rfl⟩
  | case2 found pos c rest hblank ih =>
    obtain ⟨us, hus, hrest⟩ := ih hts
    rw [List.length_cons, ← Nat.add_assoc, Nat.add_right_comm, List.cons_append,
      tokensAfter_blank _ _ _ hblank]
    exact ⟨us, hus, hrest⟩
  | case3 => cases hts
  | case4 found pos c rest hblank token extra hscan ih =>
    have hextra := scanToken_fits hscan
    have hdrop : (rest ++ w :: b).drop extra = rest.drop extra ++ w :: b :=
      List.drop_append_of_le_length hextra
    have hlength : pos + 1 + extra + (rest.drop extra).length = pos + (c :: rest).length := by
      rw [List.length_drop, List.length_cons]
      omega
    obtain ⟨us, hus, hrest⟩ := ih hts
    rw [hlength] at hus hrest
    rw [List.cons_append, tokensAfter_scan _ _ _ (Bool.eq_false_iff.mpr hblank)
      (scanToken_append rest b hw hscan), hdrop]
    exact ⟨us, hus, hrest⟩

end Blank

/-- A text that can be cut into tokens, a blank and another text are cut into the tokens of the first
    text without the end of input, and then into those of the other text, its end of input included, as
    many characters further on as stand before it. A fault of the other text is found there as well. -/
theorem tokenize_separated (a b : String) (w : Char) (ts : List Located)
    (hw : Text.isBlank w = true) (hts : tokenize a = .ok ts) :
    ts = ts.dropLast ++ [⟨.endOfInput, a.length⟩] ∧
      (∀ us, tokenize b = .ok us →
        tokenize (a ++ String.singleton w ++ b) =
          .ok (ts.dropLast ++ us.map (Located.shift (a.length + 1)))) ∧
      ∀ err, tokenize b = .error err →
        ∃ pos issue, err = .syntaxError pos issue ∧
          tokenize (a ++ String.singleton w ++ b) = .error (.syntaxError (pos + (a.length + 1)) issue) := by
  obtain ⟨us, rfl, hseparated⟩ := tokensAfter_separated a.toList b.toList hw hts
  have hchars : (a ++ String.singleton w ++ b).toList = a.toList ++ w :: b.toList := by simp
  have htokens : tokenize (a ++ String.singleton w ++ b) =
      (shiftTokens (a.length + 1) (tokenize b)).map (us ++ ·) := by
    have hshift := tokensAfter_shift (a.length + 1) [] 0 b.toList
    have happend := tokensAfter_append [] us.reverse (a.length + 1) b.toList
    rw [List.map_nil, Nat.zero_add] at hshift
    rw [List.nil_append, List.reverse_reverse, hshift] at happend
    rw [tokenize, hchars, hseparated, tokensAfter_blank _ _ _ hw, Nat.zero_add, String.length_toList]
    exact happend
  rw [List.dropLast_concat]
  refine ⟨by rw [Nat.zero_add, String.length_toList], fun vs hvs => ?_, fun err herr => ?_⟩
  · rw [htokens, hvs]
    rfl
  · obtain ⟨_, htokenize, pos, issue, rfl⟩ | ⟨_, _, hok, -⟩ := tokenize_cases b
    · obtain rfl : err = .syntaxError pos issue := by simpa [htokenize] using herr.symm
      refine ⟨pos, issue, rfl, ?_⟩
      rw [htokens, herr]
      rfl
    · cases herr.symm.trans hok

/-- A text that ends in letters that could mark a literal, before a literal; and one that ends in a zero and
    could become a comparison, before a fault. -/
theorem tokenize_separated_sample :
    let marks := "'r b' rb"
    let signs := "x<0"
    tokenize marks = .ok [⟨.str "r b", 0⟩, ⟨.ident "rb", 6⟩, ⟨.endOfInput, 8⟩] ∧
      tokenize (marks ++ String.singleton '\t' ++ "\"x\"") =
        .ok [⟨.str "r b", 0⟩, ⟨.ident "rb", 6⟩, ⟨.str "x", 9⟩, ⟨.endOfInput, 12⟩] ∧
      tokenize signs = .ok [⟨.ident "x", 0⟩, ⟨.lt, 1⟩, ⟨.int 0, 2⟩, ⟨.endOfInput, 3⟩] ∧
      tokenize (signs ++ String.singleton ' ' ++ "x1 '\\x4") = .error (.syntaxError 10 (.badEscape 'x')) := by
  intro marks signs
  have hmarks : tokenize marks = .ok [⟨.str "r b", 0⟩, ⟨.ident "rb", 6⟩, ⟨.endOfInput, 8⟩] := by
    with_unfolding_all decide
  have hsigns : tokenize signs = .ok [⟨.ident "x", 0⟩, ⟨.lt, 1⟩, ⟨.int 0, 2⟩, ⟨.endOfInput, 3⟩] := by
    with_unfolding_all decide
  have hliteral : tokenize "\"x\"" = .ok [⟨.str "x", 0⟩, ⟨.endOfInput, 3⟩] := by with_unfolding_all decide
  have hfault : tokenize "x1 '\\x4" = .error (.syntaxError 6 (.badEscape 'x')) := by
    with_unfolding_all decide
  obtain ⟨-, hafter, -⟩ := tokenize_separated marks "\"x\"" '\t' _ (by decide) hmarks
  obtain ⟨-, -, herror⟩ := tokenize_separated signs "x1 '\\x4" ' ' _ (by decide) hsigns
  obtain ⟨pos, issue, hissue, hseparated⟩ := herror _ hfault
  cases hissue
  have hafter := hafter _ hliteral
  have hmarksLength : marks.length = 8 := by decide
  have hsignsLength : signs.length = 3 := by decide
  rw [hmarksLength] at hafter
  rw [hsignsLength] at hseparated
  exact ⟨hmarks, hafter, hsigns, hseparated⟩

end VulnProbe.Expr
