import VulnProbe.Proofs.Expr.Tokenize

namespace VulnProbe

/-- The same token, so many characters further on. -/
def Located.shift (k : Nat) (t : Located) : Located :=
  { t with pos := t.pos + k }

/-- The same error, with a position in a text so many characters further on. -/
def ExprError.shift (k : Nat) : ExprError → ExprError
  | .syntaxError pos issue => .syntaxError (pos + k) issue
  | err => err

namespace Expr

/-- What a reader comes to, with the position after what it has read, or that of a fault, so many
    characters further on. -/
def shiftRead {α : Type} (k : Nat) (r : Except ExprError (α × Nat)) : Except ExprError (α × Nat) :=
  (r.map fun read => (read.1, read.2 + k)).mapError (ExprError.shift k)

section Read

variable {α : Type} (content : Content α) (k : Nat)

private theorem escape_shift (pos : Nat) (letter : Char) (cs : List Char) :
    escape content (pos + k) letter cs = (escape content pos letter cs).mapError (ExprError.shift k) := by
  unfold escape
  split
  · rfl
  split
  · split <;> rfl
  split
  · split <;> rfl
  · rfl

private theorem readQuoted_shift (isRaw : Bool) (quote : Char) (start pos : Nat) (read : List α)
    (cs : List Char) :
    readQuoted content isRaw quote (start + k) (pos + k) read cs =
      shiftRead k (readQuoted content isRaw quote start pos read cs) := by
  fun_induction readQuoted content isRaw quote start pos read cs with
  | case1 =>
    rw [readQuoted.eq_def]
    rfl
  | case2 pos read c rest hc =>
    rw [readQuoted.eq_def]
    simp only [if_pos hc]
    exact congrArg (fun next => Except.ok (read.reverse, next)) (Nat.add_right_comm pos k 1)
  | case3 pos read c hc hbackslash =>
    rw [readQuoted.eq_def]
    simp only [if_neg hc, if_pos hbackslash]
    rfl
  | case4 pos read c hc hbackslash letter rest err hescape =>
    have hshift := escape_shift content k (pos + 2) letter rest
    rw [hescape, Nat.add_right_comm] at hshift
    rw [readQuoted.eq_def]
    simp only [if_neg hc, if_pos hbackslash, hshift]
    rfl
  | case5 pos read c hc hbackslash letter rest items extra hescape ih =>
    have hshift := escape_shift content k (pos + 2) letter rest
    rw [hescape, Nat.add_right_comm] at hshift
    have hnext : pos + k + 2 + extra = pos + 2 + extra + k := by omega
    rw [readQuoted.eq_def]
    simp only [if_neg hc, if_pos hbackslash, hshift]
    rw [← ih, ← hnext]
    rfl
  | case6 pos read c rest hc hbackslash ih =>
    rw [readQuoted.eq_def]
    simp only [if_neg hc, if_neg hbackslash, Nat.add_right_comm pos k 1]
    simpa using ih

end Read

section Scan

variable (k pos : Nat) (c : Char) (rest : List Char)

private theorem quotedToken_shift (m : QuoteMark) :
    quotedToken m (pos + k) rest = shiftRead k (quotedToken m pos rest) := by
  have hbytes := readQuoted_shift .bytes k m.isRaw m.quote (pos + m.width) (pos + m.width + 1) [] rest
  have htext := readQuoted_shift .text k m.isRaw m.quote (pos + m.width) (pos + m.width + 1) [] rest
  simp only [quotedToken, Nat.add_right_comm pos k, Nat.add_right_comm (pos + m.width) k]
  split
  · rw [hbytes]
    cases readQuoted .bytes m.isRaw m.quote (pos + m.width) (pos + m.width + 1) [] rest <;> rfl
  · rw [htext]
    cases readQuoted .text m.isRaw m.quote (pos + m.width) (pos + m.width + 1) [] rest <;> rfl

/-- The number of characters that a token takes does not depend on where it stands. -/
theorem scanToken_shift :
    scanToken (pos + k) c rest = (scanToken pos c rest).mapError (ExprError.shift k) := by
  unfold scanToken
  split
  · rename_i m hm
    rw [quotedToken_shift]
    cases quotedToken m pos (rest.drop m.width) with
    | error err => rfl
    | ok read =>
      have hextra : read.2 + k - (pos + k) - 1 = read.2 - pos - 1 := by omega
      exact congrArg (fun extra => Except.ok (read.1, extra)) hextra
  split
  · split <;> rfl
  split
  · rfl
  split <;> rfl

end Scan

/-- The tokens, or the fault, so many characters further on. -/
def shiftTokens (k : Nat) (r : Except ExprError (List Located)) : Except ExprError (List Located) :=
  (r.map (List.map (Located.shift k))).mapError (ExprError.shift k)

/-- The tokens found before do not bear on those found after them. -/
theorem tokensAfter_append (found earlier : List Located) (pos : Nat) (cs : List Char) :
    tokensAfter (found ++ earlier) pos cs = (tokensAfter found pos cs).map (earlier.reverse ++ ·) := by
  fun_induction tokensAfter found pos cs with
  | case1 found pos =>
    have htokens : (⟨.endOfInput, pos⟩ :: (found ++ earlier)).reverse =
        earlier.reverse ++ (⟨.endOfInput, pos⟩ :: found).reverse := by
      simp
    rw [tokensAfter_nil, htokens]
    rfl
  | case2 found pos c rest hblank ih => rw [tokensAfter_blank _ _ _ hblank, ih]
  | case3 found pos c rest hblank err hscan =>
    rw [tokensAfter_fault _ _ _ (Bool.eq_false_iff.mpr hblank) hscan]
    rfl
  | case4 found pos c rest hblank token extra hscan ih =>
    rw [tokensAfter_scan _ _ _ (Bool.eq_false_iff.mpr hblank) hscan, ← ih, List.cons_append]

/-- Reading that starts further on comes to the same tokens or the same fault, as much further on. -/
theorem tokensAfter_shift (k : Nat) (found : List Located) (pos : Nat) (cs : List Char) :
    tokensAfter (found.map (Located.shift k)) (pos + k) cs = shiftTokens k (tokensAfter found pos cs) := by
  fun_induction tokensAfter found pos cs with
  | case1 found pos =>
    have htokens : (⟨.endOfInput, pos + k⟩ :: found.map (Located.shift k)).reverse =
        (⟨.endOfInput, pos⟩ :: found).reverse.map (Located.shift k) := by
      simp [Located.shift]
    rw [tokensAfter_nil, htokens]
    rfl
  | case2 found pos c rest hblank ih =>
    rw [tokensAfter_blank _ _ _ hblank, Nat.add_right_comm]
    exact ih
  | case3 found pos c rest hblank err hscan =>
    have hshift := scanToken_shift k pos c rest
    rw [hscan] at hshift
    rw [tokensAfter_fault _ _ _ (Bool.eq_false_iff.mpr hblank) hshift]
    rfl
  | case4 found pos c rest hblank token extra hscan ih =>
    have hshift := scanToken_shift k pos c rest
    rw [hscan] at hshift
    have hnext : pos + k + 1 + extra = pos + 1 + extra + k := by omega
    rw [tokensAfter_scan _ _ _ (Bool.eq_false_iff.mpr hblank) hshift, hnext]
    exact ih

end Expr

end VulnProbe
