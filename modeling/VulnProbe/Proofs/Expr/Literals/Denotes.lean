import VulnProbe.Proofs.Expr.Escapes
import VulnProbe.Proofs.Expr.Tokenize.Separated

namespace VulnProbe.Expr

section Denotes

variable {α : Type} {content : Content α} {quote : Char}

/-- The body of a literal that is not raw stands for some items: each character for itself, and each
    backslash with what follows it for an escape. -/
inductive Denotes (content : Content α) (quote : Char) : List Char → List α → Prop where
  | nil : Denotes content quote [] []
  | plain {c : Char} {cs : List Char} {items : List α} (hquote : c ≠ quote) (hbackslash : c ≠ '\\')
      (hcs : Denotes content quote cs items) : Denotes content quote (c :: cs) (content.char c ++ items)
  | escaped {letter : Char} {cs : List Char} {found items : List α} {extra : Nat}
      (hfound : StandsFor content letter cs found extra)
      (hcs : Denotes content quote (cs.drop extra) items) :
      Denotes content quote ('\\' :: letter :: cs) (found ++ items)

/-- A body is read as what it stands for, up to the quote after it. -/
theorem readQuoted_of_denotes (hquote : quote ≠ '\\') {body : List Char} {items : List α}
    (hbody : Denotes content quote body items) (start pos : Nat) (read : List α) (tail : List Char) :
    readQuoted content false quote start pos read (body ++ quote :: tail) =
      .ok (read.reverse ++ items, pos + body.length + 1) := by
  induction hbody generalizing pos read with
  | nil =>
    rw [List.nil_append, readQuoted_quote, List.append_nil]
    rfl
  | plain hc hbackslash _ ih =>
    rw [List.cons_append, readQuoted_plain content start pos read _ ⟨hbackslash, hc⟩, ih]
    refine congrArg Except.ok (Prod.ext ?_ ?_)
    · simp
    · simp only [List.length_cons]
      omega
  | @escaped letter cs found items extra hfound _ ih =>
    have hescape := (escape_eq_ok_iff content (pos + 2)).mpr hfound
    have hextra := escape_fits hescape
    have hdrop : (cs ++ quote :: tail).drop extra = cs.drop extra ++ quote :: tail :=
      List.drop_append_of_le_length hextra
    rw [List.cons_append, List.cons_append,
      readQuoted_backslash content start pos read _ hquote (escape_append _ hescape), hdrop, ih]
    refine congrArg Except.ok (Prod.ext ?_ ?_)
    · simp
    · simp only [List.length_cons, List.length_drop]
      omega

/-- The digits of an escape, and the sign, are neither quotes nor backslashes. -/
theorem ne_of_isHexDigit (hquote : isQuote quote = true) {c : Char} (hc : IsHexDigit c ∨ c = '+') :
    c ≠ quote ∧ c ≠ '\\' := by
  have hnot : ¬ (IsHexDigit quote ∨ quote = '+') := by
    rcases Bool.or_eq_true_iff.mp hquote with h | h <;> (rw [eq_of_beq h]; decide)
  have hbackslash : ¬ (IsHexDigit '\\' ∨ '\\' = '+') := by decide
  exact ⟨fun h => hnot (h ▸ hc), fun h => hbackslash (h ▸ hc)⟩

/-- Characters that stand for themselves may stand before what is cut alike. -/
theorem LiteralBody.append_plain {before cs : List Char} (hcs : LiteralBody quote cs)
    (hbefore : ∀ c ∈ before, c ≠ quote ∧ c ≠ '\\') : LiteralBody quote (before ++ cs) := by
  induction before with
  | nil => exact hcs
  | cons c before ih =>
    obtain ⟨hc, hbefore⟩ := List.forall_mem_cons.mp hbefore
    exact .plain hc.1 hc.2 (ih hbefore)

/-- The reader comes to what the body before some quote stands for, and to nothing else. -/
theorem denotes_of_readQuoted {start pos next : Nat} {read found : List α} {cs : List Char}
    (hread : readQuoted content false quote start pos read cs = .ok (found, next)) :
    ∃ body items tail, cs = body ++ quote :: tail ∧ Denotes content quote body items ∧
      found = read.reverse ++ items ∧ next = pos + body.length + 1 := by
  fun_induction readQuoted content false quote start pos read cs with
  | case1 | case3 | case4 => cases hread
  | case2 pos read c rest hc =>
    cases hread
    exact ⟨[], [], rest, by rw [eq_of_beq hc]; rfl, .nil, (List.append_nil _).symm, rfl⟩
  | case5 pos read c hc hbackslash letter rest items extra hescape ih =>
    obtain rfl : c = '\\' := by simpa using hbackslash
    obtain ⟨body, rest', tail, hrest, hbody, rfl, rfl⟩ := ih hread
    have hextra := escape_fits hescape
    have hlength : (rest.take extra).length = extra := by rw [List.length_take]; omega
    have hcs : rest = rest.take extra ++ body ++ quote :: tail := by
      rw [List.append_assoc, ← hrest, List.take_append_drop]
    have htake : (rest.take extra ++ body).take extra = rest.take extra := by
      rw [List.take_append_of_le_length (by omega), List.take_of_length_le (by omega)]
    have hdrop : (rest.take extra ++ body).drop extra = body := by
      rw [List.drop_append_of_le_length (by omega), List.drop_of_length_le (by omega), List.nil_append]
    have hstands := ((escape_eq_ok_iff content _).mp hescape).congr htake
    refine ⟨'\\' :: letter :: (rest.take extra ++ body), items ++ rest', tail, ?_, ?_, ?_, ?_⟩
    · rw [List.cons_append, List.cons_append, ← hcs]
    · exact .escaped hstands (by rwa [hdrop])
    · simp
    · simp only [List.length_cons, List.length_append, hlength]
      omega
  | case6 pos read c rest hc hbackslash ih =>
    obtain ⟨body, items, tail, rfl, hbody, rfl, rfl⟩ := ih (by simpa using hread)
    refine ⟨c :: body, content.char c ++ items, tail, rfl, ?_, ?_, ?_⟩
    · exact .plain (by simpa using hc) (by simpa using hbackslash) hbody
    · simp
    · simp only [List.length_cons]
      omega

/-- The places that an escape takes are characters that stand for themselves. -/
theorem Denotes.literalBody (hquote : isQuote quote = true) {body : List Char} {items : List α}
    (hbody : Denotes content quote body items) : LiteralBody quote body := by
  induction hbody with
  | nil => exact .nil
  | plain hc hbackslash _ ih => exact .plain hc hbackslash ih
  | @escaped letter cs found items extra hfound _ ih =>
    have hescape := (escape_eq_ok_iff content 0).mpr hfound
    rw [← List.take_append_drop extra cs]
    exact .escaped (ih.append_plain fun _ hc =>
      ne_of_isHexDigit hquote (isHexDigit_of_mem_places hescape hc))

end Denotes

section Contents

variable {α β : Type} {content : Content α} {quote : Char}

/-- Whether a body stands for anything does not depend on what literals are made of. -/
theorem Denotes.exists_of {body : List Char} {items : List α} (hbody : Denotes content quote body items)
    (content' : Content β) : ∃ items', Denotes content' quote body items' := by
  induction hbody with
  | nil => exact ⟨[], .nil⟩
  | plain hc hbackslash _ ih =>
    obtain ⟨items', hcs⟩ := ih
    exact ⟨_, .plain hc hbackslash hcs⟩
  | escaped hfound _ ih =>
    obtain ⟨items', hcs⟩ := ih
    cases hfound with
    | plain hc => exact ⟨_, .escaped (.plain hc) hcs⟩
    | byte hletter hn => exact ⟨_, .escaped (.byte hletter hn) hcs⟩
    | scalar hletter hn hc => exact ⟨_, .escaped (.scalar hletter hn hc) hcs⟩
    | unknown hplain hbyte hscalar => exact ⟨_, .escaped (.unknown hplain hbyte hscalar) hcs⟩

end Contents

section Writing

variable {quote : Char}

/-- What stands for a character between quotes. -/
def escapedFor (quote c : Char) : List Char :=
  if c = '\\' ∨ c = quote then ['\\', c] else [c]

private theorem plainEscape?_of_special (hquote : isQuote quote = true) {c : Char}
    (hc : c = '\\' ∨ c = quote) :
    plainEscape? c = some c := by
  rcases hc with rfl | rfl
  · rfl
  · rcases Bool.or_eq_true_iff.mp hquote with h | h <;> (rw [eq_of_beq h]; rfl)

/-- Every text has a body between quotes of either kind that stands for it. -/
theorem denotes_escapedFor (hquote : isQuote quote = true) (cs : List Char) :
    Denotes .text quote (cs.flatMap (escapedFor quote)) cs := by
  induction cs with
  | nil => exact .nil
  | cons c cs ih =>
    rw [List.flatMap_cons, escapedFor]
    split
    · rename_i hc
      have hstands : StandsFor .text c (cs.flatMap (escapedFor quote)) [c] 0 :=
        .plain (plainEscape?_of_special hquote hc)
      exact .escaped hstands ih
    · rename_i hc
      have hplain : Denotes .text quote (c :: cs.flatMap (escapedFor quote)) (Content.text.char c ++ cs) :=
        .plain (not_or.mp hc).2 (not_or.mp hc).1 ih
      exact hplain

/-- An escape for each two digits. -/
def byteEscapes : List Char → List Char
  | high :: low :: digits => '\\' :: 'x' :: high :: low :: byteEscapes digits
  | _ => []

/-- Two digits in base 16 are read as the byte that they write. -/
theorem escapeNumber?_pair {high low : Char} {m n : Nat} (hhigh : Hex.value? high = some m)
    (hlow : Hex.value? low = some n) (rest : List Char) :
    escapeNumber? 2 (high :: low :: rest) = some (m * 16 + n) := by
  have hdigits : AreDigits 2 [high, low] := by
    refine ⟨rfl, ?_⟩
    simp [← isSome_value?_iff, hhigh, hlow]
  have hnumber := escapeNumber?_of_digits hdigits rest
  rw [List.cons_append, List.singleton_append] at hnumber
  rw [hnumber]
  simp [hexNumber?, hhigh, hlow]

/-- Every byte string has a body that stands for it, one escape for each byte. -/
theorem denotes_byteEscapes (quote : Char) {digits : List Char} {bs : List UInt8}
    (hdigits : Hex.decodeChars? digits = some bs) : Denotes .bytes quote (byteEscapes digits) bs := by
  fun_induction Hex.decodeChars? digits generalizing bs with
  | case1 =>
    cases hdigits
    exact .nil
  | case2 => cases hdigits
  | case3 high low rest ih =>
    obtain ⟨m, hm, hdigits⟩ := Option.bind_eq_some_iff.mp hdigits
    obtain ⟨n, hn, hdigits⟩ := Option.bind_eq_some_iff.mp hdigits
    obtain ⟨rest', hrest, hbs⟩ := Option.bind_eq_some_iff.mp hdigits
    cases hbs
    have hstands : StandsFor .bytes 'x' (high :: low :: byteEscapes rest) [UInt8.ofNat (m * 16 + n)] 2 :=
      .byte rfl (escapeNumber?_pair hm hn _)
    exact .escaped hstands (ih hrest)

end Writing

end VulnProbe.Expr
