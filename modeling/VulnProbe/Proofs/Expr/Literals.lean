import VulnProbe.Proofs.Expr.Literals.Denotes
import VulnProbe.Proofs.Text.Hex
import VulnProbe.Proofs.Text.Utf8

namespace VulnProbe.Expr

/-- The text of a literal: its marks, and its body between quotes. -/
def quotedText (marks : List Char) (quote : Char) (body : List Char) : String :=
  String.ofList (marks ++ quote :: (body ++ [quote]))

/-- A text is cut into one token that starts it, and the end of input. -/
def ReadsAs (source : String) (token : Token) : Prop :=
  tokenize source = .ok [⟨token, 0⟩, ⟨.endOfInput, source.length⟩]

section Marks

variable {marks body : List Char} {m : QuoteMark}

/-- Some marks are those of a literal before any body in its quotes. -/
structure MarksOf (marks : List Char) (m : QuoteMark) : Prop where
  found : ∀ cs, quoteMark? (marks ++ m.quote :: cs) = some m
  width : marks.length = m.width

private theorem marksOf {quote : Char} (hquote : isQuote quote = true) :
    MarksOf [] ⟨false, false, quote⟩ ∧ MarksOf ['r'] ⟨true, false, quote⟩ ∧
      MarksOf ['b'] ⟨false, true, quote⟩ ∧ MarksOf ['b', 'r'] ⟨true, true, quote⟩ := by
  rcases Bool.or_eq_true_iff.mp hquote with h | h
  all_goals
    obtain rfl := eq_of_beq h
    exact ⟨⟨fun _ => rfl, rfl⟩, ⟨fun _ => rfl, rfl⟩, ⟨fun _ => rfl, rfl⟩, ⟨fun _ => rfl, rfl⟩⟩

/-- The scan of a literal comes to what is between its quotes. -/
theorem MarksOf.exists_cons (hmarks : MarksOf marks m) (body : List Char) :
    ∃ c rest, (quotedText marks m.quote body).toList = c :: rest ∧ quoteMark? (c :: rest) = some m ∧
      rest.drop m.width = body ++ [m.quote] ∧ rest.length = m.width + body.length + 1 := by
  have hm := hmarks.found (body ++ [m.quote])
  have hdrop : (marks ++ m.quote :: (body ++ [m.quote])).drop (m.width + 1) = body ++ [m.quote] := by
    rw [← hmarks.width, ← List.drop_drop, List.drop_left]
    rfl
  have hlength : (marks ++ m.quote :: (body ++ [m.quote])).length = m.width + body.length + 2 := by
    rw [← hmarks.width]
    simp
    omega
  rw [quotedText, String.toList_ofList]
  cases hcs : marks ++ m.quote :: (body ++ [m.quote]) with
  | nil => simp at hcs
  | cons c rest =>
    rw [hcs] at hm hdrop hlength
    exact ⟨c, rest, rfl, hm, hdrop, by simpa using hlength⟩

private theorem MarksOf.readsAs (hmarks : MarksOf marks m) {token : Token}
    (hquoted : quotedToken m 0 (body ++ [m.quote]) = .ok (token, m.width + body.length + 2)) :
    ReadsAs (quotedText marks m.quote body) token := by
  obtain ⟨c, rest, hchars, hm, hdrop, hlength⟩ := hmarks.exists_cons body
  rw [← hdrop] at hquoted
  have hscan : scanToken 0 c rest = .ok (token, rest.length) := by
    rw [scanToken_quoted hm hquoted, hlength]
    exact congrArg (fun extra => Except.ok (token, extra)) (by omega)
  rw [ReadsAs, tokenize, ← String.length_toList, hchars,
    tokensAfter_scan _ _ _ (isBlank_of_quoteMark? hm) hscan, List.drop_length, tokensAfter_nil, Nat.zero_add,
    Nat.add_comm 1, List.length_cons]
  rfl

private theorem MarksOf.tokenize_error (hmarks : MarksOf marks m) {err : ExprError}
    (hquoted : quotedToken m 0 (body ++ [m.quote]) = .error err) :
    tokenize (quotedText marks m.quote body) = .error err := by
  obtain ⟨c, rest, hchars, hm, hdrop, -⟩ := hmarks.exists_cons body
  rw [← hdrop] at hquoted
  have hscan : scanToken 0 c rest = .error err := by
    simp only [scanToken, hm, hquoted]
    rfl
  have hblank : Text.isBlank c = false := isBlank_of_quoteMark? hm
  rw [tokenize, hchars, tokensAfter_fault _ _ _ hblank hscan]

end Marks

section Reading

variable {quote : Char} {body : List Char}

private theorem readsAs_str (hquote : isQuote quote = true) {cs : List Char}
    (hbody : Denotes .text quote body cs) :
    ReadsAs (quotedText [] quote body) (.str (String.ofList cs)) := by
  have hmarks := (marksOf hquote).1
  have hread := readQuoted_of_denotes (quote_ne_backslash (hmarks.found [])) hbody 0 1 [] []
  refine hmarks.readsAs (quotedToken_text rfl (hread.trans (congrArg Except.ok (Prod.ext rfl ?_))))
  simp only [QuoteMark.width, Bool.toNat_false]
  omega

private theorem readsAs_bytes (hquote : isQuote quote = true) {bs : List UInt8}
    (hbody : Denotes .bytes quote body bs) : ReadsAs (quotedText ['b'] quote body) (.bytes bs) := by
  have hmarks := (marksOf hquote).2.2.1
  have hread := readQuoted_of_denotes (quote_ne_backslash (hmarks.found [])) hbody 1 2 [] []
  refine hmarks.readsAs (quotedToken_bytes rfl (hread.trans (congrArg Except.ok (Prod.ext rfl ?_))))
  simp only [QuoteMark.width, Bool.toNat_false, Bool.toNat_true]
  omega

/-- The reader takes a raw literal as it stands. -/
theorem readQuoted_raw {α : Type} (content : Content α) (start pos : Nat) (read : List α) {cs : List Char}
    (hcs : quote ∉ cs) (tail : List Char) :
    readQuoted content true quote start pos read (cs ++ quote :: tail) =
      .ok (read.reverse ++ cs.flatMap content.char, pos + cs.length + 1) := by
  induction cs generalizing pos read with
  | nil =>
    rw [readQuoted.eq_def]
    simp
  | cons c cs ih =>
    obtain ⟨hc, hcs⟩ := not_or.mp fun h => hcs (List.mem_cons.mpr h)
    have hne : ¬ (c == quote) = true := by simpa using Ne.symm hc
    rw [List.cons_append, readQuoted.eq_def]
    simp only [if_neg hne, Bool.not_true, Bool.and_false, Bool.false_eq_true, if_false, ih _ _ hcs]
    refine congrArg Except.ok (Prod.ext ?_ ?_)
    · simp
    · simp only [List.length_cons]
      omega

private theorem readsAs_raw (hquote : isQuote quote = true) (hbody : quote ∉ body) :
    ReadsAs (quotedText ['r'] quote body) (.str (String.ofList body)) := by
  have hread := readQuoted_raw Content.text 1 2 [] hbody []
  have hchars : body.flatMap Content.text.char = body := List.flatMap_singleton' body
  rw [hchars] at hread
  refine (marksOf hquote).2.1.readsAs
    (quotedToken_text rfl (hread.trans (congrArg Except.ok (Prod.ext rfl ?_))))
  simp only [QuoteMark.width, Bool.toNat_false, Bool.toNat_true]
  omega

private theorem readsAs_rawBytes (hquote : isQuote quote = true) (hbody : quote ∉ body) :
    ReadsAs (quotedText ['b', 'r'] quote body) (.bytes (Utf8.encode body)) := by
  have hread := readQuoted_raw Content.bytes 2 3 [] hbody []
  refine (marksOf hquote).2.2.2.readsAs
    (quotedToken_bytes rfl (hread.trans (congrArg Except.ok (Prod.ext rfl ?_))))
  simp only [QuoteMark.width, Bool.toNat_true]
  omega

end Reading

section Agreement

variable {quote : Char} {body : List Char}

/-- No quote in a body stands by itself, so that the literal goes on to the quote after the body. -/
def HasNoLoneQuote (quote : Char) (body : List Char) : Prop :=
  ∀ before after, body = before ++ quote :: after → ¬ LiteralBody quote before

/-- The escapes of bytes in a body stand for bytes below 128. -/
def HasLowEscapes (quote : Char) (body : List Char) : Prop :=
  ∀ before after n, body = before ++ '\\' :: 'x' :: after → LiteralBody quote before →
    escapeNumber? 2 after = some n → n < 128

/-- What follows a beginning after which characters are read by themselves has no escapes but those of
    the whole. -/
theorem HasLowEscapes.of_append (before : List Char) (hlow : HasLowEscapes quote (before ++ body))
    (hbefore : ∀ cs, LiteralBody quote cs → LiteralBody quote (before ++ cs)) :
    HasLowEscapes quote body := by
  rintro cs after n rfl hcs hn
  exact hlow (before ++ cs) after n (List.append_assoc ..).symm (hbefore cs hcs) hn

/-- An escape stands for the same character in a text and in a byte string, but for bytes from 128 on. -/
theorem StandsFor.encode {letter : Char} {cs found : List Char} {extra : Nat}
    (hfound : StandsFor .text letter cs found extra)
    (hlow : letter = 'x' → ∀ n, escapeNumber? 2 cs = some n → n < 128) :
    StandsFor .bytes letter cs (Utf8.encode found) extra := by
  have hchar (c : Char) : Utf8.encode (Content.text.char c) = Content.bytes.char c :=
    List.append_nil _
  cases hfound with
  | plain hc =>
    rw [hchar]
    exact .plain hc
  | byte hletter hn =>
    have hbyte := Utf8.utf8EncodeChar_ofNat (hlow hletter _ hn)
    have hencode : Utf8.encode (Content.text.byte _) = Content.bytes.byte _ :=
      (List.append_nil _).trans hbyte
    rw [hencode]
    exact .byte hletter hn
  | scalar hletter hn hc =>
    rw [hchar]
    exact .scalar hletter hn hc
  | unknown hplain hbyte hscalar =>
    have hchars : Utf8.encode (Content.text.char '\\' ++ Content.text.char letter) =
        Content.bytes.char '\\' ++ Content.bytes.char letter := by
      rw [Utf8.encode, List.flatMap_append]
      exact congrArg₂ (· ++ ·) (hchar '\\') (hchar letter)
    rw [hchars]
    exact .unknown hplain hbyte hscalar

/-- A body of a text that has low escapes only stands in a byte string for the bytes of that text. -/
theorem Denotes.encode (hquote : isQuote quote = true) {cs : List Char}
    (hbody : Denotes .text quote body cs) (hlow : HasLowEscapes quote body) :
    Denotes .bytes quote body (Utf8.encode cs) := by
  induction hbody with
  | nil => exact .nil
  | @plain c cs items hc hbackslash _ ih =>
    have hcs : HasLowEscapes quote cs := .of_append [c] hlow fun _ h => .plain hc hbackslash h
    have hplain : Denotes .bytes quote (c :: cs) (Content.bytes.char c ++ Utf8.encode items) :=
      .plain hc hbackslash (ih hcs)
    exact hplain
  | @escaped letter cs found items extra hfound _ ih =>
    have hescape := (escape_eq_ok_iff Content.text 0).mpr hfound
    have hplaces (ds : List Char) (hds : LiteralBody quote ds) :
        LiteralBody quote ('\\' :: letter :: cs.take extra ++ ds) :=
      .escaped (hds.append_plain fun _ hc =>
        ne_of_isHexDigit hquote (isHexDigit_of_mem_places hescape hc))
    have hrest : HasLowEscapes quote ('\\' :: letter :: cs.take extra ++ cs.drop extra) := by
      rwa [List.cons_append, List.cons_append, List.take_append_drop]
    rw [Utf8.encode, List.flatMap_append]
    refine .escaped (hfound.encode ?_) (ih (hrest.of_append _ hplaces))
    rintro rfl n hn
    exact hlow [] cs n rfl .nil hn

/-- A body without a lone quote stands for something, or its literal is refused. -/
theorem HasNoLoneQuote.denotes_or_error (hlone : HasNoLoneQuote quote body)
    (hquote : isQuote quote = true) {α : Type} (content : Content α) (start pos : Nat) :
    (∃ items, Denotes content quote body items) ∨
      ∃ err, readQuoted content false quote start pos [] (body ++ [quote]) = .error err := by
  cases hread : readQuoted content false quote start pos [] (body ++ [quote]) with
  | error err => exact .inr ⟨err, rfl⟩
  | ok r =>
    obtain ⟨body', items, tail, hbody, hdenotes, -⟩ := denotes_of_readQuoted hread
    refine .inl ⟨items, ?_⟩
    obtain rfl | ⟨tail, last, rfl⟩ := List.eq_nil_or_concat tail
    · rwa [(List.append_inj' hbody rfl).1]
    · -- the reader would have come to an end in the body
      have hbefore : body = body' ++ quote :: tail := by
        rw [List.concat_eq_append, ← List.cons_append, ← List.append_assoc] at hbody
        exact (List.append_inj' hbody rfl).1
      exact absurd (hdenotes.literalBody hquote) (hlone body' tail hbefore)

/-- A body without a lone quote stands for something in a text, or the text is refused; so in a byte
    string. -/
theorem HasNoLoneQuote.denotes_or_refused (hlone : HasNoLoneQuote quote body)
    (hquote : isQuote quote = true) :
    ((∃ cs, Denotes .text quote body cs) ∨
        ∃ err, tokenize (quotedText [] quote body) = .error err) ∧
      ((∃ bs, Denotes .bytes quote body bs) ∨
        ∃ err, tokenize (quotedText ['b'] quote body) = .error err) := by
  obtain ⟨htext, -, hbytes, -⟩ := marksOf hquote
  constructor
  · refine (hlone.denotes_or_error hquote .text 0 1).imp_right ?_
    rintro ⟨err, hread⟩
    refine ⟨err, htext.tokenize_error ?_⟩
    simp [quotedToken, QuoteMark.width, hread, Bind.bind, Except.bind]
  · refine (hlone.denotes_or_error hquote .bytes 1 2).imp_right ?_
    rintro ⟨err, hread⟩
    refine ⟨err, hbytes.tokenize_error ?_⟩
    simp [quotedToken, QuoteMark.width, hread, Bind.bind, Except.bind]

end Agreement

/-- Every text is read from a literal that writes a backslash before each of its backslashes and quotes, and
    from a raw literal if the quote is not in it; a raw byte string with it holds its UTF-8 bytes. Any bytes
    are read from a byte string of an escape for each, in whichever digits, and there are such digits. A body
    without a lone quote whose escapes of bytes are below 128 is refused in a text and in a byte string alike,
    or read in both, and then the byte string holds the UTF-8 bytes of the text. -/
theorem tokenize_literals (quote : Char) (hquote : isQuote quote = true) :
    (∀ s : String, ReadsAs (quotedText [] quote (s.toList.flatMap (escapedFor quote))) (.str s)) ∧
      (∀ s : String, quote ∉ s.toList →
        ReadsAs (quotedText ['r'] quote s.toList) (.str s) ∧
          ReadsAs (quotedText ['b', 'r'] quote s.toList) (.bytes (Utf8.ofString s))) ∧
      (∀ bs : List UInt8, (∃ digits, Hex.decodeChars? digits = some bs) ∧
        ∀ digits, Hex.decodeChars? digits = some bs →
          ReadsAs (quotedText ['b'] quote (byteEscapes digits)) (.bytes bs)) ∧
      ∀ body, HasNoLoneQuote quote body → HasLowEscapes quote body →
        (∃ s, ReadsAs (quotedText [] quote body) (.str s) ∧
          ReadsAs (quotedText ['b'] quote body) (.bytes (Utf8.ofString s))) ∨
        ((∃ err, tokenize (quotedText [] quote body) = .error err) ∧
          ∃ err, tokenize (quotedText ['b'] quote body) = .error err) := by
  refine ⟨fun s => ?_, fun s hs => ⟨?_, readsAs_rawBytes hquote hs⟩,
    fun bs => ⟨?_, fun digits hdigits => ?_⟩, fun body hlone hlow => ?_⟩
  · have hread := readsAs_str hquote (denotes_escapedFor hquote s.toList)
    rwa [String.ofList_toList] at hread
  · have hread := readsAs_raw hquote hs
    rwa [String.ofList_toList] at hread
  · exact ⟨_, Hex.decodeChars?_byteDigits bs⟩
  · exact readsAs_bytes hquote (denotes_byteEscapes quote hdigits)
  · obtain ⟨⟨cs, hcs⟩ | htext, hbytes⟩ := hlone.denotes_or_refused hquote
    · refine .inl ⟨String.ofList cs, readsAs_str hquote hcs, readsAs_bytes hquote ?_⟩
      rw [Utf8.ofString, String.toList_ofList]
      exact hcs.encode hquote hlow
    · refine .inr ⟨htext, hbytes.resolve_left ?_⟩
      rintro ⟨bs, hbs⟩
      obtain ⟨cs, hcs⟩ := hbs.exists_of .text
      obtain ⟨err, herr⟩ := htext
      cases herr.symm.trans (readsAs_str hquote hcs)

/-- A text with both quotes and a backslash, a raw byte string that looks like an escape, bytes in small and
    capital digits, and a body with an escape that a text and a byte string share. -/
theorem tokenize_literals_sample :
    let body := ['\\', 'x', '4', '1', 'é']
    isQuote '\x27' = true ∧ ReadsAs "'it\\'s \"\\\\\"'" (.str "it's \"\\\"") ∧
      '\x27' ∉ "\\x41".toList ∧ ReadsAs "br'\\x41'" (.bytes [92, 120, 52, 49]) ∧
      Hex.decodeChars? ['0', '0', 'f', 'F'] = some [0, 255] ∧ ReadsAs "b'\\x00\\xfF'" (.bytes [0, 255]) ∧
      HasNoLoneQuote '\x27' body ∧ HasLowEscapes '\x27' body ∧
      ReadsAs (quotedText [] '\x27' body) (.str "Aé") ∧
      ReadsAs (quotedText ['b'] '\x27' body) (.bytes [65, 195, 169]) := by
  intro body
  obtain ⟨htexts, hraw, hbytes, hbodies⟩ := tokenize_literals '\x27' (by decide)
  have hquote : '\x27' ∉ "\\x41".toList := by decide
  have hdigits : Hex.decodeChars? ['0', '0', 'f', 'F'] = some [0, 255] := by decide
  have hlone : HasNoLoneQuote '\x27' body := by
    intro before after hbody
    have hmem : '\x27' ∈ body := by simp [hbody]
    exact absurd hmem (by decide)
  have hlow : HasLowEscapes '\x27' body := by
    rintro (_ | ⟨c, before⟩) after n hbody - hn
    · obtain rfl : ['4', '1', 'é'] = after := List.tail_eq_of_cons_eq (List.tail_eq_of_cons_eq hbody)
      obtain rfl : 65 = n := Option.some.inj hn
      decide
    · have hmem : '\\' ∈ body.tail := by simp [hbody]
      exact absurd hmem (by decide)
  have htext := htexts "it's \"\\\""
  have hspelled : quotedText [] '\x27' ("it's \"\\\"".toList.flatMap (escapedFor '\x27')) =
      "'it\\'s \"\\\\\"'" := by
    decide
  rw [hspelled] at htext
  have hrawBytes := (hraw _ hquote).2
  have hrawText : quotedText ['b', 'r'] '\x27' "\\x41".toList = "br'\\x41'" := by decide
  have hrawValue : Utf8.ofString "\\x41" = [92, 120, 52, 49] := by decide
  rw [hrawText, hrawValue] at hrawBytes
  have hescapes := (hbytes [0, 255]).2 _ hdigits
  have hbytesText : quotedText ['b'] '\x27' (byteEscapes ['0', '0', 'f', 'F']) =
      "b'\\x00\\xfF'" := by
    decide
  rw [hbytesText] at hescapes
  have htextOf : ReadsAs (quotedText [] '\x27' body) (.str "Aé") := by
    unfold ReadsAs
    with_unfolding_all decide
  obtain ⟨s, hs, hsBytes⟩ | ⟨⟨err, herr⟩, -⟩ := hbodies body hlone hlow
  · have hvalue : s = "Aé" := by
      have htokens := hs.symm.trans htextOf
      simpa using htokens
    have hbytesOf : Utf8.ofString "Aé" = [65, 195, 169] := by decide
    rw [hvalue, hbytesOf] at hsBytes
    exact ⟨by decide, htext, hquote, hrawBytes, hdigits, hescapes, hlone, hlow, htextOf, hsBytes⟩
  · cases herr.symm.trans htextOf

end VulnProbe.Expr
