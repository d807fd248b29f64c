import VulnProbe.Expr.Lexer
import VulnProbe.Proofs.Expr.Induction

namespace VulnProbe.Expr

/-- A fault in the text of an expression, as opposed to one in its types or its evaluation. -/
def IsSyntaxError (err : ExprError) : Prop :=
  ∃ pos issue, err = .syntaxError pos issue

/-- A result that is not there for a syntax error only. -/
def FailsBySyntax {α : Type} (r : Except ExprError α) : Prop :=
  ∀ err, r = .error err → IsSyntaxError err

private theorem failsBySyntax_ok {α : Type} (a : α) : FailsBySyntax (.ok a) := by
  rintro _ ⟨⟩

private theorem failsBySyntax_error {α : Type} (pos : Nat) (issue : SyntaxIssue) :
    FailsBySyntax (α := α) (.error (.syntaxError pos issue)) := by
  rintro _ ⟨⟩
  exact ⟨pos, issue, rfl⟩

/-- A sequence fails for a syntax error only if its first part does and so does what follows on its
    result. -/
theorem FailsBySyntax.bind {α β : Type} {r : Except ExprError α} {f : α → Except ExprError β}
    (hr : FailsBySyntax r) (hf : ∀ a, r = .ok a → FailsBySyntax (f a)) : FailsBySyntax (r >>= f) := by
  intro err herr
  cases r with
  | error e =>
    obtain rfl : e = err := by simpa [Bind.bind, Except.bind] using herr
    exact hr e rfl
  | ok a => exact hf a rfl err herr

section Quoted

variable {α : Type} (content : Content α)

private theorem failsBySyntax_escape (pos : Nat) (letter : Char) (cs : List Char) :
    FailsBySyntax (escape content pos letter cs) := by
  unfold escape
  split
  · exact failsBySyntax_ok _
  split
  · split
    · exact failsBySyntax_ok _
    · exact failsBySyntax_error _ _
  split
  · split
    · exact failsBySyntax_ok _
    · exact failsBySyntax_error _ _
  · exact failsBySyntax_ok _

private theorem failsBySyntax_readQuoted (isRaw : Bool) (quote : Char) (start pos : Nat) (read : List α)
    (cs : List Char) : FailsBySyntax (readQuoted content isRaw quote start pos read cs) := by
  fun_induction readQuoted content isRaw quote start pos read cs with
  | case1 => exact failsBySyntax_error _ _
  | case2 => exact failsBySyntax_ok _
  | case3 => exact failsBySyntax_error _ _
  | case4 pos read c letter rest _ _ err hescape =>
    rintro _ ⟨⟩
    exact failsBySyntax_escape content _ _ _ _ hescape
  | case5 pos read c letter rest _ _ items extra _ ih => exact ih
  | case6 pos read c rest _ _ ih => simpa using ih

/-- What an escape stands for, and the number of characters that it takes after its letter. -/
inductive StandsFor (letter : Char) (cs : List Char) : List α → Nat → Prop where
  | plain {c : Char} (hc : plainEscape? letter = some c) : StandsFor letter cs (content.char c) 0
  | byte {n : Nat} (hletter : letter = 'x') (hn : escapeNumber? 2 cs = some n) :
      StandsFor letter cs (content.byte n) 2
  | scalar {n : Nat} {c : Char} (hletter : letter = 'u') (hn : escapeNumber? 4 cs = some n)
      (hc : scalar? n = some c) : StandsFor letter cs (content.char c) 4
  | unknown (hplain : plainEscape? letter = none) (hbyte : letter ≠ 'x') (hscalar : letter ≠ 'u') :
      StandsFor letter cs (content.char '\\' ++ content.char letter) 0

/-- An escape is read exactly as what it stands for. The position at which it is read counts for its
    faults only. -/
theorem escape_eq_ok_iff (pos : Nat) {extra : Nat} {letter : Char} {cs : List Char} {items : List α} :
    escape content pos letter cs = .ok (items, extra) ↔ StandsFor content letter cs items extra := by
  constructor
  · intro hescape
    unfold escape at hescape
    split at hescape
    · cases hescape
      exact .plain ‹_›
    rename_i hplain
    split at hescape
    · rename_i hletter
      split at hescape <;> cases hescape
      exact .byte (eq_of_beq hletter) ‹_›
    rename_i hbyte
    split at hescape
    · rename_i hletter
      split at hescape <;> cases hescape
      rename_i hscalar
      obtain ⟨n, hn, hc⟩ := Option.bind_eq_some_iff.mp hscalar
      exact .scalar (eq_of_beq hletter) hn hc
    · rename_i hscalar
      cases hescape
      exact .unknown hplain (by simpa using hbyte) (by simpa using hscalar)
  · intro hstands
    cases hstands with
    | plain hc => simp [escape, hc]
    | byte hletter hn =>
      have hplain : plainEscape? 'x' = none := rfl
      simp [escape, hletter, hplain, hn]
    | scalar hletter hn hc =>
      have hplain : plainEscape? 'u' = none := rfl
      simp [escape, hletter, hplain, hn, hc]
    | unknown hplain hbyte hscalar => simp [escape, hplain, hbyte, hscalar]

/-- What an escape stands for depends on the characters that it takes only. -/
theorem StandsFor.congr {content : Content α} {letter : Char} {cs ds : List Char} {items : List α}
    {extra : Nat} (hstands : StandsFor content letter cs items extra)
    (htake : ds.take extra = cs.take extra) :
    StandsFor content letter ds items extra := by
  cases hstands with
  | plain hc => exact .plain hc
  | byte hletter hn => exact .byte hletter (by rw [← hn, escapeNumber?, escapeNumber?, htake])
  | scalar hletter hn hc =>
    exact .scalar hletter (by rw [← hn, escapeNumber?, escapeNumber?, htake]) hc
  | unknown hplain hbyte hscalar => exact .unknown hplain hbyte hscalar

end Quoted

private theorem failsBySyntax_quotedToken (m : QuoteMark) (pos : Nat) (rest : List Char) :
    FailsBySyntax (quotedToken m pos rest) := by
  unfold quotedToken
  split
  · exact (failsBySyntax_readQuoted _ _ _ _ _ _ _).bind fun _ _ => failsBySyntax_ok _
  · exact (failsBySyntax_readQuoted _ _ _ _ _ _ _).bind fun _ _ => failsBySyntax_ok _

private theorem failsBySyntax_scanToken (pos : Nat) (c : Char) (rest : List Char) :
    FailsBySyntax (scanToken pos c rest) := by
  unfold scanToken
  split
  · exact (failsBySyntax_quotedToken _ _ _).bind fun _ _ => failsBySyntax_ok _
  split
  · split
    · exact failsBySyntax_ok _
    · exact failsBySyntax_error _ _
  split
  · exact failsBySyntax_ok _
  split
  · exact failsBySyntax_ok _
  · exact failsBySyntax_error _ _

section Reading

variable {α : Type} (content : Content α) {quote : Char} (start pos : Nat) (read : List α)
  (rest : List Char)

/-- A literal ends at its quote. -/
theorem readQuoted_quote :
    readQuoted content false quote start pos read (quote :: rest) = .ok (read.reverse, pos + 1) := by
  rw [readQuoted.eq_def]
  simp

/-- An escape stands for its items, and the reading goes on after its places. -/
theorem readQuoted_backslash {letter : Char} {items : List α} {extra : Nat} (hquote : quote ≠ '\\')
    (hescape : escape content (pos + 2) letter rest = .ok (items, extra)) :
    readQuoted content false quote start pos read ('\\' :: letter :: rest) =
      readQuoted content false quote start (pos + 2 + extra) (items.reverse ++ read)
        (rest.drop extra) := by
  rw [readQuoted.eq_def]
  simp [hescape, hquote.symm]

/-- A character that is neither the quote nor a backslash stands for itself. -/
theorem readQuoted_plain {c : Char} (hc : c ≠ '\\' ∧ c ≠ quote) :
    readQuoted content false quote start pos read (c :: rest) =
      readQuoted content false quote start (pos + 1) ((content.char c).reverse ++ read) rest := by
  rw [readQuoted.eq_def]
  simp [hc]

end Reading

section Cases

variable {pos next extra : Nat} {c : Char} {rest : List Char} {token : Token}

/-- A quoted literal is a byte string or a text. -/
theorem quotedToken_cases {m : QuoteMark} (htoken : quotedToken m pos rest = .ok (token, next)) :
    (∃ bs, readQuoted .bytes m.isRaw m.quote (pos + m.width) (pos + m.width + 1) [] rest = .ok (bs, next) ∧
        token = .bytes bs) ∨
      ∃ cs, readQuoted .text m.isRaw m.quote (pos + m.width) (pos + m.width + 1) [] rest = .ok (cs, next) ∧
        token = .str (String.ofList cs) := by
  unfold quotedToken at htoken
  split at htoken
  · obtain ⟨⟨bs, _⟩, hread, hpure⟩ := bind_eq_ok_iff.mp htoken
    cases hpure
    exact .inl ⟨bs, hread, rfl⟩
  · obtain ⟨⟨cs, _⟩, hread, hpure⟩ := bind_eq_ok_iff.mp htoken
    cases hpure
    exact .inr ⟨cs, hread, rfl⟩

/-- A literal without the mark of bytes is a text of the characters that are read between its quotes. -/
theorem quotedToken_text {m : QuoteMark} {cs : List Char} (hm : m.isBytes = false)
    (hread : readQuoted .text m.isRaw m.quote (pos + m.width) (pos + m.width + 1) [] rest =
      .ok (cs, next)) : quotedToken m pos rest = .ok (.str (String.ofList cs), next) := by
  simp only [quotedToken, hm, hread]
  rfl

/-- A literal with the mark of bytes is a byte string of the bytes that are read between its quotes. -/
theorem quotedToken_bytes {m : QuoteMark} {bs : List UInt8} (hm : m.isBytes = true)
    (hread : readQuoted .bytes m.isRaw m.quote (pos + m.width) (pos + m.width + 1) [] rest =
      .ok (bs, next)) : quotedToken m pos rest = .ok (.bytes bs, next) := by
  simp only [quotedToken, hm, hread]
  rfl

/-- Where the marks of a literal stand, the literal is the token, and it takes all characters up to its
    closing quote. -/
theorem scanToken_quoted {m : QuoteMark} (hm : quoteMark? (c :: rest) = some m)
    (hquoted : quotedToken m pos (rest.drop m.width) = .ok (token, next)) :
    scanToken pos c rest = .ok (token, next - pos - 1) := by
  simp only [scanToken, hm, hquoted]
  rfl

/-- The token of a number holds the number, which is not above the greatest integer. -/
theorem intToken?_eq_some {n : Nat} (htoken : intToken? n = some token) :
    token = .int n ∧ (n : Int) ≤ maxInt := by
  unfold intToken? at htoken
  split at htoken <;> cases htoken
  exact ⟨rfl, ‹_›⟩

/-- A number is read as an integer that is not above the greatest one. -/
theorem numberToken?_eq_some (htoken : numberToken? c rest = (some token, extra)) :
    ∃ n : Nat, token = .int n ∧ (n : Int) ≤ maxInt := by
  unfold numberToken? at htoken
  dsimp only at htoken
  split at htoken
  · split at htoken
    · obtain ⟨n, -, hn⟩ := Option.bind_eq_some_iff.mp (Prod.mk.inj htoken).1
      exact ⟨n, intToken?_eq_some hn⟩
    · exact ⟨_, intToken?_eq_some (Prod.mk.inj htoken).1⟩
  · exact ⟨_, intToken?_eq_some (Prod.mk.inj htoken).1⟩

/-- What holds of either branch holds of the choice between them. -/
theorem forall_ite {α : Type} {p : Prop} [Decidable p] {a b : Option α} {P : α → Prop}
    (ha : p → ∀ t ∈ a, P t) (hb : ∀ t ∈ b, P t) : ∀ t ∈ if p then a else b, P t := by
  split
  · rename_i hp
    exact ha hp
  · exact hb

/-- The tokens that hold nothing and stand somewhere in a text. -/
def IsSymbol : Token → Prop
  | .int _ | .str _ | .bytes _ | .ident _ | .endOfInput => False
  | _ => True

/-- What is read from one or two marks is a token that holds nothing and is not the end of input. -/
theorem symbolToken?_isSymbol (c : Char) (next : Option Char) :
    ∀ t ∈ symbolToken? c next, IsSymbol t.1 := by
  unfold symbolToken?
  repeat' refine forall_ite (fun _ => ?_) ?_
  all_goals rintro _ ⟨⟩
  all_goals trivial

/-- A token is a quoted literal, a number, a name or a symbol. -/
theorem scanToken_cases (htoken : scanToken pos c rest = .ok (token, extra)) :
    (∃ m next, quoteMark? (c :: rest) = some m ∧
        quotedToken m pos (rest.drop m.width) = .ok (token, next) ∧ extra = next - pos - 1) ∨
      quoteMark? (c :: rest) = none ∧
        (numberToken? c rest = (some token, extra) ∨
          (∃ name, token = .ident name ∧ extra = (rest.takeWhile Text.isNameTail).length) ∨
          symbolToken? c rest.head? = some (token, extra)) := by
  unfold scanToken at htoken
  split at htoken
  · rename_i m hm
    obtain ⟨⟨_, next⟩, hquoted, hpure⟩ := bind_eq_ok_iff.mp htoken
    cases hpure
    exact .inl ⟨m, next, hm, hquoted, rfl⟩
  refine .inr ⟨‹_›, ?_⟩
  split at htoken
  · split at htoken <;> cases htoken
    exact .inl ‹_›
  split at htoken
  · cases htoken
    exact .inr (.inl ⟨_, rfl, rfl⟩)
  split at htoken <;> cases htoken
  exact .inr (.inr ‹_›)

/-- No text is read as the end of input. -/
theorem scanToken_ne_endOfInput (htoken : scanToken pos c rest = .ok (token, extra)) :
    token ≠ .endOfInput := by
  rintro rfl
  rcases scanToken_cases htoken with ⟨_, _, -, hquoted, -⟩ | ⟨-, hnumber | ⟨_, hname, -⟩ | hsymbol⟩
  · rcases quotedToken_cases hquoted with ⟨_, -, hbytes⟩ | ⟨_, -, htext⟩
    · cases hbytes
    · cases htext
  · obtain ⟨_, hint, -⟩ := numberToken?_eq_some hnumber
    cases hint
  · cases hname
  · exact symbolToken?_isSymbol _ _ _ hsymbol

end Cases

section Steps

variable (found : List Located) (pos : Nat) {c : Char} (rest : List Char)

/-- The end of input closes the tokens. -/
theorem tokensAfter_nil :
    tokensAfter found pos [] = .ok ((⟨.endOfInput, pos⟩ :: found).reverse) := by
  rw [tokensAfter.eq_def]

/-- A blank is passed over. -/
theorem tokensAfter_blank (hblank : Text.isBlank c = true) :
    tokensAfter found pos (c :: rest) = tokensAfter found (pos + 1) rest := by
  rw [tokensAfter.eq_def]
  exact if_pos hblank

/-- A token that has been scanned is found, and the rest of the text follows. -/
theorem tokensAfter_scan {token : Token} {extra : Nat} (hblank : Text.isBlank c = false)
    (hscan : scanToken pos c rest = .ok (token, extra)) :
    tokensAfter found pos (c :: rest) =
      tokensAfter (⟨token, pos⟩ :: found) (pos + 1 + extra) (rest.drop extra) := by
  rw [tokensAfter.eq_def]
  simp only [hblank, Bool.false_eq_true, if_false, hscan]

/-- A token that cannot be scanned is the fault of the text. -/
theorem tokensAfter_fault {err : ExprError} (hblank : Text.isBlank c = false)
    (hscan : scanToken pos c rest = .error err) : tokensAfter found pos (c :: rest) = .error err := by
  rw [tokensAfter.eq_def]
  simp only [hblank, Bool.false_eq_true, if_false, hscan]

/-- Blanks before a text count for positions only. -/
theorem tokensAfter_blanks {blanks : List Char} (hblanks : ∀ c ∈ blanks, Text.isBlank c = true) :
    tokensAfter found pos (blanks ++ rest) = tokensAfter found (pos + blanks.length) rest := by
  induction blanks generalizing pos with
  | nil => rfl
  | cons c blanks ih =>
    obtain ⟨hc, hblanks⟩ := List.forall_mem_cons.mp hblanks
    rw [List.cons_append, tokensAfter_blank _ _ _ hc, ih _ hblanks, List.length_cons]
    congr 1
    omega

end Steps

/-- A text that can be cut into tokens starts with one, unless it starts with a blank. -/
theorem scanToken_of_tokensAfter {found ts : List Located} {pos : Nat} {c : Char} {rest : List Char}
    (hblank : Text.isBlank c = false)
    (htokens : tokensAfter found pos (c :: rest) = .ok ts) :
    ∃ token extra, scanToken pos c rest = .ok (token, extra) := by
  cases hscan : scanToken pos c rest with
  | error err =>
    rw [tokensAfter_fault _ _ _ hblank hscan] at htokens
    cases htokens
  | ok scanned => exact ⟨_, _, rfl⟩

private theorem tokensAfter_cases (found : List Located) (pos : Nat) (cs : List Char) :
    (∃ err, tokensAfter found pos cs = .error err ∧ IsSyntaxError err) ∨
      ∃ (us : List Located) (last : Nat),
        tokensAfter found pos cs = .ok (found.reverse ++ us ++ [⟨.endOfInput, last⟩]) ∧
        ∀ t ∈ us, t.token ≠ .endOfInput := by
  fun_induction tokensAfter found pos cs with
  | case1 found pos => exact .inr ⟨[], pos, by simp, by simp⟩
  | case2 found pos c rest hblank ih => exact ih
  | case3 found pos c rest hblank err hscan =>
    exact .inl ⟨err, rfl, failsBySyntax_scanToken _ _ _ _ hscan⟩
  | case4 found pos c rest hblank token extra hscan ih =>
    rcases ih with herror | ⟨us, last, htokens, hus⟩
    · exact .inl herror
    · refine .inr ⟨⟨token, pos⟩ :: us, last, by simp [htokens], ?_⟩
      rintro t (_ | ⟨_, ht⟩)
      · exact scanToken_ne_endOfInput hscan
      · exact hus t ht

/-- The tokens of a text have the end of input after them and nowhere else; a text that cannot be cut
    into tokens is refused with a syntax error. -/
theorem tokenize_cases (source : String) :
    (∃ err, tokenize source = .error err ∧ IsSyntaxError err) ∨
      ∃ (us : List Located) (last : Nat), tokenize source = .ok (us ++ [⟨.endOfInput, last⟩]) ∧
        ∀ t ∈ us, t.token ≠ .endOfInput :=
  tokensAfter_cases [] 0 source.toList

end VulnProbe.Expr
