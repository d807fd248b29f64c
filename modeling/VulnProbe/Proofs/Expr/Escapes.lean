import Mathlib.Control.Monad.Basic
import VulnProbe.Proofs.Expr.Tokenize

namespace VulnProbe.Expr

section Digits

/-- A digit in base 16, small or capital. -/
def IsHexDigit (c : Char) : Prop :=
  ('0' ≤ c ∧ c ≤ '9') ∨ ('a' ≤ c ∧ c ≤ 'f') ∨ ('A' ≤ c ∧ c ≤ 'F')

/-- Exactly so many digits in base 16. -/
def AreDigits (count : Nat) (cs : List Char) : Prop :=
  cs.length = count ∧ ∀ c ∈ cs, IsHexDigit c

/-- A sign in the place of the first of so many digits in base 16. -/
def AreSignedDigits (count : Nat) (cs : List Char) : Prop :=
  ∃ digits, cs = '+' :: digits ∧ AreDigits (count - 1) digits

/-- The characters with a value as digits are the digits in base 16. -/
theorem isSome_value?_iff {c : Char} : (Hex.value? c).isSome = true ↔ IsHexDigit c := by
  unfold Hex.value? IsHexDigit
  grind

instance : DecidablePred IsHexDigit :=
  fun _ => decidable_of_iff _ isSome_value?_iff

private theorem isSome_hexNumber?_iff {cs : List Char} :
    (hexNumber? cs).isSome = true ↔ ∀ c ∈ cs, IsHexDigit c := by
  have hfold (n? : Option Nat) :
      (cs.foldl (fun n? c => do pure ((← n?) * 16 + (← Hex.value? c))) n?).isSome = true ↔
        n?.isSome = true ∧ ∀ c ∈ cs, IsHexDigit c := by
    induction cs generalizing n? with
    | nil => simp
    | cons c cs ih =>
      rw [List.foldl_cons, ih, List.forall_mem_cons, ← isSome_value?_iff, ← and_assoc]
      cases n? <;> cases Hex.value? c <;> simp
  rw [hexNumber?, hfold]
  simp

/-- An escape by number is read if its places hold digits, or a sign and digits. -/
theorem isSome_escapeNumber?_iff {count : Nat} (hcount : 2 ≤ count) {cs : List Char} :
    (escapeNumber? count cs).isSome = true ↔
      AreDigits count (cs.take count) ∨ AreSignedDigits count (cs.take count) := by
  rw [escapeNumber?]
  generalize cs.take count = places
  by_cases hlength : places.length = count
  · simp only [hlength, beq_self_eq_true, ↓reduceIte, isSome_hexNumber?_iff]
    unfold escapeDigits
    split
    · rename_i c rest
      have hsign : ¬ AreDigits count ('+' :: c :: rest) := fun h =>
        absurd (h.2 '+' List.mem_cons_self) (by decide)
      rw [or_iff_right hsign]
      simp [AreSignedDigits, AreDigits, ← hlength]
    · rename_i hnosign
      have hsigned : ¬ AreSignedDigits count places := by
        rintro ⟨_ | ⟨c, rest⟩, rfl, hdigits, -⟩
        · rw [List.length_nil] at hdigits
          omega
        · exact hnosign c rest rfl
      rw [or_iff_left hsigned]
      simp [AreDigits, hlength]
  · have hdigits : ¬ AreDigits count places := fun h => hlength h.1
    have hsigned : ¬ AreSignedDigits count places := by
      rintro ⟨digits, rfl, hdigits, -⟩
      rw [List.length_cons] at hlength
      omega
    simp [hlength, hdigits, hsigned]

/-- Digits without a sign are read as they are. -/
theorem escapeNumber?_of_digits {count : Nat} {places : List Char} (hdigits : AreDigits count places)
    (rest : List Char) : escapeNumber? count (places ++ rest) = hexNumber? places := by
  have htake : (places ++ rest).take count = places := by rw [← hdigits.1, List.take_left]
  have hsign : escapeDigits places = places := by
    unfold escapeDigits
    split
    · exact absurd (hdigits.2 '+' List.mem_cons_self) (by decide)
    · rfl
  rw [escapeNumber?, htake, hsign]
  simp [hdigits.1]

end Digits

section Literals

/-- What stands in a literal between its opening quote and a place where a character is read by itself:
    characters that are neither the quote nor a backslash, and backslashes with the character after
    them. -/
inductive LiteralBody (quote : Char) : List Char → Prop where
  | nil : LiteralBody quote []
  | plain {c : Char} {cs : List Char} (hquote : c ≠ quote) (hbackslash : c ≠ '\\')
      (hcs : LiteralBody quote cs) : LiteralBody quote (c :: cs)
  | escaped {c : Char} {cs : List Char} (hcs : LiteralBody quote cs) :
      LiteralBody quote ('\\' :: c :: cs)

/-- Characters other than backslashes can be passed one by one, and what is left before a later backslash
    is still cut as before. -/
theorem LiteralBody.drop {quote : Char} {before tail : List Char} (hbefore : LiteralBody quote before)
    {n : Nat} (hn : '\\' ∉ (before ++ '\\' :: tail).take n) :
    ∃ before', (before ++ '\\' :: tail).drop n = before' ++ '\\' :: tail ∧
      LiteralBody quote before' := by
  induction n generalizing before with
  | zero => exact ⟨before, rfl, hbefore⟩
  | succ n ih =>
    cases hbefore with
    | nil | escaped => simp at hn
    | plain hquote hbackslash hcs => exact ih hcs fun hmem => hn (by simp [hmem])

variable {α : Type} {content : Content α}

/-- The letters of the escapes by number, and the number of places for their digits. -/
inductive EscapePlaces : Char → Nat → Prop where
  | byte : EscapePlaces 'x' 2
  | scalar : EscapePlaces 'u' 4

/-- The letter of an escape settles the number of its places. -/
theorem EscapePlaces.unique {letter : Char} {count count' : Nat} (hplaces : EscapePlaces letter count)
    (hplaces' : EscapePlaces letter count') : count = count' := by
  cases hplaces <;> cases hplaces' <;> rfl

private theorem EscapePlaces.two_le {letter : Char} {count : Nat} (hplaces : EscapePlaces letter count) :
    2 ≤ count := by
  cases hplaces <;> decide

/-- An escape that is read takes the places for its digits, if it is one by number, and they hold them. -/
theorem escape_cases {pos extra : Nat} {letter : Char} {cs : List Char} {items : List α}
    (hescape : escape content pos letter cs = .ok (items, extra)) :
    (extra = 0 ∧ ∀ count, ¬ EscapePlaces letter count) ∨
      EscapePlaces letter extra ∧ (escapeNumber? extra cs).isSome = true := by
  cases (escape_eq_ok_iff content _).mp hescape with
  | plain hc =>
    refine .inl ⟨rfl, ?_⟩
    rintro _ (_ | _) <;> cases hc
  | byte hletter hn =>
    rw [hletter, hn]
    exact .inr ⟨.byte, rfl⟩
  | scalar hletter hn =>
    rw [hletter, hn]
    exact .inr ⟨.scalar, rfl⟩
  | unknown _ hbyte hscalar =>
    refine .inl ⟨rfl, ?_⟩
    rintro _ (_ | _)
    · exact hbyte rfl
    · exact hscalar rfl

/-- The places that an escape takes hold digits, and a sign at most. -/
theorem isHexDigit_of_mem_places {pos extra : Nat} {letter : Char} {cs : List Char} {items : List α}
    (hescape : escape content pos letter cs = .ok (items, extra)) {c : Char} (hc : c ∈ cs.take extra) :
    IsHexDigit c ∨ c = '+' := by
  rcases escape_cases hescape with ⟨rfl, -⟩ | ⟨hplaces, hnumber⟩
  · cases hc
  rcases (isSome_escapeNumber?_iff hplaces.two_le).mp hnumber with hdigits | ⟨digits, hsign, hdigits⟩
  · exact .inl (hdigits.2 c hc)
  · rw [hsign, List.mem_cons] at hc
    exact hc.symm.imp_left (hdigits.2 c)

/-- The places that an escape takes hold no backslash. -/
theorem backslash_not_mem_places {pos extra : Nat} {letter : Char} {cs : List Char} {items : List α}
    (hescape : escape content pos letter cs = .ok (items, extra)) : '\\' ∉ cs.take extra :=
  fun hmem => absurd (isHexDigit_of_mem_places hescape hmem) (by decide)

/-- Where a literal is read to its end, the places of each of its escapes by number hold digits. -/
theorem escapeNumber?_of_readQuoted {quote letter : Char} {start pos count : Nat} {read : List α}
    {before after cs : List Char} {r : List α × Nat} (hquote : quote ≠ '\\')
    (hplaces : EscapePlaces letter count) (hbefore : LiteralBody quote before)
    (hcs : cs = before ++ '\\' :: letter :: after)
    (hread : readQuoted content false quote start pos read cs = .ok r) :
    (escapeNumber? count after).isSome = true := by
  -- the reader passes what stands before the escape: an escape in it may take places after its letter,
  -- and these hold no backslash, so that the reader does not run past the one that is looked at
  fun_induction readQuoted content false quote start pos read cs generalizing before with
  | case1 => cases hread
  | case2 pos read c rest hc =>
    obtain rfl := beq_iff_eq.mp hc
    cases hbefore with
    | nil | escaped => exact absurd (List.head_eq_of_cons_eq hcs) hquote
    | plain hne => exact absurd (List.head_eq_of_cons_eq hcs).symm hne
  | case3 => cases hread
  | case4 => cases hread
  | case5 pos read c _ hbackslash letter' rest items extra hescape ih =>
    cases hbefore with
    | nil =>
      obtain ⟨-, rfl, rfl⟩ : c = '\\' ∧ letter' = letter ∧ rest = after := by simpa using hcs
      rcases escape_cases hescape with ⟨-, hnone⟩ | ⟨hplaces', hnumber⟩
      · exact absurd hplaces (hnone count)
      · rwa [hplaces.unique hplaces']
    | plain _ hne =>
      obtain rfl := List.head_eq_of_cons_eq hcs
      simp [hne] at hbackslash
    | escaped hbefore =>
      obtain rfl := List.tail_eq_of_cons_eq (List.tail_eq_of_cons_eq hcs)
      obtain ⟨before', hdrop, hbefore'⟩ := hbefore.drop (backslash_not_mem_places hescape)
      exact ih hbefore' hdrop hread
  | case6 pos read c rest hc hplain ih =>
    cases hbefore with
    | nil | escaped =>
      rw [List.head_eq_of_cons_eq hcs] at hplain
      simp at hplain
    | plain _ _ hbefore => exact ih hbefore (List.tail_eq_of_cons_eq hcs) (by simpa using hread)

end Literals

section Places

/-- The places that the scan of a text comes to, with what is left of the text there: past blanks and
    whole tokens. -/
inductive Scans : Nat → List Char → Nat → List Char → Prop where
  | here {pos : Nat} {cs : List Char} : Scans pos cs pos cs
  | blank {pos pos' : Nat} {c : Char} {rest cs' : List Char} (hblank : Text.isBlank c = true)
      (hrest : Scans (pos + 1) rest pos' cs') : Scans pos (c :: rest) pos' cs'
  | token {pos pos' extra : Nat} {c : Char} {rest cs' : List Char} {token : Token}
      (hblank : Text.isBlank c = false) (htoken : scanToken pos c rest = .ok (token, extra))
      (hrest : Scans (pos + 1 + extra) (rest.drop extra) pos' cs') : Scans pos (c :: rest) pos' cs'

/-- The scan goes on from a place that it comes to. -/
theorem Scans.tokensAfter_eq {pos pos' : Nat} {cs cs' : List Char} (hscans : Scans pos cs pos' cs') :
    ∀ found, ∃ found', tokensAfter found pos cs = tokensAfter found' pos' cs' := by
  induction hscans with
  | here => exact fun found => ⟨found, rfl⟩
  | blank hblank _ ih =>
    intro found
    rw [tokensAfter_blank _ _ _ hblank]
    exact ih found
  | token hblank htoken _ ih =>
    intro found
    rw [tokensAfter_scan _ _ _ hblank htoken]
    exact ih _

/-- A place where an escape stands in a text. The scan comes to a literal that is not raw, and the letter
    of the escape is in it, after a backslash that no other backslash escapes. -/
def EscapeAt (source : String) (letter : Char) (after : List Char) : Prop :=
  ∃ pos cs m before, Scans 0 source.toList pos cs ∧ quoteMark? cs = some m ∧ m.isRaw = false ∧
    LiteralBody m.quote before ∧ cs.drop (m.width + 1) = before ++ '\\' :: letter :: after

/-- A quoted literal starts with a quote or a mark, and its quote is one of the two. -/
theorem quoteMark?_eq_some {c : Char} {rest : List Char} {m : QuoteMark}
    (hm : quoteMark? (c :: rest) = some m) :
    (isQuote c = true ∨ isRawMark c = true ∨ isBytesMark c = true) ∧ isQuote m.quote = true := by
  unfold quoteMark? at hm
  grind

/-- No literal starts with a blank. -/
theorem isBlank_of_quoteMark? {c : Char} {rest : List Char} {m : QuoteMark}
    (hm : quoteMark? (c :: rest) = some m) : Text.isBlank c = false := by
  have hc := (quoteMark?_eq_some hm).1
  simp only [isQuote, isRawMark, isBytesMark, Bool.or_eq_true, beq_iff_eq] at hc
  rcases hc with (rfl | rfl) | (rfl | rfl) | (rfl | rfl) <;> rfl

/-- The quote of a literal is no backslash. -/
theorem quote_ne_backslash {c : Char} {rest : List Char} {m : QuoteMark}
    (hm : quoteMark? (c :: rest) = some m) : m.quote ≠ '\\' := by
  intro hquote
  have hm := (quoteMark?_eq_some hm).2
  rw [hquote] at hm
  exact absurd hm (by decide)

/-- In a text that is cut into tokens, the places of every escape by number hold digits. -/
theorem escapeNumber?_of_tokenize {source : String} {ts : List Located} {letter : Char} {count : Nat}
    {after : List Char} (htokens : tokenize source = .ok ts) (hplaces : EscapePlaces letter count)
    (hescape : EscapeAt source letter after) : (escapeNumber? count after).isSome = true := by
  obtain ⟨pos, cs, m, before, hscans, hm, hraw, hbefore, hcs⟩ := hescape
  cases cs with
  | nil => cases hm
  | cons c rest =>
    obtain ⟨found, hafter⟩ := hscans.tokensAfter_eq []
    rw [tokenize, hafter] at htokens
    obtain ⟨token, extra, htoken⟩ := scanToken_of_tokensAfter (isBlank_of_quoteMark? hm) htokens
    obtain ⟨m', next, hm', hquoted, -⟩ | ⟨hnone, -⟩ := scanToken_cases htoken
    · obtain rfl : m = m' := Option.some.inj (hm.symm.trans hm')
      have hquote := quote_ne_backslash hm
      rcases quotedToken_cases hquoted with ⟨_, hread, -⟩ | ⟨_, hread, -⟩
      · rw [hraw] at hread
        exact escapeNumber?_of_readQuoted hquote hplaces hbefore hcs hread
      · rw [hraw] at hread
        exact escapeNumber?_of_readQuoted hquote hplaces hbefore hcs hread
    · rw [hm] at hnone
      cases hnone

end Places

section Accepted

variable {quote letter : Char} {count n : Nat} {places : List Char}

private theorem escape_of_digits (hplaces : EscapePlaces letter count) (hdigits : AreDigits count places)
    (hn : hexNumber? places = some n) (hvalid : n.isValidChar) (pos : Nat) (rest : List Char) :
    escape Content.text pos letter (places ++ rest) = .ok ([Char.ofNat n], count) := by
  have hnumber : escapeNumber? count (places ++ rest) = some n :=
    (escapeNumber?_of_digits hdigits rest).trans hn
  have hscalar : scalar? n = some (Char.ofNat n) := by
    rw [scalar?, dif_pos hvalid, Char.ofNat, dif_pos hvalid]
  cases hplaces with
  | byte =>
    have hplain : plainEscape? 'x' = none := rfl
    simp [escape, hplain, hnumber, Content.text]
  | scalar =>
    have hplain : plainEscape? 'u' = none := rfl
    simp [escape, hplain, hnumber, hscalar, Content.text]

/-- A literal of one escape whose places hold digits is read as the character with their number. -/
theorem tokenize_of_digits (hquote : isQuote quote = true) (hplaces : EscapePlaces letter count)
    (hdigits : AreDigits count places) (hn : hexNumber? places = some n) (hvalid : n.isValidChar) :
    tokenize (String.ofList (quote :: '\\' :: letter :: places ++ [quote])) =
      .ok [⟨.str (String.ofList [Char.ofNat n]), 0⟩, ⟨.endOfInput, count + 4⟩] := by
  have hm (rest : List Char) : quoteMark? (quote :: rest) = some ⟨false, false, quote⟩ := by
    simp [quoteMark?, hquote]
  have hlength : (places ++ [quote]).length = count + 1 := by simp [hdigits.1]
  have hread : readQuoted .text false quote 0 1 [] ('\\' :: letter :: (places ++ [quote])) =
      .ok ([Char.ofNat n], count + 4) := by
    have hescape := escape_of_digits hplaces hdigits hn hvalid 3 [quote]
    have hdrop : (places ++ [quote]).drop count = [quote] := by rw [← hdigits.1, List.drop_left]
    rw [readQuoted_backslash _ _ _ _ _ (quote_ne_backslash (hm [])) hescape, hdrop, readQuoted_quote]
    exact congrArg (fun next => Except.ok ([Char.ofNat n], next)) (by omega)
  have hquoted := quotedToken_text (m := ⟨false, false, quote⟩) rfl hread
  have hscan : scanToken 0 quote ('\\' :: letter :: (places ++ [quote])) =
      .ok (.str (String.ofList [Char.ofNat n]), count + 3) := scanToken_quoted (hm _) hquoted
  have hdrop : ('\\' :: letter :: (places ++ [quote])).drop (count + 3) = [] :=
    List.drop_eq_nil_of_le (by simp [hlength])
  have hend : 0 + 1 + (count + 3) = count + 4 := by omega
  rw [tokenize, String.toList_ofList, List.cons_append, List.cons_append, List.cons_append,
    tokensAfter_scan _ _ _ (isBlank_of_quoteMark? (hm [])) hscan, hdrop, hend, tokensAfter_nil]
  rfl

end Accepted

/-- Wherever an escape by number stands in a literal that is not raw, the text is cut into tokens only if
    the places after the letter hold digits in base 16, or a sign and such digits. With anything else there
    the text is refused with a syntax error. With digits there, and nothing else in the literal, this is
    the text of the one character with their number. -/
theorem tokenize_escape {source : String} {letter : Char} {count : Nat} {after : List Char}
    (hplaces : EscapePlaces letter count) (hescape : EscapeAt source letter after) :
    (∀ ts, tokenize source = .ok ts →
        AreDigits count (after.take count) ∨ AreSignedDigits count (after.take count)) ∧
      (¬ AreDigits count (after.take count) → ¬ AreSignedDigits count (after.take count) →
        ∃ pos issue, tokenize source = .error (.syntaxError pos issue)) ∧
      ∀ quote places, isQuote quote = true → AreDigits count places →
        ∃ n, hexNumber? places = some n ∧ (n.isValidChar →
          tokenize (String.ofList (quote :: '\\' :: letter :: places ++ [quote])) =
            .ok [⟨.str (String.ofList [Char.ofNat n]), 0⟩, ⟨.endOfInput, count + 4⟩]) := by
  have haccepted (ts : List Located) (htokens : tokenize source = .ok ts) :=
    (isSome_escapeNumber?_iff hplaces.two_le).mp (escapeNumber?_of_tokenize htokens hplaces hescape)
  refine ⟨haccepted, fun hdigits hsigned => ?_, fun quote places hquote hdigits => ?_⟩
  · rcases tokenize_cases source with ⟨err, herr, pos, issue, rfl⟩ | ⟨us, last, htokens, -⟩
    · exact ⟨pos, issue, herr⟩
    · exact absurd (haccepted _ htokens) (not_or.mpr ⟨hdigits, hsigned⟩)
  · obtain ⟨n, hn⟩ := Option.isSome_iff_exists.mp (isSome_hexNumber?_iff.mpr hdigits.2)
    exact ⟨n, hn, tokenize_of_digits hquote hplaces hdigits hn⟩

/-- An escape with four digits in a literal after other tokens and another escape, and one with a letter in
    the place of its second digit. -/
theorem tokenize_escape_sample :
    let good := "b+'\\x41\\u00e9'"
    let bad := "'\\x4g'"
    EscapePlaces 'u' 4 ∧ EscapeAt good 'u' ['0', '0', 'e', '9', '\x27'] ∧
      tokenize good = .ok [⟨.ident "b", 0⟩, ⟨.plus, 1⟩, ⟨.str "Aé", 2⟩, ⟨.endOfInput, 14⟩] ∧
      AreDigits 4 ['0', '0', 'e', '9'] ∧
      EscapePlaces 'x' 2 ∧ EscapeAt bad 'x' ['4', 'g', '\x27'] ∧ ¬ AreDigits 2 ['4', 'g'] ∧
      ∃ pos issue, tokenize bad = .error (.syntaxError pos issue) := by
  intro good bad
  have hgood : EscapeAt good 'u' ['0', '0', 'e', '9', '\x27'] := by
    have htext : good.toList = 'b' :: '+' :: good.toList.drop 2 := by decide
    refine ⟨2, good.toList.drop 2, ⟨false, false, '\x27'⟩, ['\\', 'x', '4', '1'], ?_, ?_⟩
    · have hname : scanToken 0 'b' ('+' :: good.toList.drop 2) = .ok (.ident "b", 0) := by decide
      rw [htext]
      exact .token rfl hname (.token rfl rfl .here)
    · have hbefore : LiteralBody '\x27' ['\\', 'x', '4', '1'] :=
        .escaped (.plain (by simp) (by simp) (.plain (by simp) (by simp) .nil))
      exact ⟨by decide, rfl, hbefore, by decide⟩
  have hbad : EscapeAt bad 'x' ['4', 'g', '\x27'] :=
    ⟨0, bad.toList, ⟨false, false, '\x27'⟩, [], .here, by decide, rfl, .nil, by decide⟩
  have htokens : tokenize good = .ok [⟨.ident "b", 0⟩, ⟨.plus, 1⟩, ⟨.str "Aé", 2⟩, ⟨.endOfInput, 14⟩] := by
    with_unfolding_all decide
  have hsigned {digits : List Char} (hdigits : digits.head? ≠ some '+') (count : Nat) :
      ¬ AreSignedDigits count digits := by
    rintro ⟨_, rfl, -⟩
    exact hdigits rfl
  have hdigits := (tokenize_escape .scalar hgood).1 _ htokens
  have hletter : ¬ AreDigits 2 ['4', 'g'] := fun h => absurd (h.2 'g' (by simp)) (by decide)
  have herror := (tokenize_escape .byte hbad).2.1 hletter (hsigned (by decide) 2)
  exact ⟨.scalar, hgood, htokens, hdigits.resolve_right (hsigned (by decide) 4), .byte, hbad,
    hletter, herror⟩

/-- A sign is read in the place of the first digit. -/
theorem tokenize_signed_escape :
    EscapeAt "\"\\x+5\"" 'x' ['+', '5', '"'] ∧ ¬ AreDigits 2 ['+', '5'] ∧
      tokenize "\"\\x+5\"" = .ok [⟨.str "\x05", 0⟩, ⟨.endOfInput, 6⟩] := by
  refine ⟨?_, fun h => absurd (h.2 '+' List.mem_cons_self) (by decide), by with_unfolding_all decide⟩
  exact ⟨0, _, ⟨false, false, '"'⟩, [], .here, by decide, rfl, .nil, by decide⟩

end VulnProbe.Expr
