import VulnProbe.Proofs.Expr.Tokenize
import VulnProbe.Proofs.Text.Utf8

namespace VulnProbe.Expr

/-- The content of a text literal that is collected in UTF-8 bytes. -/
def Content.collected : Content UInt8 where
  char := String.utf8EncodeChar
  byte n := String.utf8EncodeChar (Char.ofNat n)

/-- The wording of a text literal whose bytes are not well-formed. -/
def malformedText : String := "string literal is not valid UTF-8"

/-- A text literal whose bytes are collected first and decoded then. Bytes that are not well-formed are a
    fault at the literal. -/
def collectedToken (m : QuoteMark) (pos : Nat) (rest : List Char) : Except ExprError (Token × Nat) := do
  let quotePos := pos + m.width
  let (bytes, next) ← readQuoted .collected m.isRaw m.quote quotePos (quotePos + 1) [] rest
  match Utf8.decode? bytes with
  | some s => pure (.str s, next)
  | none => .error (.syntaxError pos (.reported malformedText))

section Encoded

/-- Characters that were read, or were stood for, as their bytes. -/
def encodedRead (r : Except ExprError (List Char × Nat)) : Except ExprError (List UInt8 × Nat) :=
  r.map fun read => (Utf8.encode read.1, read.2)

/-- Characters that were read come as their bytes. -/
@[simp] theorem encodedRead_ok (cs : List Char) (next : Nat) :
    encodedRead (.ok (cs, next)) = .ok (Utf8.encode cs, next) :=
  rfl

/-- A fault stays as it is. -/
@[simp] theorem encodedRead_error (err : ExprError) : encodedRead (.error err) = .error err :=
  rfl

/-- A character that stands for itself is collected as its bytes. -/
@[simp] theorem encode_text_char (c : Char) :
    Utf8.encode (Content.text.char c) = Content.collected.char c :=
  List.append_nil _

/-- An escape by number is collected as the bytes of the character with this number. -/
@[simp] theorem encode_text_byte (n : Nat) :
    Utf8.encode (Content.text.byte n) = Content.collected.byte n :=
  List.append_nil _

private theorem escape_collected (pos : Nat) (letter : Char) (cs : List Char) :
    escape .collected pos letter cs = encodedRead (escape .text pos letter cs) := by
  unfold escape
  split
  · simp
  split
  · split <;> simp
  split
  · split <;> simp
  · simp

private theorem readQuoted_collected (isRaw : Bool) (quote : Char) (start pos : Nat) (read cs : List Char) :
    readQuoted .collected isRaw quote start pos (Utf8.encode read.reverse).reverse cs =
      encodedRead (readQuoted .text isRaw quote start pos read cs) := by
  fun_induction readQuoted .text isRaw quote start pos read cs with
  | case1 =>
    rw [readQuoted.eq_def]
    rfl
  | case2 pos read c rest hc =>
    rw [readQuoted.eq_def]
    simp only [if_pos hc, List.reverse_reverse, encodedRead_ok]
  | case3 pos read c hc hbackslash =>
    rw [readQuoted.eq_def]
    simp only [if_neg hc, if_pos hbackslash]
    rfl
  | case4 pos read c hc hbackslash letter rest err hescape =>
    have hcollected := escape_collected (pos + 2) letter rest
    rw [hescape] at hcollected
    rw [readQuoted.eq_def]
    simp only [if_neg hc, if_pos hbackslash, hcollected]
    rfl
  | case5 pos read c hc hbackslash letter rest items extra hescape ih =>
    have hcollected := escape_collected (pos + 2) letter rest
    rw [hescape] at hcollected
    rw [readQuoted.eq_def]
    simp only [if_neg hc, if_pos hbackslash, hcollected]
    rw [← ih]
    simp
  | case6 pos read c rest hc hbackslash ih =>
    rw [readQuoted.eq_def]
    simp only [if_neg hc, if_neg hbackslash]
    simpa using ih

end Encoded

/-- The bytes of a text literal are those of its characters, so that they are well-formed. -/
theorem collectedToken_eq {m : QuoteMark} (hm : m.isBytes = false) (pos : Nat) (rest : List Char) :
    collectedToken m pos rest = quotedToken m pos rest := by
  have hread := readQuoted_collected m.isRaw m.quote (pos + m.width) (pos + m.width + 1) [] rest
  rw [List.reverse_nil, Utf8.encode_nil, List.reverse_nil] at hread
  simp only [collectedToken, quotedToken, hm, hread, Bool.false_eq_true, if_false]
  cases readQuoted .text m.isRaw m.quote (pos + m.width) (pos + m.width + 1) [] rest with
  | error err => rfl
  | ok read =>
    obtain ⟨cs, next⟩ := read
    have hdecode : Utf8.decode? (Utf8.encode cs) = some (String.ofList cs) := by
      rw [Utf8.decode?, Utf8.decodeChars?_eq_some_iff.mpr rfl]
      rfl
    simp only [encodedRead_ok, bind, Except.bind, hdecode]

end VulnProbe.Expr
