import VulnProbe.Proofs.Expr.Spelling.Integers
import VulnProbe.Proofs.Text.Utf8
import VulnProbe.Run.Probe

namespace VulnProbe

private theorem Url.colon_mem_text (u : Url) : ':' ∈ u.text.toList := by
  simp [text]

namespace Value

variable {v : Value} {t : String}

section Words

/-- A text of letters. -/
def IsWord (t : String) : Prop :=
  ∀ c ∈ t.toList, c.isAlpha = true

private theorem not_isWord_of_mem {c : Char} (hmem : c ∈ t.toList) (hc : c.isAlpha = false) : ¬ IsWord t := by
  intro ht
  cases hc.symm.trans (ht c hmem)

private theorem not_isWord_toString (i : Int) : ¬ IsWord (toString i) := by
  obtain ⟨d, ds, hdigits, hd⟩ := Expr.exists_toDigits_cons i.natAbs
  intro hi
  have hmem : d ∈ (toString i).toList := by
    rw [Expr.toList_toString_int, hdigits]
    split <;> simp
  have hletter := Expr.toNat_of_isAlpha (hi d hmem)
  have hdigit := Expr.toNat_of_isDigit hd
  omega

/-- Bytes have a word for their text form only if they are its UTF-8: no letter stands for a malformed
    part. -/
theorem text_bytes_eq_word_iff {bs : List UInt8} (ht : IsWord t) :
    (Value.bytes bs).text = t ↔ bs = Utf8.ofString t := by
  have hmark : '\uFFFD' ∉ t.toList := fun hmem => not_isWord_of_mem hmem rfl ht
  rw [text, Utf8.decodeLossy_eq_iff hmark, eq_comm]

/-- Nothing, or a truth value; each has a word of its own for its text form. -/
def IsConstant (v : Value) : Prop :=
  v = .null ∨ ∃ b, v = .bool b

/-- A word is the text form of the constant that it names, if it names one, of itself and of its UTF-8. -/
theorem text_eq_word_iff (ht : IsWord t) :
    v.text = t ↔ v.IsConstant ∧ v.text = t ∨ v = .string t ∨ v = .bytes (Utf8.ofString t) := by
  -- all but the first four kinds have a character in their text form that no word has
  have hmarked (hv : ¬ IsWord v.text) : v.text ≠ t := fun htext => hv (htext ▸ ht)
  cases v with
  | null => simp [IsConstant]
  | bool b => simp [IsConstant]
  | string s => simp [text, IsConstant]
  | bytes bs => simp [text_bytes_eq_word_iff ht, IsConstant]
  | int i => simp [hmarked (not_isWord_toString i), IsConstant]
  | response r => simp [hmarked (not_isWord_toString r.status), IsConstant]
  | list items =>
    have hbracket : '[' ∈ (Value.list items).text.toList := by simp [text]
    simp [hmarked (not_isWord_of_mem hbracket rfl), IsConstant]
  | map entries =>
    have hbracket : '[' ∈ (Value.map entries).text.toList := by simp [text]
    simp [hmarked (not_isWord_of_mem hbracket rfl), IsConstant]
  | url u | request u | reverse u =>
    simp [hmarked (not_isWord_of_mem u.colon_mem_text rfl), IsConstant]

end Words

/-- A value that is false, or that writes it as a text or as bytes. -/
def SaysFalse (v : Value) : Prop :=
  v = .bool false ∨ v = .string "false" ∨ v = .bytes [0x66, 0x61, 0x6C, 0x73, 0x65]

/-- The text form that rejects a run is that of the values that say false. -/
theorem text_eq_rejection_iff : v.text = Run.rejection ↔ v.SaysFalse := by
  have hword : IsWord Run.rejection := List.all_eq_true.mp rfl
  have hbytes : Utf8.ofString Run.rejection = [0x66, 0x61, 0x6C, 0x73, 0x65] := by decide
  have hconstant : v.IsConstant ∧ v.text = Run.rejection ↔ v = .bool false := by
    constructor
    · rintro ⟨rfl | ⟨b, rfl⟩, htext⟩
      · exact absurd htext (by decide)
      · cases b with
        | false => rfl
        | true => exact absurd htext (by decide)
    · rintro rfl
      exact ⟨.inr ⟨false, rfl⟩, rfl⟩
  rw [text_eq_word_iff hword, hconstant, hbytes]
  exact Iff.rfl

end Value

namespace Run

/-- What a judgement can come to: the expression of the rule fails, or it has a value that says false, or it
    has one that does not. -/
theorem judge_cases (run : Run) (context : Context) (draws : Expr.Draws) (index : Nat) (rule : Rule) :
    (∃ cause, context.registry.evaluate run.params draws rule.expression = .error cause ∧
      run.judge context draws index rule = (.error (.ofRule index cause), run.finish .aborted)) ∨
    (∃ v, context.registry.evaluate run.params draws rule.expression = .ok v ∧ v.SaysFalse ∧
      run.judge context draws index rule = (.ok false, run.finish .rejected)) ∨
    ∃ v, context.registry.evaluate run.params draws rule.expression = .ok v ∧ ¬ v.SaysFalse ∧
      run.judge context draws index rule = (.ok true, run) := by
  rw [judge]
  cases context.registry.evaluate run.params draws rule.expression with
  | error cause => exact .inl ⟨cause, rfl, rfl⟩
  | ok v =>
    by_cases htext : v.text = rejection
    · refine .inr (.inl ⟨v, rfl, Value.text_eq_rejection_iff.mp htext, ?_⟩)
      simp only [htext, BEq.rfl, if_true]
    · refine .inr (.inr ⟨v, rfl, mt Value.text_eq_rejection_iff.mpr htext, ?_⟩)
      simp only [beq_false_of_ne htext, Bool.false_eq_true, if_false]

/-- Only a genuine `false` rejects a run. Whatever a value is made of, its text form is the one that verdicts
    look for exactly if it is the truth value, the text or the five bytes of the text; so a rule rejects
    the run exactly if its expression comes to one of these, and lets it go on as it is exactly if the
    expression comes to any other value. -/
theorem judge_rejects_only_false :
    (∀ v : Value, v.text = rejection ↔
      v = .bool false ∨ v = .string "false" ∨ v = .bytes [0x66, 0x61, 0x6C, 0x73, 0x65]) ∧
    ∀ (run : Run) (context : Context) (draws : Expr.Draws) (index : Nat) (rule : Rule),
      (run.judge context draws index rule = (.ok false, run.finish .rejected) ↔
        ∃ v, context.registry.evaluate run.params draws rule.expression = .ok v ∧ v.SaysFalse) ∧
      (run.judge context draws index rule = (.ok true, run) ↔
        ∃ v, context.registry.evaluate run.params draws rule.expression = .ok v ∧ ¬ v.SaysFalse) := by
  refine ⟨fun v => Value.text_eq_rejection_iff, fun run context draws index rule => ?_⟩
  rcases run.judge_cases context draws index rule with
    ⟨cause, hfault, hjudge⟩ | ⟨v, hvalue, hv, hjudge⟩ | ⟨v, hvalue, hv, hjudge⟩
  · simp [hfault, hjudge]
  · simp [hvalue, hjudge, hv]
  · simp [hvalue, hjudge, hv]

end Run

end VulnProbe
