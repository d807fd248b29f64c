import VulnProbe.Expr.Parser
import VulnProbe.Proofs.Expr.Conversions
import VulnProbe.Proofs.Expr.Numerals
import VulnProbe.Proofs.Text.Stripped

namespace VulnProbe.Expr

variable {env : String → Option Value} {e : Expr} {s : String} {i j : Int}

section Texts

/-- A text is a numeral of an integer among blanks. -/
def WritesInt (s : String) (i : Int) : Prop :=
  ∃ front numeral back : List Char, s.toList = front ++ (numeral ++ back) ∧
    (∀ c ∈ front, Text.isBlank c = true) ∧ (∀ c ∈ back, Text.isBlank c = true) ∧ Numeral numeral i

private theorem writesInt_iff : WritesInt s i ↔ Numeral (Text.trim s).toList i := by
  constructor
  · rintro ⟨front, numeral, back, hs, hfront, hback, hnumeral⟩
    have hplain := hnumeral.isBlank_eq_false
    have htrim : Text.trimChars s.toList = numeral := by
      rw [hs]
      exact Text.trimChars_between hfront hback (fun c hc => hplain c (List.mem_of_mem_head? hc))
        fun c hc => hplain c (List.mem_of_mem_getLast? hc)
    rwa [Text.trim, String.toList_ofList, htrim]
  · intro hnumeral
    obtain ⟨front, back, hs, hfront, hback⟩ := Text.exists_blanks_of_trim s
    exact ⟨front, _, back, hs, hfront, hback, hnumeral⟩

/-- A text writes at most one integer. -/
theorem WritesInt.unique (hi : WritesInt s i) (hj : WritesInt s j) : i = j :=
  (writesInt_iff.mp hi).unique (writesInt_iff.mp hj)

private theorem intOfText?_trim_eq_some_iff :
    intOfText? (Text.trim s) = some i ↔ WritesInt s i ∧ inRange i = true := by
  rw [intOfText?_eq_filter, Option.filter_eq_some_iff, numeral?_eq_some_iff, writesInt_iff]

/-- The text of an integer writes it, whatever blanks are put around it. -/
theorem writesInt_toString {p q : String} (hp : Text.isBlankText p = true) (hq : Text.isBlankText q = true)
    (i : Int) : WritesInt (p ++ toString i ++ q) i := by
  refine ⟨p.toList, (toString i).toList, q.toList, ?_, List.all_eq_true.mp hp, List.all_eq_true.mp hq,
    numeral_toString i⟩
  rw [String.toList_append, String.toList_append, List.append_assoc]

end Texts

section Calls

/-- The integer that a text is converted to. -/
def intCall (text : Expr) : Expr :=
  .call "int" [text]

/-- The text of an integer between two other texts. -/
def paddedText (before middle after : Expr) : Expr :=
  .binary .add (.binary .add before (.call "string" [middle])) after

private theorem value_intCall (he : Yields env e (.string s)) (draws : Draws) :
    value env draws (intCall e) =
      match intOfText? (Text.trim s) with
      | some i => .ok (.int i)
      | none => .error (.notInteger s) := by
  refine (value_call .int (.cons he .nil) draws).trans ?_
  cases hfound : intOfText? (Text.trim s) with
  | none => simp only [Builtin.apply, oneArg, bind, Except.bind, hfound]
  | some i => simp only [Builtin.apply, oneArg, bind, Except.bind, hfound]

private theorem yields_intCall (he : Yields env e (.string s)) (hs : WritesInt s i) (hi : inRange i = true) :
    Yields env (intCall e) (.int i) := by
  refine yields_iff.mpr fun draws => ?_
  rw [value_intCall he, intOfText?_trim_eq_some_iff.mpr ⟨hs, hi⟩]

/-- A text that writes no integer of 64 bits is refused. -/
theorem evaluate_intCall_eq_error (he : Yields env e (.string s))
    (hs : ∀ i, WritesInt s i → inRange i = false) (draws : Draws) :
    (intCall e).evaluate env draws = .error (.runtimeError (.notInteger s)) := by
  rw [evaluate_eq_error_iff, value_intCall he]
  cases hfound : intOfText? (Text.trim s) with
  | none => rfl
  | some i =>
    obtain ⟨hwrites, hi⟩ := intOfText?_trim_eq_some_iff.mp hfound
    cases hi.symm.trans (hs i hwrites)

private theorem evaluate_intCall_eq_ok_iff {v : Value} (he : Yields env e (.string s)) (draws : Draws) :
    (intCall e).evaluate env draws = .ok v ↔ ∃ i, v = .int i ∧ WritesInt s i ∧ inRange i = true := by
  constructor
  · intro hv
    rw [evaluate_eq_ok_iff, value_intCall he] at hv
    cases hfound : intOfText? (Text.trim s) with
    | none => simp [hfound] at hv
    | some i =>
      rw [hfound] at hv
      exact ⟨i, (Except.ok.inj hv).symm, intOfText?_trim_eq_some_iff.mp hfound⟩
  · rintro ⟨i, rfl, hs, hi⟩
    exact yields_intCall he hs hi draws

end Calls

/-- An integer of 64 bits comes back from its text, whatever blanks are put around it. A text is converted to
    an integer exactly if it writes it, in digits with a sign or without one and among blanks, and if 64
    bits hold it. A text that writes an integer out of this range fails and so does one that writes none. -/
theorem intCall_reads_numerals (env : String → Option Value) :
    (∀ {before middle after : Expr} {p q : String} {i : Int}, Yields env before (.string p) →
      Yields env middle (.int i) → Yields env after (.string q) → Text.isBlankText p = true →
      Text.isBlankText q = true → inRange i = true →
        Yields env (intCall (paddedText before middle after)) (.int i)) ∧
    ∀ {e : Expr} {s : String}, Yields env e (.string s) → ∀ draws : Draws,
      (∀ v, (intCall e).evaluate env draws = .ok v ↔
        ∃ i, v = .int i ∧ WritesInt s i ∧ inRange i = true) ∧
      (∀ i, WritesInt s i → inRange i = false →
        (intCall e).evaluate env draws = .error (.runtimeError (.notInteger s))) ∧
      ((∀ i, ¬ WritesInt s i) →
        (intCall e).evaluate env draws = .error (.runtimeError (.notInteger s))) := by
  constructor
  · intro before middle after p q i hbefore hmiddle hafter hp hq hi
    have htext := (hbefore.append (yields_string hmiddle)).append hafter
    rw [Value.text] at htext
    exact yields_intCall htext (writesInt_toString hp hq i) hi
  · intro e s he draws
    refine ⟨fun v => evaluate_intCall_eq_ok_iff he draws, fun i hs hi => ?_, fun hs => ?_⟩
    · exact evaluate_intCall_eq_error he (fun j hj => hs.unique hj ▸ hi) draws
    · exact evaluate_intCall_eq_error he (fun i hi => absurd hi (hs i)) draws

/-- The least integer comes back from between a tab and an ideographic space. A sign and leading zeros are
    read; one above the greatest integer is refused, as are two numerals with a space between them. -/
theorem intCall_reads_numerals_sample :
    let env : String → Option Value := fun name =>
      if name = "i" then some (.int minInt) else if name = "p" then some (.string "\t")
      else some (.string "\u3000")
    let text (s : String) : Expr := .literal (.string s)
    let padded : Expr := paddedText (.ident "p") (.ident "i") (.ident "q")
    parse "int(p + string(i) + q)" = .ok (intCall padded) ∧ Yields env (intCall padded) (.int minInt) ∧
      ∀ draws, (intCall (text " +007\n")).evaluate env draws = .ok (.int 7) ∧
        (intCall (text "9223372036854775808")).evaluate env draws =
          .error (.runtimeError (.notInteger "9223372036854775808")) ∧
        (intCall (text "1 2")).evaluate env draws = .error (.runtimeError (.notInteger "1 2")) := by
  intro env text padded
  obtain ⟨hpadded, hcalls⟩ := intCall_reads_numerals env
  have htokens : tokenize "int(p + string(i) + q)" =
      .ok [⟨.ident "int", 0⟩, ⟨.lparen, 3⟩, ⟨.ident "p", 4⟩, ⟨.plus, 6⟩, ⟨.ident "string", 8⟩,
        ⟨.lparen, 14⟩, ⟨.ident "i", 15⟩, ⟨.rparen, 16⟩, ⟨.plus, 18⟩, ⟨.ident "q", 20⟩,
        ⟨.rparen, 21⟩, ⟨.endOfInput, 22⟩] := by
    with_unfolding_all decide
  have hparse : parse "int(p + string(i) + q)" = .ok (intCall padded) := by
    rw [parse, htokens]
    rfl
  have hdigits : IsDigits ['0', '0', '7'] := ⟨List.cons_ne_nil _ _, List.all_eq_true.mp rfl⟩
  have hseven : WritesInt " +007\n" 7 :=
    ⟨[' '], ['+', '0', '0', '7'], ['\n'], rfl, List.all_eq_true.mp rfl, List.all_eq_true.mp rfl,
      .plus hdigits⟩
  have habove : WritesInt "9223372036854775808" 9223372036854775808 :=
    ⟨[], _, [], rfl, List.forall_mem_nil _, List.forall_mem_nil _, numeral_toString 9223372036854775808⟩
  have htwo (i : Int) : ¬ WritesInt "1 2" i := by
    rw [writesInt_iff]
    intro hnumeral
    cases hnumeral.isBlank_eq_false ' ' (by decide)
  refine ⟨hparse, hpadded (yields_ident rfl) (yields_ident rfl) (yields_ident rfl) rfl rfl rfl,
    fun draws => ⟨?_, ?_, ?_⟩⟩
  · exact ((hcalls (yields_literal _) draws).1 _).mpr ⟨7, rfl, hseven, rfl⟩
  · exact (hcalls (yields_literal _) draws).2.1 _ habove rfl
  · exact (hcalls (yields_literal _) draws).2.2 htwo

end VulnProbe.Expr
