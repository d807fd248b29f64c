import Mathlib.Control.Monad.Basic
import VulnProbe.Proofs.Expr.Numerals
import VulnProbe.Proofs.Expr.ReadBack
import VulnProbe.Proofs.Expr.Yields
import VulnProbe.Proofs.Text.Blank
import VulnProbe.Run.Registry

namespace VulnProbe

namespace Expr

section Reading

variable {i : Int}

/-- The text of an integer of 64 bits is read as that integer. -/
theorem intOfText?_toString (hi : inRange i = true) : intOfText? (toString i) = some i := by
  rw [intOfText?_eq_filter, numeral?_eq_some_iff.mpr (numeral_toString i), Option.filter_some, if_pos hi]

private theorem isBlank_of_mem_toString {c : Char} (hc : c ∈ (toString i).toList) : Text.isBlank c = false :=
  (numeral_toString i).isBlank_eq_false c hc

/-- An integer above the least one is parsed from its text. -/
theorem parse_toString (hmin : minInt < i) (hmax : i ≤ maxInt) :
    parse (toString i) = .ok (.literal (.int i)) := by
  have hpieces : ArePieces [.int i] := arePieces_cons.mpr ⟨⟨hmin, hmax⟩, arePieces_nil⟩
  obtain ⟨us, last, htokens, hus⟩ := tokenize_intercalate hpieces
  have hliteral : isPrintableLiteral (.int i) = true := by simp [isPrintableLiteral, hmin, hmax]
  obtain ⟨d, hd, hder⟩ := (derivesOwn_literal hliteral).expression
  have haccepts : Accepts (us.map (·.token)) (.literal (.int i)) := by
    have hmax : maxDepth = 128 := rfl
    rw [height] at hd
    exact ⟨by rw [height]; omega, d, by omega, hus ▸ hder⟩
  rw [List.map_singleton, String.intercalate_singleton] at htokens
  exact parse_eq_ok_iff_accepts.mpr ⟨us, last, htokens, haccepts⟩

/-- The digits of the least integer are those of a number above the greatest one. -/
theorem parse_toString_least : parse (toString minInt) = .error (.syntaxError 1 .badInteger) := by
  have htokens : tokenize (toString minInt) = .error (.syntaxError 1 .badInteger) := by
    with_unfolding_all decide
  rw [parse, htokens]

end Reading

end Expr

/-- A text without blanks at its ends that writes an integer is declared as one. -/
theorem inferType_of_intOfText? {s : String} {i : Int} (htrim : Text.trim s = s)
    (hs : Expr.intOfText? s = some i) : inferType s = .ok .int := by
  -- none of the texts that are declared otherwise writes an integer
  have hne {t : String} (ht : Expr.intOfText? t = none) : s ≠ t := by
    rintro rfl
    exact absurd (hs.symm.trans ht) (Option.some_ne_none i)
  have hempty : s ≠ "" := hne rfl
  have hreverse : s ≠ Expr.newReverseSource := hne rfl
  have hrequest : s ≠ requestName := hne rfl
  have hresponse : s ≠ responseName := hne rfl
  have htrue : s ≠ "true" := hne rfl
  have hfalse : s ≠ "false" := hne rfl
  simp [inferType, htrim, hs, hempty, hreverse, hrequest, hresponse, htrue, hfalse]

namespace Expr

/-- Of the integers of 64 bits, all but the least one are parsed from their text. The text of the least one
    is refused at its first digit, and is declared as an integer like the others. -/
theorem parse_text_int {i : Int} (hi : inRange i = true) :
    (parse (Value.int i).text = .ok (.literal (.int i)) ↔ i ≠ minInt) ∧
      (i = minInt → parse (Value.int i).text = .error (.syntaxError 1 .badInteger)) ∧
        inferType (Value.int i).text = .ok .int := by
  have hbounds := inRange_iff.mp hi
  have htrim : Text.trim (toString i) = toString i :=
    Text.trim_of_forall fun c => isBlank_of_mem_toString
  refine ⟨⟨?_, fun hne => ?_⟩, ?_, inferType_of_intOfText? htrim (intOfText?_toString hi)⟩
  · rintro hparse rfl
    cases parse_toString_least.symm.trans hparse
  · exact parse_toString (by omega) hbounds.2
  · rintro rfl
    exact parse_toString_least

/-- The integer next to the least one is read back. -/
theorem parse_text_int_lowest :
    let i := minInt + 1
    inRange i = true ∧ (Value.int i).text = "-9223372036854775807" ∧
      parse (Value.int i).text = .ok (.literal (.int i)) ∧ inferType (Value.int i).text = .ok .int := by
  intro i
  have hi : inRange i = true := by decide
  obtain ⟨hparse, -, hinfer⟩ := parse_text_int hi
  exact ⟨hi, by decide, hparse.mpr (by decide), hinfer⟩

/-- The least integer is not read back, though its text is declared as an integer. -/
theorem parse_text_least :
    (Value.int minInt).text = "-9223372036854775808" ∧
      parse "-9223372036854775808" = .error (.syntaxError 1 .badInteger) ∧
      inferType "-9223372036854775808" = .ok .int := by
  have htext : toString minInt = "-9223372036854775808" := by decide
  exact ⟨htext, htext ▸ parse_toString_least, by decide⟩

end Expr

end VulnProbe
