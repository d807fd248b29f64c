import VulnProbe.Failure
import VulnProbe.Proofs.Expr.Spelling.Integers

namespace VulnProbe.Failure

variable {k : Nat}

private theorem indexOfText?_toDigits (hk : k < countLimit) : indexOfText? (Nat.toDigits 10 k) = some k := by
  have hdigits : ∀ d ∈ Nat.toDigits 10 k, d.isDigit = true := fun d hd =>
    Nat.isDigit_of_mem_toDigits (by decide) (by decide) hd
  have hnumber := Expr.decimalNumber_toDigits k
  cases hchars : Nat.toDigits 10 k with
  | nil => exact absurd hchars Nat.toDigits_ne_nil
  | cons c ds =>
    rw [hchars] at hdigits hnumber
    have hplus : c ≠ '+' := by
      rintro rfl
      exact absurd (hdigits '+' List.mem_cons_self) (by decide)
    have hall : (c :: ds).all Char.isDigit = true := List.all_eq_true.mpr hdigits
    rw [indexOfText?, hall, ← Expr.decimalNumber, hnumber, if_pos hk]
    · rfl
    · intro rest hsigned
      exact hplus (List.cons.inj hsigned).1

/-- The label of a rule is read back as its index. -/
theorem indexOfLabel?_ruleLabel (hk : k < countLimit) : indexOfLabel? (ruleLabel k) = some k := by
  have hlabel : (ruleLabel k).toList = "rules[".toList ++ (Nat.toDigits 10 k ++ [']']) := by
    rw [ruleLabel, String.toList_append, String.toList_append, List.append_assoc]
    have hdigits : (toString k).toList = Nat.toDigits 10 k := Nat.toList_repr
    rw [hdigits]
    rfl
  have hlast : ("rules[".toList ++ (Nat.toDigits 10 k ++ [']'])).getLast? = some ']' := by
    rw [← List.append_assoc, List.getLast?_concat]
  have hopening : "rules[".toList.isPrefixOf ("rules[".toList ++ (Nat.toDigits 10 k ++ [']'])) = true :=
    List.isPrefixOf_iff_prefix.mpr (List.prefix_append _ _)
  have hlength : "rules[".toList.length < ("rules[".toList ++ (Nat.toDigits 10 k ++ [']'])).length := by
    rw [List.length_append, List.length_append, List.length_singleton]
    omega
  rw [indexOfLabel?, hlabel, hopening, hlast, decide_eq_true hlength, List.drop_left, List.dropLast_concat]
  exact indexOfText?_toDigits hk

/-- A failure that names no rule counts none. -/
theorem rulesExecuted_of_ruleIndex? {f : Failure} (hindex : f.ruleIndex? = none) :
    f.rulesExecuted = 0 := by
  unfold rulesExecuted
  rw [hindex]
  split
  · rename_i hsome
    cases hsome
  · rename_i hsome
    cases hsome
  · rfl

/-- The failure of an expression counts as one of probing exactly if its name reads as the label of a
    rule. -/
theorem stage_expression {name : String} {cause : ExprError} :
    (expression name cause).stage = .probe ↔ (indexOfLabel? name).isSome := by
  have hstage : (expression name cause).stage =
      if (indexOfLabel? name).isSome then .probe else .binding := rfl
  rw [hstage]
  cases indexOfLabel? name with
  | none => exact iff_of_false (by simp) (by simp)
  | some k => exact iff_of_true rfl rfl

private theorem rulesExecuted_expression {name : String} {cause : ExprError} :
    (expression name cause).rulesExecuted =
      match indexOfLabel? name with
      | some k => (k + 1) % countLimit
      | none => 0 := by
  unfold rulesExecuted
  have hindex : (expression name cause).ruleIndex? = indexOfLabel? name := rfl
  rw [hindex]
  cases indexOfLabel? name with
  | none => rfl
  | some k => rfl

/-- The failure of the expression of a rule counts that rule, and arises from probing. -/
theorem ofRule_account (cause : ExprError) (hk : k + 1 < countLimit) :
    (ofRule k cause).rulesExecuted = k + 1 ∧ (ofRule k cause).stage = .probe := by
  have hindex := indexOfLabel?_ruleLabel (Nat.lt_of_succ_lt hk)
  constructor
  · rw [ofRule, rulesExecuted_expression, hindex]
    exact Nat.mod_eq_of_lt hk
  · rw [ofRule, stage_expression, hindex]
    rfl

end VulnProbe.Failure
