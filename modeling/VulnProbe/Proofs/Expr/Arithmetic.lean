import VulnProbe.Expr.Typing
import VulnProbe.Proofs.Expr.Induction
import VulnProbe.Proofs.Expr.Yields

namespace VulnProbe.Expr

/-- Trees of integer literals and integer variables with arithmetic operators and minus signs. All
    integers that come in have 64 bits. -/
inductive IsArithmetic (env : String → Option Value) : Expr → Prop where
  | literal {i : Int} (hi : inRange i = true) : IsArithmetic env (.literal (.int i))
  | ident {name : String} {i : Int} (hname : env name = some (.int i)) (hi : inRange i = true) :
      IsArithmetic env (.ident name)
  | minus {e : Expr} (he : IsArithmetic env e) : IsArithmetic env (.unary .neg e)
  | binary {op : BinaryOp} {lhs rhs : Expr} (hop : op.isArithmetic = true)
      (hlhs : IsArithmetic env lhs) (hrhs : IsArithmetic env rhs) :
      IsArithmetic env (.binary op lhs rhs)

/-- The exact result of an arithmetic operator, with quotients rounded towards zero. There is none for a
    divisor of zero. -/
def BinaryOp.exactResult? (op : BinaryOp) (a b : Int) : Option Int :=
  match op with
  | .add => some (a + b)
  | .sub => some (a - b)
  | .mul => some (a * b)
  | .div => if b = 0 then none else some (a.tdiv b)
  | .rem => if b = 0 then none else some (a.tmod b)
  | _ => none

/-- The exact value of a tree over the integers, if all its divisors are other than zero. -/
def exactValue? (env : String → Option Value) : Expr → Option Int
  | .literal (.int i) => some i
  | .ident name =>
    match env name with
    | some (.int i) => some i
    | _ => none
  | .unary .neg e => (exactValue? env e).map (-·)
  | .binary op lhs rhs =>
    (exactValue? env lhs).bind fun a => (exactValue? env rhs).bind fun b => op.exactResult? a b
  | _ => none

/-- The operator whose exact result must have 64 bits: a remainder needs its quotient to. -/
def BinaryOp.measured : BinaryOp → BinaryOp
  | .rem => .div
  | op => op

/-- Why a tree fails by itself: its divisor is zero, or an exact number does not have 64 bits. -/
inductive FailsAt (env : String → Option Value) : RuntimeIssue → Expr → Prop where
  | divisor {op : BinaryOp} {lhs rhs : Expr} (hop : op = .div ∨ op = .rem)
      (hrhs : exactValue? env rhs = some 0) : FailsAt env .divisionByZero (.binary op lhs rhs)
  | result {op : BinaryOp} {lhs rhs : Expr} {a b i : Int} (hlhs : exactValue? env lhs = some a)
      (hrhs : exactValue? env rhs = some b) (hi : op.measured.exactResult? a b = some i)
      (hrange : inRange i = false) : FailsAt env .overflow (.binary op lhs rhs)
  | minus {e : Expr} {i : Int} (he : exactValue? env e = some i) (hrange : inRange (-i) = false) :
      FailsAt env .overflow (.unary .neg e)

private theorem bounded_cases (i : Int) :
    bounded i = .ok (.int i) ∧ inRange i = true ∨ bounded i = .error .overflow ∧ inRange i = false := by
  unfold bounded
  cases inRange i with
  | true => exact .inl ⟨rfl, rfl⟩
  | false => exact .inr ⟨rfl, rfl⟩

/-- A remainder lies between zero and the dividend. -/
theorem tmod_between (a b : Int) :
    0 ≤ a.tmod b ∧ a.tmod b ≤ a ∨ a ≤ a.tmod b ∧ a.tmod b ≤ 0 := by
  have hsize : (a.tmod b).natAbs ≤ a.natAbs := by
    rw [Int.natAbs_tmod]
    exact Nat.mod_le _ _
  rcases Int.le_total 0 a with ha | ha
  · have hsign := Int.tmod_nonneg b ha
    omega
  · have hsign := Int.tmod_nonneg b (Int.neg_nonneg_of_nonpos ha)
    rw [Int.neg_tmod] at hsign
    omega

private theorem inRange_tmod {a : Int} (ha : inRange a = true) (b : Int) : inRange (a.tmod b) = true := by
  have hbetween := tmod_between a b
  simp only [inRange_iff, minInt, maxInt] at ha ⊢
  omega

/-- What a quotient accounts for of the dividend is in range, too. -/
theorem inRange_tdiv_mul {a : Int} (ha : inRange a = true) (b : Int) :
    inRange (a.tdiv b * b) = true := by
  have hbetween := tmod_between a b
  have hsum := Int.tdiv_mul_add_tmod a b
  simp only [inRange_iff, minInt, maxInt] at ha ⊢
  omega

section Operators

/-- What an arithmetic operator may come to over two integers. -/
inductive Computes (op : BinaryOp) (a b : Int) : Outcome Value → Prop where
  | result {i j : Int} (hi : op.exactResult? a b = some i) (hrange : inRange i = true)
      (hj : op.measured.exactResult? a b = some j) (hmeasured : inRange j = true) :
      Computes op a b (.ok (.int i))
  | divisor (hop : op = .div ∨ op = .rem) (hb : b = 0) : Computes op a b (.error .divisionByZero)
  | range {j : Int} (hj : op.measured.exactResult? a b = some j) (hrange : inRange j = false) :
      Computes op a b (.error .overflow)

variable {op : BinaryOp} {a b : Int}

private theorem computes_bounded {i : Int} (hi : op.exactResult? a b = some i)
    (hmeasured : op.measured.exactResult? a b = some i) : Computes op a b (bounded i) := by
  rcases bounded_cases i with ⟨hok, hrange⟩ | ⟨herror, hrange⟩
  · rw [hok]
    exact .result hi hrange hmeasured hrange
  · rw [herror]
    exact .range hmeasured hrange

private theorem computes_applyDivision (hop : op = .div ∨ op = .rem) {i : Int}
    (hi : b ≠ 0 → op.exactResult? a b = some i)
    (hrange : inRange (a.tdiv b) = true → inRange i = true) : Computes op a b (applyDivision i a b) := by
  unfold applyDivision
  split
  · rename_i hb
    exact .divisor hop hb
  rename_i hb
  have hquotient : op.measured.exactResult? a b = some (a.tdiv b) := by
    rcases hop with rfl | rfl <;> simp [BinaryOp.measured, BinaryOp.exactResult?, hb]
  cases hmeasured : inRange (a.tdiv b) with
  | true => exact .result (hi hb) (hrange hmeasured) hquotient hmeasured
  | false => exact .range hquotient hmeasured

/-- An arithmetic operator gives its exact result, or fails for its divisor or for a number that does not
    have 64 bits. -/
theorem computes_applyToInts (hop : op.isArithmetic = true) (ha : inRange a = true) :
    Computes op a b (applyToInts op a b) := by
  cases op with
  | add => exact computes_bounded rfl rfl
  | sub => exact computes_bounded rfl rfl
  | mul => exact computes_bounded rfl rfl
  | div => exact computes_applyDivision (.inl rfl) (fun hb => if_neg hb) id
  | rem => exact computes_applyDivision (.inr rfl) (fun hb => if_neg hb) fun _ => inRange_tmod ha b
  | _ => cases hop

end Operators

section Trees

/-- What a tree may come to: its exact value, with no fault anywhere in it, or the issue of a fault. -/
inductive ComesTo (env : String → Option Value) (e : Expr) : Outcome Value → Prop where
  | value {i : Int} (hi : exactValue? env e = some i) (hrange : inRange i = true)
      (hsound : ∀ issue sub, Within sub e → ¬ FailsAt env issue sub) : ComesTo env e (.ok (.int i))
  | fault {issue : RuntimeIssue} {sub : Expr} (hwithin : Within sub e)
      (hfails : FailsAt env issue sub) : ComesTo env e (.error issue)

variable {env : String → Option Value} {e : Expr}

/-- The operands of an arithmetic operator are both evaluated. -/
theorem value_arithmetic {op : BinaryOp} (hop : op.isArithmetic = true) (lhs rhs : Expr)
    (draws : Draws) :
    value env draws (.binary op lhs rhs) =
      value env (draws.child 0) lhs >>= fun l =>
        value env (draws.child 1) rhs >>= fun r => applyBinary op l r := by
  cases op with
  | add | sub | mul | div | rem => simp only [value]
  | _ => cases hop

private theorem applyBinary_int {op : BinaryOp} (hop : op.isArithmetic = true) (a b : Int) :
    applyBinary op (.int a) (.int b) = applyToInts op a b := by
  cases op with
  | add | sub | mul | div | rem => rfl
  | _ => cases hop

/-- No fault is in a tree of which neither the parts nor the tree itself has one. -/
theorem sound_of_parts (hself : ∀ issue, ¬ FailsAt env issue e)
    (hparts : ∀ p ∈ e.parts, ∀ issue sub, Within sub p → ¬ FailsAt env issue sub) :
    ∀ issue sub, Within sub e → ¬ FailsAt env issue sub := by
  intro issue sub hwithin
  cases hwithin with
  | self => exact hself issue
  | part hp hwithin => exact hparts _ hp issue sub hwithin

private theorem comesTo_minus (he : ∀ draws, ComesTo env e (value env draws e)) (draws : Draws) :
    ComesTo env (.unary .neg e) (value env draws (.unary .neg e)) := by
  have he := he (draws.child 0)
  rw [value]
  generalize value env (draws.child 0) e = outcome at he ⊢
  cases he with
  | fault hwithin hfails => exact .fault (.part (by simp [parts]) hwithin) hfails
  | @value i hi hrange hsound =>
    have happly : (Except.ok (.int i) >>= fun v => applyUnary .neg v) = bounded (-i) := rfl
    rw [happly]
    rcases bounded_cases (-i) with ⟨hok, hnegated⟩ | ⟨herror, hnegated⟩
    · have hself (issue : RuntimeIssue) : ¬ FailsAt env issue (.unary .neg e) := by
        rintro (_ | _ | ⟨hi', hout⟩)
        rw [Option.some.inj (hi.symm.trans hi'), hout] at hnegated
        cases hnegated
      rw [hok]
      refine .value (by simp [exactValue?, hi]) hnegated (sound_of_parts hself ?_)
      simpa [parts] using hsound
    · rw [herror]
      exact .fault .self (.minus hi hnegated)

private theorem comesTo_binary {op : BinaryOp} {lhs rhs : Expr} (hop : op.isArithmetic = true)
    (hlhs : ∀ draws, ComesTo env lhs (value env draws lhs))
    (hrhs : ∀ draws, ComesTo env rhs (value env draws rhs)) (draws : Draws) :
    ComesTo env (.binary op lhs rhs) (value env draws (.binary op lhs rhs)) := by
  have hlhs := hlhs (draws.child 0)
  have hrhs := hrhs (draws.child 1)
  rw [value_arithmetic hop]
  generalize value env (draws.child 0) lhs = left at hlhs ⊢
  generalize value env (draws.child 1) rhs = right at hrhs ⊢
  cases hlhs with
  | fault hwithin hfails => exact .fault (.part (by simp [parts]) hwithin) hfails
  | @value a ha hrangea hsounda =>
    cases hrhs with
    | fault hwithin hfails => exact .fault (.part (by simp [parts]) hwithin) hfails
    | @value b hb hrangeb hsoundb =>
      have happly : (Except.ok (.int a) >>= fun l => Except.ok (.int b) >>= fun r => applyBinary op l r) =
          applyToInts op a b := applyBinary_int hop a b
      rw [happly]
      have hcomputes := computes_applyToInts hop hrangea (b := b)
      generalize applyToInts op a b = outcome at hcomputes ⊢
      cases hcomputes with
      | divisor hdiv hzero => exact .fault .self (.divisor hdiv (hzero ▸ hb))
      | range hj hrange => exact .fault .self (.result ha hb hj hrange)
      | @result i j hi hrange hj hmeasured =>
        have hself (issue : RuntimeIssue) : ¬ FailsAt env issue (.binary op lhs rhs) := by
          rintro (⟨hdiv, hzero⟩ | ⟨ha', hb', hj', hout⟩)
          · obtain rfl : b = 0 := Option.some.inj (hb.symm.trans hzero)
            rcases hdiv with rfl | rfl <;> cases hi
          · obtain rfl := Option.some.inj (ha.symm.trans ha')
            obtain rfl := Option.some.inj (hb.symm.trans hb')
            rw [Option.some.inj (hj.symm.trans hj'), hout] at hmeasured
            cases hmeasured
        refine .value (by simp [exactValue?, ha, hb, hi]) hrange (sound_of_parts hself ?_)
        simpa [parts] using ⟨hsounda, hsoundb⟩

/-- An arithmetic tree comes to its exact value or to a fault in it. -/
theorem IsArithmetic.comesTo (he : IsArithmetic env e) :
    ∀ draws, ComesTo env e (value env draws e) := by
  have hleaf {e : Expr} {i : Int} (hparts : e.parts = []) (hfails : ∀ issue, ¬ FailsAt env issue e)
      (hi : exactValue? env e = some i) (hrange : inRange i = true) : ComesTo env e (.ok (.int i)) :=
    .value hi hrange (sound_of_parts hfails (by simp [hparts]))
  induction he with
  | @literal i hi =>
    intro draws
    rw [value]
    exact hleaf rfl (fun _ hfails => by cases hfails) rfl hi
  | @ident name i hname hi =>
    intro draws
    simp only [value, hname]
    exact hleaf rfl (fun _ hfails => by cases hfails) (by simp [exactValue?, hname]) hi
  | minus _ ih => exact comesTo_minus ih
  | binary hop _ _ ihlhs ihrhs => exact comesTo_binary hop ihlhs ihrhs

/-- An arithmetic tree has a value exactly if nothing in it fails, and this is its exact value. -/
theorem IsArithmetic.evaluate_eq_ok_iff (he : IsArithmetic env e) (draws : Draws) (v : Value) :
    e.evaluate env draws = .ok v ↔
      ∃ i, v = .int i ∧ exactValue? env e = some i ∧ ∀ issue sub, Within sub e → ¬ FailsAt env issue sub := by
  have hcomes := he.comesTo draws
  rw [Expr.evaluate_eq_ok_iff]
  generalize value env draws e = outcome at hcomes ⊢
  cases hcomes with
  | @value i hi hrange hsound =>
    constructor
    · intro hv
      exact ⟨i, (Except.ok.inj hv).symm, hi, hsound⟩
    · rintro ⟨j, rfl, hj, -⟩
      rw [Option.some.inj (hi.symm.trans hj)]
  | fault hwithin hfails =>
    constructor
    · intro hv
      cases hv
    · rintro ⟨-, -, -, hsound⟩
      exact absurd hfails (hsound _ _ hwithin)

/-- An arithmetic tree that has a value has it whatever is drawn. -/
theorem IsArithmetic.exists_value (he : IsArithmetic env e) {draws : Draws} {v : Value}
    (hvalue : value env draws e = .ok v) :
    ∃ i, exactValue? env e = some i ∧ inRange i = true ∧ ∀ draws, value env draws e = .ok (.int i) := by
  obtain ⟨i, -, hi, hsound⟩ :=
    (he.evaluate_eq_ok_iff draws v).mp (Expr.evaluate_eq_ok_iff.mpr hvalue)
  have hall (draws : Draws) : value env draws e = .ok (.int i) :=
    Expr.evaluate_eq_ok_iff.mp ((he.evaluate_eq_ok_iff draws _).mpr ⟨i, rfl, hi, hsound⟩)
  refine ⟨i, hi, ?_, hall⟩
  have hcomes := he.comesTo draws
  rw [hall draws] at hcomes
  cases hcomes with
  | value _ hrange _ => exact hrange

private theorem value_of_operands {op : BinaryOp} {lhs rhs : Expr} {a b : Int} (hop : op.isArithmetic = true)
    (hlhs : ∀ draws, value env draws lhs = .ok (.int a))
    (hrhs : ∀ draws, value env draws rhs = .ok (.int b)) (draws : Draws) :
    value env draws (.binary op lhs rhs) = applyToInts op a b := by
  rw [value_arithmetic hop, hlhs, hrhs]
  exact applyBinary_int hop a b

private theorem value_eq_of_same {lhs rhs : Expr} {a : Int}
    (hlhs : ∀ draws, value env draws lhs = .ok (.int a))
    (hrhs : ∀ draws, value env draws rhs = .ok (.int a)) (draws : Draws) :
    value env draws (.binary .eq lhs rhs) = .ok (.bool true) := by
  simp only [value, hlhs, hrhs]
  exact congrArg (fun same => Except.ok (Value.bool same)) (beq_self_eq_true a)

/-- Where there is a quotient, there is a remainder, and the two make up the dividend. -/
theorem value_quotient_remainder {b : Expr} (he : IsArithmetic env e) (hb : IsArithmetic env b)
    {draws : Draws} {q : Value} (hq : value env draws (.binary .div e b) = .ok q) (draws' : Draws) :
    value env draws'
      (.binary .eq (.binary .add (.binary .mul (.binary .div e b) b) (.binary .rem e b)) e) =
        .ok (.bool true) := by
  rw [value_arithmetic rfl] at hq
  obtain ⟨_, hdividend, hq⟩ := bind_eq_ok_iff.mp hq
  obtain ⟨_, hdivisor, hq⟩ := bind_eq_ok_iff.mp hq
  obtain ⟨x, -, hrange, hx⟩ := he.exists_value hdividend
  obtain ⟨y, -, -, hy⟩ := hb.exists_value hdivisor
  rw [hx] at hdividend
  rw [hy] at hdivisor
  cases hdividend
  cases hdivisor
  have hdivision (i : Int) : applyDivision i x y = .ok (.int i) := by
    rw [applyBinary_int rfl] at hq
    simp only [applyToInts, applyDivision] at hq ⊢
    split at hq
    · cases hq
    split at hq
    · cases hq
    rename_i hzero hout
    rw [if_neg hzero, if_neg hout]
  have hquotient (draws : Draws) :
      value env draws (.binary .div e b) = .ok (.int (x.tdiv y)) :=
    (value_of_operands rfl hx hy draws).trans (hdivision _)
  have hremainder (draws : Draws) :
      value env draws (.binary .rem e b) = .ok (.int (x.tmod y)) :=
    (value_of_operands rfl hx hy draws).trans (hdivision _)
  have hproduct (draws : Draws) :
      value env draws (.binary .mul (.binary .div e b) b) = .ok (.int (x.tdiv y * y)) := by
    rw [value_of_operands rfl hquotient hy]
    exact if_pos (inRange_tdiv_mul hrange y)
  have hsum (draws : Draws) :
      value env draws (.binary .add (.binary .mul (.binary .div e b) b) (.binary .rem e b)) =
        .ok (.int x) := by
    rw [value_of_operands rfl hproduct hremainder, applyToInts, Int.tdiv_mul_add_tmod]
    exact if_pos hrange
  exact value_eq_of_same hsum hx draws'

/-- Arithmetic of 64 bits is exact or fails. A tree of integers has a value exactly if nothing in it
    fails, and then this is its value over the integers; otherwise it fails with the issue of a tree in
    it whose divisor is zero or whose exact number is out of range. So a quotient times its divisor and
    the remainder make up the dividend wherever there is a quotient. -/
theorem evaluate_exact_or_fails (he : IsArithmetic env e) (draws : Draws) :
    (∀ v, e.evaluate env draws = .ok v ↔
      ∃ i, v = .int i ∧ exactValue? env e = some i ∧
        ∀ issue sub, Within sub e → ¬ FailsAt env issue sub) ∧
      (∀ err, e.evaluate env draws = .error err →
        ∃ issue sub, err = .runtimeError issue ∧ Within sub e ∧ FailsAt env issue sub) ∧
      ∀ b, IsArithmetic env b → (∃ q, (Expr.binary .div e b).evaluate env draws = .ok q) →
        (Expr.binary .eq (.binary .add (.binary .mul (.binary .div e b) b) (.binary .rem e b)) e).evaluate
          env draws = .ok (.bool true) := by
  refine ⟨he.evaluate_eq_ok_iff draws, ?_, ?_⟩
  · intro err herr
    have hcomes := he.comesTo draws
    unfold evaluate at herr
    generalize value env draws e = outcome at hcomes herr
    cases hcomes with
    | value => cases herr
    | fault hwithin hfails =>
      cases herr
      exact ⟨_, _, rfl, hwithin, hfails⟩
  · rintro b hb ⟨q, hq⟩
    rw [Expr.evaluate_eq_ok_iff] at hq ⊢
    exact value_quotient_remainder he hb hq draws

/-- The least integer has a quotient and a remainder by `7`, but no remainder by `-1`, since the quotient
    is out of range. -/
theorem evaluate_exact_or_fails_least :
    let env : String → Option Value := fun _ => some (.int minInt)
    let draws := Draws.ofSeed 0
    let n : Expr := .ident "n"
    let seven : Expr := .literal (.int 7)
    let minusOne : Expr := .unary .neg (.literal (.int 1))
    IsArithmetic env (.binary .rem n seven) ∧ IsArithmetic env (.binary .rem n minusOne) ∧
      IsArithmetic env n ∧
      (Expr.binary .rem n seven).evaluate env draws = .ok (.int (-1)) ∧
      exactValue? env (.binary .rem n seven) = some (-1) ∧
      (Expr.binary .rem n minusOne).evaluate env draws = .error (.runtimeError .overflow) ∧
      (∃ sub, Within sub (.binary .rem n minusOne) ∧ FailsAt env .overflow sub) ∧
      (Expr.binary .eq (.binary .add (.binary .mul (.binary .div n seven) seven)
        (.binary .rem n seven)) n).evaluate env draws = .ok (.bool true) := by
  intro env draws n seven minusOne
  have hn : IsArithmetic env n := .ident rfl (by decide)
  have hseven : IsArithmetic env seven := .literal (by decide)
  have hrem : IsArithmetic env (.binary .rem n seven) := .binary rfl hn hseven
  have hout : IsArithmetic env (.binary .rem n minusOne) :=
    .binary rfl hn (.minus (.literal (by decide)))
  have hvalue : (Expr.binary .rem n seven).evaluate env draws = .ok (.int (-1)) := rfl
  have herror : (Expr.binary .rem n minusOne).evaluate env draws = .error (.runtimeError .overflow) := rfl
  obtain ⟨i, hi, hexact, -⟩ := ((evaluate_exact_or_fails hrem draws).1 _).mp hvalue
  obtain ⟨issue, sub, hissue, hwithin, hfails⟩ := (evaluate_exact_or_fails hout draws).2.1 _ herror
  cases hi
  cases hissue
  exact ⟨hrem, hout, hn, hvalue, hexact, herror, ⟨sub, hwithin, hfails⟩,
    (evaluate_exact_or_fails hn draws).2.2 seven hseven ⟨_, rfl⟩⟩

end Trees

end VulnProbe.Expr
