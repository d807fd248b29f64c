import VulnProbe.Expr.Eval
import VulnProbe.Proofs.Expr.Induction

namespace VulnProbe.Expr

/-- Whether an issue concerns a name: of a variable, a function, a method or a field. -/
def RuntimeIssue.concernsName : RuntimeIssue → Bool
  | .unbound _ | .undeclaredFunction _ | .noMethod .. | .noField .. => true
  | _ => false

/-- A computation that does not fail for a name. -/
def KnowsNames {α : Type} (x : Outcome α) : Prop :=
  ∀ issue, x = .error issue → issue.concernsName = false

variable {α β : Type}

private theorem knowsNames_ok (a : α) : KnowsNames (.ok a) := by
  rintro _ ⟨⟩

private theorem knowsNames_error {issue : RuntimeIssue} (hissue : issue.concernsName = false) :
    KnowsNames (.error issue : Outcome α) := by
  rintro _ ⟨⟩
  exact hissue

/-- A sequence does not fail for a name if no part of it does. -/
theorem KnowsNames.bind {x : Outcome α} {f : α → Outcome β} (hx : KnowsNames x)
    (hf : ∀ a, KnowsNames (f a)) : KnowsNames (x >>= f) := by
  intro issue hissue
  rcases bind_eq_error_iff.mp hissue with hleft | ⟨a, -, hright⟩
  · exact hx issue hleft
  · exact hf a issue hright

private theorem knowsNames_intArg (name : String) (v : Value) : KnowsNames (intArg name v) := by
  cases v with
  | int i => exact knowsNames_ok i
  | _ => exact knowsNames_error rfl

private theorem knowsNames_textArg (name : String) (v : Value) : KnowsNames (textArg name v) := by
  cases v with
  | string s => exact knowsNames_ok s
  | _ => exact knowsNames_error rfl

private theorem knowsNames_bytesArg (name : String) (v : Value) : KnowsNames (bytesArg name v) := by
  rw [bytesArg]
  cases v.bytes? with
  | none => exact knowsNames_error rfl
  | some bs => exact knowsNames_ok bs

private theorem knowsNames_noArgs (name : String) (args : List Value) : KnowsNames (noArgs name args) := by
  unfold noArgs
  split
  · exact knowsNames_ok ()
  · exact knowsNames_error rfl

private theorem knowsNames_oneArg (name : String) (args : List Value) : KnowsNames (oneArg name args) := by
  unfold oneArg
  split
  · exact knowsNames_ok _
  · exact knowsNames_error rfl

private theorem knowsNames_twoArgs (name : String) (args : List Value) : KnowsNames (twoArgs name args) := by
  unfold twoArgs
  split
  · exact knowsNames_ok _
  · exact knowsNames_error rfl

private theorem knowsNames_threeArgs (name : String) (args : List Value) :
    KnowsNames (threeArgs name args) := by
  unfold threeArgs
  split
  · exact knowsNames_ok _
  · exact knowsNames_error rfl

private theorem knowsNames_patternArg (name : String) (v : Value) : KnowsNames (patternArg name v) := by
  refine (knowsNames_textArg name v).bind fun text => ?_
  cases Regex.compile text with
  | ok r => exact knowsNames_ok r
  | error issue => exact knowsNames_error rfl

private theorem knowsNames_joinedBytes (name : String) (args : List Value) :
    KnowsNames (joinedBytes name args) := by
  induction args with
  | nil => exact knowsNames_ok []
  | cons v rest ih =>
    exact (knowsNames_bytesArg name v).bind fun bs => ih.bind fun more => knowsNames_ok _

/-- What a function does with its arguments is never wrong for a name. -/
theorem Builtin.knowsNames_apply (f : Builtin) (args : List Value) (draws : Draws) :
    KnowsNames (f.apply args draws) := by
  cases f with
  | newReverse => exact knowsNames_error rfl
  | randomInt =>
    refine (knowsNames_twoArgs _ args).bind fun pair => (knowsNames_intArg _ pair.1).bind fun lo =>
      (knowsNames_intArg _ pair.2).bind fun hi => ?_
    split
    · exact knowsNames_error rfl
    · exact knowsNames_ok _
  | randomLowercase =>
    refine (knowsNames_oneArg _ args).bind fun a => (knowsNames_intArg _ a).bind fun n => ?_
    split
    · exact knowsNames_error rfl
    · exact knowsNames_ok _
  | base64 | urlencode | hexEncode | sha256 | bytes =>
    exact (knowsNames_oneArg _ args).bind fun a =>
      (knowsNames_bytesArg _ a).bind fun bs => knowsNames_ok _
  | base64Decode | urldecode =>
    refine (knowsNames_oneArg _ args).bind fun a => (knowsNames_bytesArg _ a).bind fun bs => ?_
    split
    · exact knowsNames_ok _
    · exact knowsNames_error rfl
  | substr =>
    refine (knowsNames_threeArgs _ args).bind fun given => (knowsNames_textArg _ given.1).bind fun s =>
      (knowsNames_intArg _ given.2.1).bind fun start =>
        (knowsNames_intArg _ given.2.2).bind fun length => ?_
    split
    · exact knowsNames_error rfl
    · exact knowsNames_ok _
  | string => exact (knowsNames_oneArg _ args).bind fun v => knowsNames_ok _
  | int =>
    refine (knowsNames_oneArg _ args).bind fun v => ?_
    split
    · exact knowsNames_ok _
    · exact knowsNames_ok _
    · split
      · exact knowsNames_ok _
      · exact knowsNames_error rfl
    · exact knowsNames_error rfl
  | size =>
    refine (knowsNames_oneArg _ args).bind fun v => ?_
    split
    · exact knowsNames_ok _
    · exact knowsNames_ok _
    · exact knowsNames_ok _
    · exact knowsNames_ok _
    · exact knowsNames_error rfl
  | urlParse =>
    refine (knowsNames_oneArg _ args).bind fun a => (knowsNames_textArg _ a).bind fun text => ?_
    split
    · exact knowsNames_ok _
    · exact knowsNames_error rfl

/-- A method that is there does not fail for a name, whatever its receiver and its arguments are. -/
theorem Method.knowsNames_apply (m : Method) (receiver : Value) (args : List Value) :
    KnowsNames (m.apply receiver args) := by
  cases m with
  | contains | icontains | startsWith | endsWith =>
    exact (knowsNames_oneArg _ args).bind fun a => (knowsNames_textArg _ receiver).bind fun hay =>
      (knowsNames_textArg _ a).bind fun needle => knowsNames_ok _
  | bcontains | bstartsWith =>
    exact (knowsNames_oneArg _ args).bind fun a => (knowsNames_bytesArg _ receiver).bind fun hay =>
      (knowsNames_bytesArg _ a).bind fun needle => knowsNames_ok _
  | «matches» | bmatches | submatch | bsubmatch =>
    exact (knowsNames_oneArg _ args).bind fun a => (knowsNames_patternArg _ receiver).bind fun pattern =>
      (knowsNames_bytesArg _ a).bind fun body => knowsNames_ok _
  | concat =>
    cases receiver with
    | string s => exact knowsNames_ok _
    | bytes bs => exact (knowsNames_joinedBytes _ args).bind fun more => knowsNames_ok _
    | _ => exact knowsNames_error rfl
  | lower | upper =>
    exact (knowsNames_noArgs _ args).bind fun _ =>
      (knowsNames_textArg _ receiver).bind fun s => knowsNames_ok _

/-- The truth of an operand is not refused for a name. -/
theorem knowsNames_truth (op : String) (v : Value) : KnowsNames (truth op v) := by
  cases v with
  | bool b => exact knowsNames_ok b
  | _ => exact knowsNames_error rfl

/-- An index is not refused for a name, even if nothing is found at it. -/
theorem knowsNames_selectIndex (v i : Value) : KnowsNames (selectIndex v i) := by
  unfold selectIndex
  split
  · split
    · exact knowsNames_ok _
    · exact knowsNames_error rfl
  · split
    · exact knowsNames_ok _
    · exact knowsNames_error rfl
  · exact knowsNames_error rfl

private theorem knowsNames_bounded (i : Int) : KnowsNames (bounded i) := by
  unfold bounded
  split
  · exact knowsNames_ok _
  · exact knowsNames_error rfl

/-- A sign does not fail for a name. -/
theorem knowsNames_applyUnary (op : UnaryOp) (v : Value) : KnowsNames (applyUnary op v) := by
  unfold applyUnary
  split
  · exact knowsNames_ok _
  · exact knowsNames_bounded _
  · exact knowsNames_error rfl

private theorem knowsNames_applyDivision (q a b : Int) : KnowsNames (applyDivision q a b) := by
  unfold applyDivision
  split
  · exact knowsNames_error rfl
  · split
    · exact knowsNames_error rfl
    · exact knowsNames_ok _

private theorem knowsNames_applyToInts (op : BinaryOp) (a b : Int) : KnowsNames (applyToInts op a b) := by
  cases op with
  | add | sub | mul => exact knowsNames_bounded _
  | div | rem => exact knowsNames_applyDivision _ a b
  | lt | le | gt | ge => exact knowsNames_ok _
  | eq | ne | isIn | and | or => exact knowsNames_error rfl

private theorem knowsNames_applyToTexts (op : BinaryOp) (a b : String) :
    KnowsNames (applyToTexts op a b) := by
  cases op with
  | add | lt | le | gt | ge => exact knowsNames_ok _
  | sub | mul | div | rem | eq | ne | isIn | and | or => exact knowsNames_error rfl

/-- An operator does not fail for a name. -/
theorem knowsNames_applyBinary (op : BinaryOp) (l r : Value) : KnowsNames (applyBinary op l r) := by
  unfold applyBinary
  split
  case h_3 => exact knowsNames_applyToInts _ _ _
  case h_4 => exact knowsNames_applyToTexts _ _ _
  case h_9 => exact knowsNames_error rfl
  all_goals exact knowsNames_ok _

end VulnProbe.Expr
