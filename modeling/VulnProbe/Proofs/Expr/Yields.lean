import Mathlib.Data.List.Forall2
import VulnProbe.Expr.Eval

namespace VulnProbe.Expr

variable {env : String → Option Value} {draws : Draws} {e receiver lhs rhs : Expr} {args : List Expr}
  {v w r : Value} {vs : List Value}

/-- An evaluation fails as the value does, with the failure marked as one of run time. -/
theorem evaluate_eq_error_iff {issue : RuntimeIssue} :
    e.evaluate env draws = .error (.runtimeError issue) ↔ value env draws e = .error issue := by
  rw [evaluate]
  cases value env draws e with
  | ok v => simp
  | error found => simp

/-- An evaluation comes to the value. -/
theorem evaluate_eq_ok_iff {v : Value} :
    e.evaluate env draws = .ok v ↔ value env draws e = .ok v := by
  rw [evaluate]
  cases value env draws e with
  | ok w => simp
  | error found => simp

/-- The integers of 64 bits lie between the least and the greatest one. -/
theorem inRange_iff {i : Int} : inRange i = true ↔ minInt ≤ i ∧ i ≤ maxInt := by
  simp [inRange]

/-- An expression has a value, whatever is drawn. -/
def Yields (env : String → Option Value) (e : Expr) (v : Value) : Prop :=
  ∀ draws, e.evaluate env draws = .ok v

/-- The definition of having a value, for rewriting: the value under all draws is this one. -/
theorem yields_iff : Yields env e v ↔ ∀ draws, value env draws e = .ok v :=
  forall_congr' fun _ => evaluate_eq_ok_iff

/-- A literal has its value. -/
theorem yields_literal (v : Value) : Yields env (.literal v) v :=
  yields_iff.mpr fun _ => by rw [value]

/-- A name has the value that it is bound to. -/
theorem yields_ident {name : String} (hname : env name = some v) : Yields env (.ident name) v :=
  yields_iff.mpr fun _ => by rw [value, hname]

private theorem values_of_yields (hargs : List.Forall₂ (Yields env) args vs) (draws : Draws) (i : Nat) :
    values env draws i args = .ok vs := by
  induction hargs generalizing i with
  | nil => rw [values]
  | cons hv _ ih =>
    rw [values, yields_iff.mp hv, ih]
    rfl

section Calls

/-- Each function is found by its name. -/
theorem Builtin.ofName?_name (f : Builtin) : ofName? f.name = some f := by
  cases f <;> rfl

/-- Each method is found by its name. -/
theorem Method.ofName?_name (m : Method) : ofName? m.name = some m := by
  cases m <;> rfl

/-- A call over arguments with values comes to what the function makes of these and of its own draws. -/
theorem value_call (f : Builtin) (hargs : List.Forall₂ (Yields env) args vs) (draws : Draws) :
    value env draws (.call f.name args) = f.apply vs (draws.child 0) := by
  rw [value, values_of_yields hargs]
  change callFunction f.name vs (draws.child 0) = _
  rw [callFunction, Builtin.ofName?_name]

private theorem value_method (m : Method) (hreceiver : Yields env receiver v)
    (hargs : List.Forall₂ (Yields env) args vs) (draws : Draws) :
    value env draws (.method receiver m.name args) = m.apply v vs := by
  rw [value, yields_iff.mp hreceiver, values_of_yields hargs]
  change callMethod v m.name vs = _
  rw [callMethod, Method.ofName?_name]

/-- A call has a value if the function makes it of the values of the arguments, whatever it draws. -/
theorem Yields.call (f : Builtin) (hargs : List.Forall₂ (Yields env) args vs)
    (happly : ∀ draws, f.apply vs draws = .ok w) : Yields env (.call f.name args) w :=
  yields_iff.mpr fun draws => (value_call f hargs draws).trans (happly _)

/-- A method has a value if it makes it of the values of its receiver and its arguments. -/
theorem Yields.method (m : Method) (hreceiver : Yields env receiver v)
    (hargs : List.Forall₂ (Yields env) args vs) (happly : m.apply v vs = .ok w) :
    Yields env (.method receiver m.name args) w :=
  yields_iff.mpr fun draws => (value_method m hreceiver hargs draws).trans happly

end Calls

section Operators

/-- An operator that evaluates both operands has a value if it makes it of theirs. -/
theorem Yields.binary {op : BinaryOp} (hop : op ≠ .and ∧ op ≠ .or) (hlhs : Yields env lhs v)
    (hrhs : Yields env rhs w) (happly : applyBinary op v w = .ok r) :
    Yields env (.binary op lhs rhs) r := by
  rw [yields_iff]
  intro draws
  cases op with
  | and => exact absurd rfl hop.1
  | or => exact absurd rfl hop.2
  | _ =>
    simp only [value, yields_iff.mp hlhs, yields_iff.mp hrhs]
    exact happly

/-- Texts are put together. -/
theorem Yields.append {s t : String} (hlhs : Yields env lhs (.string s))
    (hrhs : Yields env rhs (.string t)) : Yields env (.binary .add lhs rhs) (.string (s ++ t)) :=
  .binary (by decide) hlhs hrhs rfl

end Operators

section Arguments

/-- A value with bytes is accepted where bytes are asked for. -/
theorem bytesArg_of_bytes? {name : String} {bs : List UInt8} (hv : v.bytes? = some bs) :
    bytesArg name v = .ok bs := by
  simp [bytesArg, hv]

/-- A function of bytes takes those of a text or of a byte string. -/
theorem Yields.callBytes (f : Builtin) {g : List UInt8 → Outcome Value} {bs : List UInt8}
    (hf : ∀ v draws, f.apply [v] draws = bytesArg f.name v >>= g) (he : Yields env e v)
    (hv : v.bytes? = some bs) (hr : g bs = .ok r) : Yields env (.call f.name [e]) r := by
  refine .call f (.cons he .nil) fun draws => ?_
  rw [hf, bytesArg_of_bytes? hv]
  exact hr

/-- The call of `bytes` has the bytes of the value of its argument. -/
theorem Yields.bytes {bs : List UInt8} (he : Yields env e v) (hv : v.bytes? = some bs) :
    Yields env (.call "bytes" [e]) (.bytes bs) :=
  .callBytes .bytes (fun _ _ => rfl) he hv rfl

end Arguments

end VulnProbe.Expr
