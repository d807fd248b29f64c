import Mathlib.Control.Monad.Basic
import VulnProbe.Proofs.Expr.Checking
import VulnProbe.Proofs.Expr.Yields
import VulnProbe.Run.Registry

namespace VulnProbe

namespace DeclType

/-- `null` is the only value without a type. -/
theorem ofValue_eq_none_iff {v : Value} : ofValue v = none ↔ v = .null := by
  cases v <;> simp [ofValue]

/-- A type is read back from its name: no two types go by one name in the messages of the check. -/
theorem ofName?_name (t : DeclType) : ofName? t.name = some t := by
  cases t <;> rfl

end DeclType

namespace Registry

section TypeOf

variable {registry : Registry} {params : Params} {name : String} {v : Value}

/-- The type of a bound value comes before the declared one. -/
theorem typeOf?_eq_or (registry : Registry) (params : Params) (name : String) :
    registry.typeOf? params name =
      ((Dict.get? name params).bind DeclType.ofValue).or (Dict.get? name registry) := by
  rw [typeOf?]
  cases (Dict.get? name params).bind DeclType.ofValue <;> rfl

/-- A name that is bound to a value with a type has that type. -/
theorem typeOf?_of_bound (registry : Registry) (hbound : Dict.get? name params = some v)
    (hv : v ≠ .null) : registry.typeOf? params name = DeclType.ofValue v := by
  rw [typeOf?_eq_or, hbound, Option.bind_some]
  cases htype : DeclType.ofValue v with
  | none => exact absurd (DeclType.ofValue_eq_none_iff.mp htype) hv
  | some t => rfl

/-- A name that is bound to nothing but `null` has the type that it was declared with. -/
theorem typeOf?_of_untyped (registry : Registry)
    (hbound : ∀ v, Dict.get? name params = some v → v = .null) :
    registry.typeOf? params name = Dict.get? name registry := by
  rw [typeOf?_eq_or]
  cases hget : Dict.get? name params with
  | none => rfl
  | some v =>
    rw [hbound v hget]
    rfl

/-- A name has no type if it is not declared and is bound to nothing but `null`, which has none. -/
theorem typeOf?_eq_none_iff :
    registry.typeOf? params name = none ↔
      Dict.get? name registry = none ∧ ∀ v, Dict.get? name params = some v → v = .null := by
  rw [typeOf?_eq_or, Option.or_eq_none_iff, Option.bind_eq_none_iff, and_comm]
  simp only [DeclType.ofValue_eq_none_iff]

end TypeOf

section Compile

variable {registry registry' : Registry} {params params' : Params} {source : String}

/-- A compilation depends on the types of names only. -/
theorem compile_eq_of_typeOf?
    (htypes : ∀ name, registry.typeOf? params name = registry'.typeOf? params' name) :
    registry.compile params source = registry'.compile params' source := by
  rw [compile, compile, funext htypes]

/-- A text that has a tree is refused for nothing but what the check refuses. -/
theorem compile_eq_error_iff {e : Expr} {err : ExprError} (hparse : Expr.parse source = .ok e) :
    registry.compile params source = .error err ↔ e.check (registry.typeOf? params) = .error err := by
  rw [compile, hparse]
  simp [bind_eq_error_iff]

/-- Compilation gives the same tree or the same error if checks under the types of names fail alike. -/
theorem compile_congr
    (hcheck : ∀ e, Expr.parse source = .ok e →
      FailAlike (e.check (registry.typeOf? params)) (e.check (registry'.typeOf? params'))) :
    registry.compile params source = registry'.compile params' source := by
  rw [compile, compile]
  cases hparse : Expr.parse source with
  | error err => rfl
  | ok e =>
    have hcheck := hcheck e hparse
    cases h : e.check (registry.typeOf? params) with
    | error err =>
      have h' := (hcheck err).mp h
      simp only [h, h', bind, Except.bind]
    | ok t =>
      obtain ⟨t', h'⟩ := hcheck.exists_ok_iff.mp ⟨t, h⟩
      simp only [h, h', bind, Except.bind]

/-- What compiles has a tree. -/
theorem parse_of_compile {e : Expr} (hcompile : registry.compile params source = .ok e) :
    Expr.parse source = .ok e := by
  rw [compile] at hcompile
  obtain ⟨e', hparse, hcheck⟩ := bind_eq_ok_iff.mp hcompile
  obtain ⟨_, -, hok⟩ := bind_eq_ok_iff.mp hcheck
  cases hok
  exact hparse

end Compile

section Evaluate

variable {registry registry' : Registry} {params : Params} {draws : Expr.Draws} {source : String}

/-- A syntax error in an evaluation is that of parsing. -/
theorem parse_of_evaluate {pos : Nat} {issue : Expr.SyntaxIssue}
    (hevaluate : registry.evaluate params draws source = .error (.syntaxError pos issue)) :
    Expr.parse source = .error (.syntaxError pos issue) := by
  rw [evaluate] at hevaluate
  rcases bind_eq_error_iff.mp hevaluate with hcompile | ⟨e, -, hvalue⟩
  · rw [compile] at hcompile
    rcases bind_eq_error_iff.mp hcompile with hparse | ⟨e, -, hcheck⟩
    · exact hparse
    · rcases bind_eq_error_iff.mp hcheck with hfault | ⟨_, -, hok⟩
      · obtain ⟨_, _, -, hissue, -⟩ := Expr.exists_faults_of_check e hfault
        cases hissue
      · cases hok
  · rw [Expr.evaluate] at hvalue
    split at hvalue <;> cases hvalue

/-- Two registries give a source one value at most. -/
theorem evaluate_unique {v w : Value} (hv : registry.evaluate params draws source = .ok v)
    (hw : registry'.evaluate params draws source = .ok w) : v = w := by
  obtain ⟨e, he, hv⟩ := bind_eq_ok_iff.mp hv
  obtain ⟨e', he', hw⟩ := bind_eq_ok_iff.mp hw
  obtain rfl : e = e' := Except.ok.inj ((parse_of_compile he).symm.trans (parse_of_compile he'))
  exact Except.ok.inj (hv.symm.trans hw)

end Evaluate

end Registry

end VulnProbe
