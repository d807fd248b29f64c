import VulnProbe.Proofs.Expr.NameDependence
import VulnProbe.Proofs.Run.BindingFrame
import VulnProbe.Proofs.Run.Compilation

namespace VulnProbe

/-- A name occurs in the expression that a source writes, if it writes one. -/
def Expr.NamedIn (source name : String) : Prop :=
  ∃ e, Expr.parse source = .ok e ∧ name ∈ e.names

namespace Registry

variable {registry : Registry} {params others : Params} {source : String}

/-- A source is compiled alike under bindings that agree on the names in its expression. -/
theorem compile_eq_of_agree
    (hagree : ∀ name, Expr.NamedIn source name → Dict.get? name others = Dict.get? name params) :
    registry.compile others source = registry.compile params source := by
  refine compile_congr fun e hparse => ?_
  have htypes : ∀ name ∈ e.names, registry.typeOf? others name = registry.typeOf? params name := by
    intro name hname
    rw [typeOf?, typeOf?, hagree name ⟨e, hparse, hname⟩]
  rw [Expr.check_congr e htypes]
  exact .refl _

private theorem evaluate_eq_of_agree
    (hagree : ∀ name, Expr.NamedIn source name → Dict.get? name others = Dict.get? name params)
    (draws : Expr.Draws) :
    registry.evaluate others draws source = registry.evaluate params draws source := by
  rw [evaluate, evaluate, compile_eq_of_agree hagree]
  cases hcompile : registry.compile params source with
  | error issue => rfl
  | ok e =>
    have hparse := parse_of_compile hcompile
    have hvalue := Expr.value_congr e
      (fun name hname => hagree name ⟨e, hparse, hname⟩) draws
    simp only [bind, Except.bind, Expr.evaluate, hvalue]

end Registry

namespace Run

/-- A rule is judged alike under bindings that agree on the names in its expression. -/
theorem judge_congr {run other : Run} {context : Context} {draws : Expr.Draws} {index : Nat} {rule : Rule}
    (hagree : ∀ name, Expr.NamedIn rule.expression name →
      Dict.get? name other.params = Dict.get? name run.params) :
    (other.judge context draws index rule).1 = (run.judge context draws index rule).1 := by
  rw [judge, judge, Registry.evaluate_eq_of_agree hagree]
  cases context.registry.evaluate run.params draws rule.expression with
  | error cause => rfl
  | ok v => cases hfalse : v.text == rejection <;> simp only [hfalse] <;> rfl

end Run

namespace Registry

/-- A source comes to one value or error under bindings that agree on the names in its expression. So
    no binding of another name changes the verdict of a rule, be it a value or a captured text. -/
theorem evaluate_dependsOnNamed :
    (∀ (registry : Registry) (source : String) (params others : Params),
      (∀ name, Expr.NamedIn source name → Dict.get? name others = Dict.get? name params) →
      ∀ draws, registry.evaluate others draws source = registry.evaluate params draws source) ∧
    ∀ (run : Run) (context : Context) (draws : Expr.Draws) (index : Nat) (rule : Rule),
      (∀ name v, ¬ Expr.NamedIn rule.expression name →
        (Run.judge { run with params := run.params.insert name v } context draws index rule).1 =
          (run.judge context draws index rule).1) ∧
      ∀ captures : Dict String, (∀ name ∈ Dict.keys captures, ¬ Expr.NamedIn rule.expression name) →
        (Run.judge { run with params := run.params.mergeCaptures captures } context draws index rule).1 =
          (run.judge context draws index rule).1 := by
  refine ⟨fun registry source params others hagree => evaluate_eq_of_agree hagree,
    fun run context draws index rule => ⟨fun name v hnew => ?_, fun captures hnew => ?_⟩⟩
  · refine Run.judge_congr fun found hnamed => Dict.get?_insert_of_ne ?_ v run.params
    rintro rfl
    exact hnew hnamed
  · exact Run.judge_congr fun found hnamed =>
      run.params.get?_mergeCaptures_of_not_mem fun hmem => hnew found hmem hnamed

/-- An expression that names `a` alone has its value whatever `b` is bound to. -/
theorem evaluate_dependsOnNamed_sample :
    let params : Params := [("a", .int 1)]
    let others : Params := [("a", .int 1), ("b", .string "x")]
    (∀ name, Expr.NamedIn "a" name → Dict.get? name others = Dict.get? name params) ∧
      ¬ Expr.NamedIn "a" "b" ∧
      ∀ registry draws, Registry.evaluate registry others draws "a" = .ok (.int 1) := by
  intro params others
  have htokens : Expr.tokenize "a" = .ok [⟨.ident "a", 0⟩, ⟨.endOfInput, 1⟩] := by with_unfolding_all decide
  have hparse : Expr.parse "a" = .ok (.ident "a") := by
    rw [Expr.parse, htokens]
    rfl
  have hnamed {name : String} (hname : Expr.NamedIn "a" name) : name = "a" := by
    obtain ⟨e, he, hmem⟩ := hname
    cases hparse.symm.trans he
    exact List.mem_singleton.mp hmem
  have hagree : ∀ name, Expr.NamedIn "a" name → Dict.get? name others = Dict.get? name params := by
    intro name hname
    rw [hnamed hname]
    rfl
  refine ⟨hagree, fun hb => absurd (hnamed hb) (by decide), fun registry draws => ?_⟩
  rw [evaluate_dependsOnNamed.1 registry "a" params others hagree draws, evaluate, compile, hparse]
  rfl

end Registry

end VulnProbe
