import VulnProbe.Proofs.Expr.Grammar.Acceptance
import VulnProbe.Proofs.Expr.NameSafety
import VulnProbe.Proofs.Run.Compilation

namespace VulnProbe

namespace Registry

section Compile

variable {registry : Registry} {params : Params} {source : String}

/-- Where a compilation refuses a name, the name occurs in the source and has no type. -/
theorem of_compile_undeclaredName {name : String}
    (hcompile : registry.compile params source = .error (.checkError (.undeclaredName name))) :
    (∃ e, Expr.parse source = .ok e ∧ Expr.Within (.ident name) e) ∧
      registry.typeOf? params name = none := by
  cases hparse : Expr.parse source with
  | error err =>
    obtain ⟨_, _, rfl⟩ := Expr.failsBySyntax_parse source err hparse
    rw [compile, hparse] at hcompile
    cases hcompile
  | ok e =>
    obtain ⟨hwithin, htype⟩ := Expr.within_of_undeclaredName ((compile_eq_error_iff hparse).mp hcompile)
    exact ⟨⟨e, rfl, hwithin⟩, htype⟩

/-- A source in which a name without a type occurs is refused. -/
theorem exists_issue_of_within {name : String} {e : Expr} (hparse : Expr.parse source = .ok e)
    (hwithin : Expr.Within (.ident name) e) (htype : registry.typeOf? params name = none) :
    ∃ issue, registry.compile params source = .error (.checkError issue) := by
  cases hcheck : e.check (registry.typeOf? params) with
  | error err =>
    obtain ⟨_, issue, -, rfl, -⟩ := Expr.exists_faults_of_check e hcheck
    exact ⟨issue, (compile_eq_error_iff hparse).mpr hcheck⟩
  | ok t =>
    obtain ⟨s, hs⟩ := hwithin.exists_check hcheck
    rw [Expr.check, htype] at hs
    cases hs

/-- A compilation refuses a name as undeclared only where the name occurs, is not declared, and is bound to
    nothing but `null`; and no source in which such a name occurs is let through. A name that is bound to
    another value has the type of that value, and no source compiles differently if the name is declared
    otherwise. A name that is bound to `null` has the type that it was declared with, and every source
    compiles as if it were not bound. -/
theorem compile_sees_bound (registry : Registry) (params : Params) (source : String) :
    (∀ name, registry.compile params source = .error (.checkError (.undeclaredName name)) →
      (∃ e, Expr.parse source = .ok e ∧ Expr.Within (.ident name) e) ∧
        Dict.get? name registry = none ∧ ∀ v, Dict.get? name params = some v → v = .null) ∧
    (∀ name e, Expr.parse source = .ok e → Expr.Within (.ident name) e →
      Dict.get? name registry = none → (∀ v, Dict.get? name params = some v → v = .null) →
        ∃ issue, registry.compile params source = .error (.checkError issue)) ∧
    (∀ name v, Dict.get? name params = some v → v ≠ .null →
      registry.typeOf? params name = DeclType.ofValue v ∧
        ∀ registry' : Registry, (∀ m, m ≠ name → Dict.get? m registry' = Dict.get? m registry) →
          registry'.compile params source = registry.compile params source) ∧
    ∀ name, Dict.get? name params = some .null →
      registry.typeOf? params name = Dict.get? name registry ∧
        ∀ params' : Params, Dict.get? name params' = none →
          (∀ m, m ≠ name → Dict.get? m params' = Dict.get? m params) →
            registry.compile params' source = registry.compile params source := by
  refine ⟨fun name hcompile => ?_, fun name e hparse hwithin hregistry hbound => ?_,
    fun name v hv hnull => ⟨typeOf?_of_bound registry hv hnull, fun registry' hregistry => ?_⟩,
    fun name hv => ⟨typeOf?_of_untyped registry ?_, fun params' hname hparams => ?_⟩⟩
  · obtain ⟨hoccurs, htype⟩ := of_compile_undeclaredName hcompile
    exact ⟨hoccurs, typeOf?_eq_none_iff.mp htype⟩
  · exact exists_issue_of_within hparse hwithin (typeOf?_eq_none_iff.mpr ⟨hregistry, hbound⟩)
  · refine compile_eq_of_typeOf? fun m => ?_
    by_cases hm : m = name
    · rw [hm, typeOf?_of_bound _ hv hnull, typeOf?_of_bound _ hv hnull]
    · rw [typeOf?_eq_or, typeOf?_eq_or, hregistry m hm]
  · intro w hw
    exact Option.some.inj (hw.symm.trans hv)
  · refine compile_eq_of_typeOf? fun m => ?_
    by_cases hm : m = name
    · rw [hm, typeOf?_eq_or, typeOf?_eq_or, hname, hv]
      rfl
    · rw [typeOf?_eq_or, typeOf?_eq_or, hparams m hm]

end Compile

/-- A capture that is declared as a text and bound to a response, and a name that is bound to `null`. -/
theorem compile_sees_bound_sample :
    let response : Response := { status := 200, body := [], headers := [], contentType := "" }
    let others : Registry := [("request", .request), ("response", .response)]
    let registry : Registry := ("r", .string) :: others
    let typed : Params := [("r", .response response)]
    let params : Params := ("n", .null) :: typed
    registry.compile params "r.status == n" = .error (.checkError (.undeclaredName "n")) ∧
      Dict.get? "n" registry = none ∧ Dict.get? "n" params = some .null ∧
      Dict.get? "r" params = some (.response response) ∧ registry.typeOf? params "r" = some .response ∧
      others.compile params "r.status == n" = .error (.checkError (.undeclaredName "n")) ∧
      registry.compile typed "r.status == n" = .error (.checkError (.undeclaredName "n")) := by
  intro response others registry typed params
  obtain ⟨hundeclared, -, hbound, hnull⟩ := compile_sees_bound registry params "r.status == n"
  have htokens : Expr.tokenize "r.status == n" =
      .ok [⟨.ident "r", 0⟩, ⟨.dot, 1⟩, ⟨.ident "status", 2⟩, ⟨.eqEq, 9⟩, ⟨.ident "n", 12⟩,
        ⟨.endOfInput, 13⟩] := by
    with_unfolding_all decide
  have hcompile : registry.compile params "r.status == n" =
      .error (.checkError (.undeclaredName "n")) := by
    rw [compile, Expr.parse, htokens]
    rfl
  have hn : Dict.get? "n" params = some .null := rfl
  have hr : Dict.get? "r" params = some (.response response) := rfl
  obtain ⟨-, hregistry, -⟩ := hundeclared "n" hcompile
  obtain ⟨htype, hdeclared⟩ := hbound "r" _ hr (by simp)
  obtain ⟨-, hunbound⟩ := hnull "n" hn
  have hothers := hdeclared others fun _ hm => (if_neg hm.symm).symm
  have htyped := hunbound typed rfl fun _ hm => (if_neg hm.symm).symm
  rw [hcompile] at hothers htyped
  exact ⟨hcompile, hregistry, hn, hr, htype, hothers, htyped⟩

/-- A name that is bound to `null` is undeclared, and under a declaration it has the declared type, while
    the literal `null` is let through everywhere. -/
theorem compile_bound_to_null :
    let params : Params := [("x", .null)]
    let declared : Registry := [("x", .string)]
    Dict.get? "x" params = some .null ∧
      initial.compile params "x" = .error (.checkError (.undeclaredName "x")) ∧
      declared.compile params "x.k" = .error (.checkError (.field (.notSelectable .string))) ∧
      initial.compile params "null" = .ok (.literal .null) ∧
      declared.compile params "null.k" = .ok (.select (.literal .null) "k") := by
  intro params declared
  have hname : Expr.tokenize "x" = .ok [⟨.ident "x", 0⟩, ⟨.endOfInput, 1⟩] := by with_unfolding_all decide
  have hfield : Expr.tokenize "x.k" =
      .ok [⟨.ident "x", 0⟩, ⟨.dot, 1⟩, ⟨.ident "k", 2⟩, ⟨.endOfInput, 3⟩] := by
    with_unfolding_all decide
  have hnull : Expr.tokenize "null" = .ok [⟨.ident "null", 0⟩, ⟨.endOfInput, 4⟩] := by
    with_unfolding_all decide
  have hnullField : Expr.tokenize "null.k" =
      .ok [⟨.ident "null", 0⟩, ⟨.dot, 4⟩, ⟨.ident "k", 5⟩, ⟨.endOfInput, 6⟩] := by
    with_unfolding_all decide
  refine ⟨rfl, ?_, ?_, ?_, ?_⟩
  · rw [compile, Expr.parse, hname]
    rfl
  · rw [compile, Expr.parse, hfield]
    rfl
  · rw [compile, Expr.parse, hnull]
    rfl
  · rw [compile, Expr.parse, hnullField]
    rfl

end Registry

end VulnProbe
