import VulnProbe.Proofs.Run.Accounting
import VulnProbe.Proofs.Run.Compilation
import VulnProbe.Proofs.Run.Verdict

namespace VulnProbe

section Validate

/-- The entries pass if and only if each that asks for no callback compiles with nothing bound. -/
theorem checkEntries_eq_ok_iff {registry : Registry} {entries : List (String × String)} :
    checkEntries registry entries = .ok () ↔
      ∀ entry ∈ entries, asksCallback entry.2 = false →
        ∃ e, registry.compile [] entry.2 = .ok e := by
  induction entries with
  | nil => simp [checkEntries]
  | cons entry entries ih =>
    obtain ⟨name, source⟩ := entry
    rw [checkEntries, List.forall_mem_cons, ← ih]
    cases hasks : source == Expr.newReverseSource with
    | true => simp [asksCallback, hasks]
    | false =>
      rw [if_neg Bool.false_ne_true]
      cases hcompile : registry.compile [] source with
      | error cause => simp [asksCallback, hasks]
      | ok e => simp

/-- The rules pass if and only if each expression has a tree. -/
theorem checkRules_eq_ok_iff {index : Nat} {rules : List Rule} :
    checkRules index rules = .ok () ↔ ∀ rule ∈ rules, ∃ e, Expr.parse rule.expression = .ok e := by
  induction rules generalizing index with
  | nil => simp [checkRules]
  | cons rule rules ih =>
    rw [checkRules, List.forall_mem_cons, ← @ih (index + 1)]
    cases hparse : Expr.parse rule.expression with
    | error cause => simp
    | ok e => simp

/-- A definition is accepted if and only if its entries can be declared, those that ask for no callback
    compile with nothing bound, and the expressions of its rules have trees. -/
theorem Poc.validate_eq_ok_iff {poc : Poc} :
    poc.validate = .ok () ↔
      ∃ registry, Registry.ofPoc poc = .ok registry ∧
        (∀ entry ∈ poc.set, asksCallback entry.2 = false →
          ∃ e, registry.compile [] entry.2 = .ok e) ∧
        ∀ rule ∈ poc.rules, ∃ e, Expr.parse rule.expression = .ok e := by
  rw [validate, bind_eq_ok_iff]
  refine exists_congr fun registry => and_congr_right fun _ => ?_
  rw [bind_eq_ok_iff, ← checkEntries_eq_ok_iff, ← @checkRules_eq_ok_iff 0]
  constructor
  · rintro ⟨_, h⟩
    exact h
  · exact fun h => ⟨(), h⟩

end Validate

section Declaration

/-- The values of some bindings have types. -/
def Params.Typed (params : Params) : Prop :=
  ∀ entry ∈ params, (DeclType.ofValue entry.2).isSome = true

/-- A value with a type may be added to values with types. -/
theorem Params.Typed.insert {params : Params} (htyped : params.Typed) (name : String) {v : Value}
    (hv : (DeclType.ofValue v).isSome = true) : Params.Typed (params.insert name v) := by
  intro entry hentry
  rcases Dict.mem_of_mem_insert hentry with rfl | hold
  · exact hv
  · exact htyped entry hold

/-- Only callbacks and the request are bound by preparation, and these have types. -/
theorem Params.typed_prepareFrom {callbacks : Callbacks} {target : String}
    {entries : List (String × String)} {k k' : Nat} {params prepared : Params} (htyped : params.Typed)
    (hprepare : prepareFrom callbacks target entries k params = (.ok prepared, k')) :
    prepared.Typed := by
  induction entries generalizing k params with
  | nil =>
    cases hprepare
    exact htyped
  | cons entry entries ih =>
    obtain ⟨next, l, hentry, hrest⟩ := prepareFrom_cons_eq_ok hprepare
    refine ih ?_ hrest
    cases hentry with
    | callback => exact htyped.insert _ rfl
    | request => exact htyped.insert _ rfl
    | nothing => exact htyped

private theorem Params.Typed.exists_declareValues {params : Params} (htyped : params.Typed)
    (registry : Registry) : ∃ declared, registry.declareValues params = .ok declared := by
  induction params generalizing registry with
  | nil => exact ⟨registry, rfl⟩
  | cons entry params ih =>
    obtain ⟨name, v⟩ := entry
    obtain ⟨hv, htyped⟩ := List.forall_mem_cons.mp htyped
    obtain ⟨t, ht⟩ := Option.isSome_iff_exists.mp hv
    obtain ⟨declared, hrest⟩ := ih htyped (registry.insert name t)
    refine ⟨declared, ?_⟩
    rw [Registry.declareValues, Registry.declareValue, ht]
    exact hrest

end Declaration

/-- A failure that does not come from a declaration or from the text of an expression. -/
def Failure.IsDynamic (f : Failure) : Prop :=
  (∀ name issue, f ≠ .typeDeclaration name issue) ∧
    ∀ name pos issue, f ≠ .expression name (.syntaxError pos issue)

/-- A failed evaluation of a source that has a tree. -/
theorem Failure.isDynamic_of_evaluate {registry : Registry} {params : Params} {draws : Expr.Draws}
    {source : String} {e : Expr} {cause : ExprError} (hparse : Expr.parse source = .ok e)
    (hevaluate : registry.evaluate params draws source = .error cause) (name : String) :
    (Failure.expression name cause).IsDynamic := by
  refine ⟨fun _ _ => by simp, ?_⟩
  rintro _ pos issue ⟨⟩
  rw [Registry.parse_of_evaluate hevaluate] at hparse
  cases hparse

namespace Poc

variable {poc : Poc} {callbacks : Callbacks} {transport : Transport} {k k' : Nat} {target : String}
  {draws : Expr.Draws} {f : Failure}

/-- The entries of an accepted definition that resolution evaluates have trees. -/
theorem exists_parse_of_comesToEvaluate {registry : Registry} {ownDraws : Expr.Draws}
    {prepared seen : Params} {name source : String} (hvalidate : poc.validate = .ok ())
    (hcomes : poc.ComesToEvaluate registry draws prepared name source seen ownDraws) :
    ∃ e, Expr.parse source = .ok e := by
  obtain ⟨declared, -, hentries, -⟩ := validate_eq_ok_iff.mp hvalidate
  obtain ⟨e, hcompile⟩ := hentries _ hcomes.mem hcomes.asksCallback_eq_false
  exact ⟨e, Registry.parse_of_compile hcompile⟩

private theorem isDynamic_of_bind (hvalidate : poc.validate = .ok ())
    (hbind : poc.bind callbacks k target draws = (.error f, k')) : f.IsDynamic := by
  obtain ⟨declared, hdeclared, -⟩ := validate_eq_ok_iff.mp hvalidate
  rw [bind, hdeclared] at hbind
  dsimp only at hbind
  split at hbind
  · rename_i hprepare
    cases hbind
    cases prepareFailure_of_prepareFrom hprepare with
    | callback issue => exact ⟨fun _ _ => by simp, fun _ _ _ => by simp⟩
    | request input reason => exact ⟨fun _ _ => by simp, fun _ _ _ => by simp⟩
  rename_i prepared l hprepare
  have htyped : prepared.Typed := Params.typed_prepareFrom (List.forall_mem_nil _) hprepare
  obtain ⟨registry, hvalues⟩ := htyped.exists_declareValues declared
  rw [hvalues] at hbind
  dsimp only at hbind
  split at hbind
  · rename_i hresolve
    cases hbind
    obtain ⟨name, source, seen, ownDraws, cause, hcomes, hfault, rfl⟩ :=
      exists_comesToEvaluate_of_resolve hresolve
    obtain ⟨e, hparse⟩ := exists_parse_of_comesToEvaluate hvalidate hcomes
    exact Failure.isDynamic_of_evaluate hparse hfault name
  · cases hbind

private theorem isDynamic_of_execute {run final : Run} {context : Context} (hvalidate : poc.validate = .ok ())
    (hexecute : run.execute context draws poc.rules = (.error f, final)) : f.IsDynamic := by
  obtain ⟨declared, -, -, hrules⟩ := validate_eq_ok_iff.mp hvalidate
  obtain ⟨outcome, hverdict⟩ := Run.exists_verdict run context draws poc.rules
  rw [Run.execute_of_verdict hverdict] at hexecute
  cases hverdict with
  | unanswered hstop =>
    cases hexecute
    exact ⟨fun _ _ => by simp, fun _ _ _ => by simp⟩
  | faulty hstop =>
    cases hexecute
    cases hstop.1 with
    | faulty hrule hanswer hfound hfaulty =>
      obtain ⟨e, hparse⟩ := hrules _ (List.mem_of_getElem? hrule)
      exact Failure.isDynamic_of_evaluate hparse hfaulty _
  | noEvidence | refuted | confirmed | empty => cases hexecute

/-- A definition that the static checks accept never fails in a run for a declaration, and never for the
    text of an expression, whether of an entry or of a rule. -/
theorem verify_isDynamic_of_validate (poc : Poc) (callbacks : Callbacks) (transport : Transport)
    (allocated : Nat) (target : String) (draws : Expr.Draws) (f : Failure)
    (hvalidate : poc.validate = .ok ())
    (hverify : (poc.verify callbacks transport allocated target draws).result = .error f) :
    (∀ name issue, f ≠ .typeDeclaration name issue) ∧
      ∀ name pos issue, f ≠ .expression name (.syntaxError pos issue) := by
  by_cases htarget : Text.trim target = ""
  · rw [verify_of_blank htarget] at hverify
    cases hverify
    exact ⟨fun _ _ => by simp, fun _ _ _ => by simp⟩
  cases hbind : poc.bind callbacks allocated (Text.trim target) (draws.child 0) with
  | mk bound k' =>
    cases bound with
    | error f' =>
      rw [verify_of_bind_error htarget hbind] at hverify
      cases hverify
      exact isDynamic_of_bind hvalidate hbind
    | ok bound =>
      obtain ⟨registry, params⟩ := bound
      obtain ⟨final, hexecute, -⟩ := verify_of_bind_ok htarget hbind hverify
      exact isDynamic_of_execute hvalidate hexecute

/-- A definition that is accepted, with a callback and a payload, and fails in a run for a name that its
    rule expects to be captured. -/
theorem verify_isDynamic_of_validate_sample :
    let rule : Rule :=
      { method := "GET", path := "/", body := "", headers := [], followRedirects := true
        search := none, expression := "response.status == 200 && token != payload" }
    let poc : Poc :=
      { name := "sample", set := [("payload", "cb.url.path"), ("cb", "newReverse()")], rules := [rule]
        detail := none }
    let response : Response := { status := 200, body := [], headers := [], contentType := "" }
    let callbacks : Callbacks := fun _ => .ok "http://[::1]/cb"
    let transport : Transport := fun _ _ => .ok response
    let f : Failure := .expression "rules[0]" (.checkError (.undeclaredName "token"))
    poc.validate = .ok () ∧
      (poc.verify callbacks transport 0 "http://[::1]" (.ofSeed 0)).result = .error f ∧
      (∀ name issue, f ≠ .typeDeclaration name issue) ∧
      ∀ name pos issue, f ≠ .expression name (.syntaxError pos issue) := by
  intro rule poc response callbacks transport f
  have hvalidate : poc.validate = .ok () := by with_unfolding_all decide
  have hverify : (poc.verify callbacks transport 0 "http://[::1]" (.ofSeed 0)).result = .error f :=
    eq_error_of_failure? (by with_unfolding_all decide)
  exact ⟨hvalidate, hverify,
    verify_isDynamic_of_validate poc callbacks transport 0 "http://[::1]" (.ofSeed 0) f hvalidate hverify⟩

end Poc

end VulnProbe
