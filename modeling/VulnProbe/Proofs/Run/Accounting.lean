import VulnProbe.Proofs.Failure
import VulnProbe.Proofs.Run.Binding.Evaluated
import VulnProbe.Proofs.Run.Declaration
import VulnProbe.Proofs.Run.Responses
import VulnProbe.Run.Verification

namespace VulnProbe

/-- A failure tells how many responses came in to the requests that were sent, and whether any was. -/
def Failure.AccountsFor (f : Failure) (transport : Transport) (sent : List Request) : Prop :=
  f.rulesExecuted = (transport.responses 0 sent).length ∧ (f.stage = .probe ↔ sent ≠ [])

private theorem Failure.accountsFor_nil {f : Failure} (hindex : f.ruleIndex? = none)
    (hstage : f.stage ≠ .probe) (transport : Transport) : f.AccountsFor transport [] :=
  ⟨rulesExecuted_of_ruleIndex? hindex, iff_of_false hstage fun hsent => hsent rfl⟩

namespace Poc

/-- The failures of a binding, by their causes. -/
inductive BindFailure (poc : Poc) : Failure → Prop where
  | declaration (name : String) (issue : DeclIssue) : BindFailure poc (.typeDeclaration name issue)
  | callback (issue : CallbackIssue) : BindFailure poc (.callback issue)
  | request (input reason : String) : BindFailure poc (.badUrl input reason)
  | entry {name : String} (hname : name ∈ Dict.keys poc.set) (cause : ExprError) :
      BindFailure poc (.expression name cause)

/-- The failures of a preparation. -/
inductive PrepareFailure : Failure → Prop where
  | callback (issue : CallbackIssue) : PrepareFailure (.callback issue)
  | request (input reason : String) : PrepareFailure (.badUrl input reason)

variable {poc : Poc} {callbacks : Callbacks} {k k' : Nat} {target : String} {draws : Expr.Draws}
  {registry : Registry} {params reached : Params} {f : Failure}

private theorem prepareFailure_of_bindCallback {name : String}
    (hbind : bindCallback callbacks k name params = .error f) : PrepareFailure f := by
  rw [bindCallback] at hbind
  split at hbind
  · cases hbind
    exact .callback _
  split at hbind
  · cases hbind
    exact .callback _
  · cases hbind

private theorem prepareFailure_of_bindRequest (hbind : bindRequest target params = .error f) :
    PrepareFailure f := by
  rw [bindRequest] at hbind
  split at hbind
  · cases hbind
  split at hbind
  · cases hbind
    exact .request _ _
  · cases hbind

/-- A preparation fails for nothing but the failures of a preparation, whatever was bound before. -/
theorem prepareFailure_of_prepareFrom {entries : List (String × String)}
    (hprepare : prepareFrom callbacks target entries k params = (.error f, k')) :
    PrepareFailure f := by
  induction entries generalizing k params with
  | nil => cases hprepare
  | cons entry entries ih =>
    rw [prepareFrom] at hprepare
    split at hprepare
    · split at hprepare
      · rename_i hbind
        cases hprepare
        exact prepareFailure_of_bindCallback hbind
      · exact ih hprepare
    split at hprepare
    · split at hprepare
      · rename_i hbind
        cases hprepare
        exact prepareFailure_of_bindRequest hbind
      · exact ih hprepare
    · exact ih hprepare

private theorem PrepareFailure.bindFailure (hfailure : PrepareFailure f) : poc.BindFailure f := by
  cases hfailure with
  | callback issue => exact .callback issue
  | request input reason => exact .request input reason

private theorem bindFailure_of_resolve (hresolve : poc.resolve registry draws params = (reached, some f)) :
    poc.BindFailure f := by
  obtain ⟨name, source, seen, ownDraws, cause, hcomes, -, rfl⟩ := exists_comesToEvaluate_of_resolve hresolve
  exact .entry (List.mem_map.mpr ⟨_, hcomes.mem, rfl⟩) cause

private theorem bindFailure_of_bind (hbind : poc.bind callbacks k target draws = (.error f, k')) :
    poc.BindFailure f := by
  rw [bind] at hbind
  split at hbind
  · rename_i hdeclare
    cases hbind
    obtain ⟨⟨name, source⟩, -, hfault⟩ :=
      List.exists_of_findSome?_eq_some (Registry.declareSources_eq_error_iff.mp hdeclare)
    obtain ⟨issue, -, rfl⟩ := declarationFault?_eq_some_iff.mp hfault
    exact .declaration name issue
  split at hbind
  · rename_i hprepare
    cases hbind
    exact (prepareFailure_of_prepareFrom hprepare).bindFailure
  split at hbind
  · rename_i hvalues
    cases hbind
    obtain ⟨name, issue, rfl⟩ := Registry.declareValues_eq_error hvalues
    exact .declaration name issue
  split at hbind
  · rename_i hresolve
    cases hbind
    exact bindFailure_of_resolve hresolve
  · cases hbind

/-- A failure without any probe accounts for that, unless it names an entry like a rule. -/
theorem BindFailure.accountsFor_iff (hfailure : poc.BindFailure f) (transport : Transport) :
    f.AccountsFor transport [] ↔
      ¬ ∃ name cause, f = .expression name cause ∧ (Failure.indexOfLabel? name).isSome := by
  have hquiet (hindex : f.ruleIndex? = none) (hstage : f.stage ≠ .probe) :
      f.AccountsFor transport [] ↔
        ¬ ∃ name cause, f = .expression name cause ∧ (Failure.indexOfLabel? name).isSome := by
    refine iff_of_true (Failure.accountsFor_nil hindex hstage transport) ?_
    rintro ⟨name, cause, rfl, hlabel⟩
    have hnone : Failure.indexOfLabel? name = none := hindex
    rw [hnone] at hlabel
    cases hlabel
  cases hfailure with
  | declaration name issue => exact hquiet rfl (show Stage.definition ≠ .probe by decide)
  | callback issue => exact hquiet rfl (show Stage.binding ≠ .probe by decide)
  | request input reason => exact hquiet rfl (show Stage.binding ≠ .probe by decide)
  | @entry name hname cause =>
    cases hindex : Failure.indexOfLabel? name with
    | none =>
      refine hquiet hindex ?_
      rw [ne_eq, Failure.stage_expression, hindex]
      exact Bool.false_ne_true
    | some k =>
      have hlabel : (Failure.indexOfLabel? name).isSome := by
        rw [hindex]
        rfl
      refine iff_of_false ?_ (not_not_intro ⟨name, cause, rfl, hlabel⟩)
      rintro ⟨-, hprobe⟩
      exact hprobe.mp (Failure.stage_expression.mpr hlabel) rfl

end Poc

namespace Run

variable {context : Context} {draws : Expr.Draws} {rules : List Rule} {params : Params} {f : Failure}

/-- A failure among the rules accounts for them. -/
theorem accountsFor_of_execute (hrules : rules.length < countLimit)
    (hexecute : ((start params).execute context draws rules).1 = .error f) :
    f.AccountsFor context.transport ((start params).execute context draws rules).2.sent := by
  have hcount := executed_execute (start params) context draws rules
  obtain ⟨final, hverdict⟩ := exists_verdict (start params) context draws rules
  rw [execute_of_verdict hverdict] at hexecute hcount ⊢
  have hsent {k : Nat} {rule : Rule} (hrule : rules[k]? = some rule) :
      (start params).sent ++ (start params).requests context rules (k + 1) ≠ [] := by
    rw [requests_succ hrule, ← List.append_assoc]
    exact List.append_ne_nil_of_right_ne_nil _ (List.cons_ne_nil _ _)
  cases hverdict with
  | @unanswered k issue hstop =>
    cases hexecute
    cases hstop.1 with
    | unanswered hrule hanswer =>
      refine ⟨?_, iff_of_true rfl (hsent hrule)⟩
      exact Nat.add_left_cancel hcount
  | noEvidence hstop => cases hexecute
  | @faulty k cause hstop =>
    cases hexecute
    cases hstop.1 with
    | faulty hrule hanswer hfound hfaulty =>
      obtain ⟨hk, -⟩ := List.getElem?_eq_some_iff.mp hrule
      obtain ⟨hexecuted, hstage⟩ := Failure.ofRule_account cause (show k + 1 < countLimit by omega)
      refine ⟨hexecuted.trans ?_, iff_of_true hstage (hsent hrule)⟩
      exact Nat.add_left_cancel hcount
  | refuted hstop => cases hexecute
  | confirmed hrules hpass => cases hexecute
  | empty hrules => cases hexecute

end Run

namespace Poc

variable {poc : Poc} {callbacks : Callbacks} {transport : Transport} {allocated k' : Nat}
  {target : String} {draws : Expr.Draws} {registry : Registry} {params : Params} {f : Failure}

/-- A target of blanks only is refused before anything is declared or sent. -/
theorem verify_of_blank (htarget : Text.trim target = "") :
    poc.verify callbacks transport allocated target draws =
      ⟨.error (.target .empty), [], allocated⟩ := by
  rw [verify]
  exact if_pos (beq_iff_eq.mpr htarget)

/-- A binding that fails ends the verification before any request. -/
theorem verify_of_bind_error (htarget : Text.trim target ≠ "")
    (hbind : poc.bind callbacks allocated (Text.trim target) (draws.child 0) = (.error f, k')) :
    poc.verify callbacks transport allocated target draws = ⟨.error f, [], k'⟩ := by
  rw [verify]
  dsimp only
  rw [if_neg (mt beq_iff_eq.mp htarget), hbind]

/-- After its binding, a verification sends what its rules send, and fails where they do. -/
theorem verify_of_bind_ok (htarget : Text.trim target ≠ "")
    (hbind : poc.bind callbacks allocated (Text.trim target) (draws.child 0) =
      (.ok (registry, params), k'))
    (hverify : (poc.verify callbacks transport allocated target draws).result = .error f) :
    ∃ final, (Run.start params).execute ⟨Text.trim target, registry, transport⟩ (draws.child 1)
        poc.rules = (.error f, final) ∧
      (poc.verify callbacks transport allocated target draws).sent = final.sent := by
  rw [verify] at hverify ⊢
  dsimp only at hverify ⊢
  rw [if_neg (mt beq_iff_eq.mp htarget), hbind] at hverify ⊢
  dsimp only at hverify ⊢
  split at hverify
  · rename_i f' final hexecute
    cases hverify
    exact ⟨final, hexecute, rfl⟩
  · cases hverify

/-- A verification that fails accounts for its probes, unless its binding failed at an entry that is
    named like the label of a rule. The rules have to be fewer than a count can hold. -/
theorem verify_accountsFor_iff (poc : Poc) (callbacks : Callbacks) (transport : Transport)
    (allocated : Nat) (target : String) (draws : Expr.Draws) (f : Failure)
    (hrules : poc.rules.length < countLimit)
    (hverify : (poc.verify callbacks transport allocated target draws).result = .error f) :
    f.AccountsFor transport (poc.verify callbacks transport allocated target draws).sent ↔
      ¬ ∃ name ∈ Dict.keys poc.set, ∃ cause k', f = .expression name cause ∧
        (Failure.indexOfLabel? name).isSome ∧
        poc.bind callbacks allocated (Text.trim target) (draws.child 0) = (.error f, k') := by
  by_cases htarget : Text.trim target = ""
  · rw [verify_of_blank htarget] at hverify ⊢
    cases hverify
    refine iff_of_true (Failure.accountsFor_nil rfl (by decide) transport) ?_
    rintro ⟨_, -, _, _, hname, -⟩
    cases hname
  cases hbind : poc.bind callbacks allocated (Text.trim target) (draws.child 0) with
  | mk bound k' =>
    cases bound with
    | error f' =>
      rw [verify_of_bind_error htarget hbind] at hverify ⊢
      cases hverify
      have hfailure := bindFailure_of_bind hbind
      refine (hfailure.accountsFor_iff transport).trans (not_congr ⟨?_, ?_⟩)
      · rintro ⟨name, cause, rfl, hlabel⟩
        cases hfailure with
        | entry hname => exact ⟨name, hname, cause, k', rfl, hlabel, rfl⟩
      · rintro ⟨name, -, cause, _, rfl, hlabel, -⟩
        exact ⟨name, cause, rfl, hlabel⟩
    | ok bound =>
      obtain ⟨registry, params⟩ := bound
      obtain ⟨final, hexecute, hsent⟩ := verify_of_bind_ok htarget hbind hverify
      have haccount := Run.accountsFor_of_execute hrules (congrArg Prod.fst hexecute)
      rw [hexecute] at haccount
      rw [hsent]
      refine iff_of_true haccount ?_
      rintro ⟨_, -, _, _, -, -, hsame⟩
      cases hsame

/-- A verification whose failure is known is that failure. -/
theorem eq_error_of_failure? {result : Except Failure Outcome}
    (hfailure : (match result with | .error f => some f | .ok _ => none) = some f) :
    result = .error f := by
  cases result with
  | error f' =>
    cases hfailure
    rfl
  | ok outcome => cases hfailure

/-- A rule whose expression is faulty, after an entry that has a value. -/
theorem verify_accountsFor_sample :
    let rule : Rule :=
      { method := "GET", path := "/", body := "", headers := [], followRedirects := true
        search := none, expression := "nope(" }
    let poc : Poc := { name := "sample", set := [("a", "1")], rules := [rule], detail := none }
    let response : Response := { status := 200, body := [], headers := [], contentType := "" }
    let callbacks : Callbacks := fun _ => .error .notConfigured
    let transport : Transport := fun _ _ => .ok response
    let f : Failure := .expression "rules[0]" (.syntaxError 5 (.unexpected .endOfInput))
    let verification := poc.verify callbacks transport 0 "http://t" (.ofSeed 0)
    poc.rules.length < countLimit ∧ verification.result = .error f ∧
      f.AccountsFor transport verification.sent := by
  intro rule poc response callbacks transport f verification
  have hrules : poc.rules.length < countLimit := by decide
  have hverify : verification.result = .error f :=
    eq_error_of_failure? (by with_unfolding_all decide)
  refine ⟨hrules, hverify, ?_⟩
  rw [verify_accountsFor_iff poc callbacks transport 0 "http://t" (.ofSeed 0) f hrules hverify]
  rintro ⟨name, hname, cause, k', hf, -⟩
  have hsame : "rules[0]" = name := (Failure.expression.inj hf).1
  rw [← hsame] at hname
  exact absurd hname (by decide)

/-- An entry that is named like a rule fails as if that rule had been probed. -/
theorem verify_entry_named_label :
    let poc : Poc :=
      { name := "sample", set := [("rules[0]", "nope(")], rules := [], detail := none }
    let f : Failure := .expression "rules[0]" (.syntaxError 5 (.unexpected .endOfInput))
    let verification :=
      poc.verify (fun _ => .error .notConfigured) (fun _ _ => .error .noMoreAnswers) 0 "http://t"
        (.ofSeed 0)
    verification.result = .error f ∧ verification.sent = [] ∧ f.rulesExecuted = 1 ∧
      f.stage = .probe := by
  intro poc f verification
  have hverify : verification.result = .error f :=
    eq_error_of_failure? (by with_unfolding_all decide)
  exact ⟨hverify, by with_unfolding_all decide, rfl, rfl⟩

end Poc

end VulnProbe
