import Mathlib.Data.Nat.Find
import VulnProbe.Proofs.Run.History

namespace VulnProbe

namespace Run

/-- Why a rule stops a run. -/
inductive Stop where
  /-- The transport failed. -/
  | unanswered (issue : TransportIssue)
  /-- The response lacks the evidence that is searched for. -/
  | noEvidence (r : Response)
  /-- The expression does not compile, does not pass the check or has no value. -/
  | faulty (cause : ExprError)
  /-- The value of the expression has the text `false`. -/
  | refuted

/-- The rule at an index stops the run for a cause, if the run gets that far. An expression is
    evaluated under the bindings that its own response and captures leave. -/
inductive StopsAt (run : Run) (context : Context) (draws : Expr.Draws) (rules : List Rule) (k : Nat) :
    Stop → Prop where
  | unanswered {rule : Rule} {issue : TransportIssue} (hrule : rules[k]? = some rule)
      (hanswer : run.answerAt context rules k rule = .error issue) :
      StopsAt run context draws rules k (.unanswered issue)
  | noEvidence {rule : Rule} {r : Response} (hrule : rules[k]? = some rule)
      (hanswer : run.answerAt context rules k rule = .ok r) (hlacks : rule.LacksEvidence r) :
      StopsAt run context draws rules k (.noEvidence r)
  | faulty {rule : Rule} {r : Response} {cause : ExprError} (hrule : rules[k]? = some rule)
      (hanswer : run.answerAt context rules k rule = .ok r) (hfound : ¬ rule.LacksEvidence r)
      (hfaulty : context.registry.evaluate (run.paramsBefore context rules (k + 1))
        (draws.child (run.executed + k)) rule.expression = .error cause) :
      StopsAt run context draws rules k (.faulty cause)
  | refuted {rule : Rule} {r : Response} {v : Value} (hrule : rules[k]? = some rule)
      (hanswer : run.answerAt context rules k rule = .ok r) (hfound : ¬ rule.LacksEvidence r)
      (hvalue : context.registry.evaluate (run.paramsBefore context rules (k + 1))
        (draws.child (run.executed + k)) rule.expression = .ok v)
      (hfalse : v.text = "false") :
      StopsAt run context draws rules k .refuted

/-- The first rule that stops a run, and why. -/
def FirstStop (run : Run) (context : Context) (draws : Expr.Draws) (rules : List Rule) (k : Nat)
    (stop : Stop) : Prop :=
  StopsAt run context draws rules k stop ∧ ∀ j < k, ∀ s, ¬ StopsAt run context draws rules j s

/-- What a run comes to: its result, its bindings, its state, how many responses it counts, and the
    requests it sent, those of all rules up to the one that stops it. -/
inductive Verdict (run : Run) (context : Context) (draws : Expr.Draws) (rules : List Rule) :
    Except Failure Bool × Run → Prop where
  | unanswered {k : Nat} {issue : TransportIssue}
      (hstop : FirstStop run context draws rules k (.unanswered issue)) :
      Verdict run context draws rules
        (.error (.transport k issue),
          { params := run.paramsBefore context rules k
            state := .aborted
            executed := run.executed + k
            sent := run.sent ++ run.requests context rules (k + 1) })
  | noEvidence {k : Nat} {r : Response}
      (hstop : FirstStop run context draws rules k (.noEvidence r)) :
      Verdict run context draws rules
        (.ok false,
          { params := (run.paramsBefore context rules k).setResponse r
            state := .rejected
            executed := run.executed + (k + 1)
            sent := run.sent ++ run.requests context rules (k + 1) })
  | faulty {k : Nat} {cause : ExprError}
      (hstop : FirstStop run context draws rules k (.faulty cause)) :
      Verdict run context draws rules
        (.error (.expression ("rules[" ++ toString k ++ "]") cause),
          { params := run.paramsBefore context rules (k + 1)
            state := .aborted
            executed := run.executed + (k + 1)
            sent := run.sent ++ run.requests context rules (k + 1) })
  | refuted {k : Nat} (hstop : FirstStop run context draws rules k .refuted) :
      Verdict run context draws rules
        (.ok false,
          { params := run.paramsBefore context rules (k + 1)
            state := .rejected
            executed := run.executed + (k + 1)
            sent := run.sent ++ run.requests context rules (k + 1) })
  | confirmed (hrules : rules ≠ []) (hpass : ∀ k s, ¬ StopsAt run context draws rules k s) :
      Verdict run context draws rules
        (.ok true,
          { params := run.paramsBefore context rules rules.length
            state := .confirmed
            executed := run.executed + rules.length
            sent := run.sent ++ run.requests context rules rules.length })
  | empty (hrules : rules = []) :
      Verdict run context draws rules (.ok false, { run with state := .rejected })

variable {run : Run} {context : Context} {draws : Expr.Draws} {rules : List Rule}

/-- Either some rule is the first to stop a run, or none stops it. -/
theorem firstStop_or_pass (run : Run) (context : Context) (draws : Expr.Draws) (rules : List Rule) :
    (∃ k stop, FirstStop run context draws rules k stop) ∨
      ∀ k s, ¬ StopsAt run context draws rules k s := by
  classical
  by_cases hany : ∃ k s, StopsAt run context draws rules k s
  · obtain ⟨s, hs⟩ := Nat.find_spec hany
    exact .inl ⟨Nat.find hany, s, hs, fun j hj t ht => Nat.find_min hany hj ⟨t, ht⟩⟩
  · exact .inr fun k s hs => hany ⟨k, s, hs⟩

/-- A rule that does not stop the run lets it go on, and leaves it where the next rule finds it. -/
theorem probe_of_passes {i : Nat} {rule : Rule} (hrule : rules[i]? = some rule)
    (hpass : ∀ s, ¬ StopsAt run context draws rules i s) :
    (run.reached context rules i).probe context draws i rule =
      (.ok true, run.reached context rules (i + 1)) := by
  cases hanswer : run.answerAt context rules i rule with
  | error issue => exact absurd (.unanswered hrule hanswer) (hpass _)
  | ok r =>
    by_cases hlacks : rule.LacksEvidence r
    · exact absurd (.noEvidence hrule hanswer hlacks) (hpass _)
    rw [probe_answered draws hrule hanswer hlacks, judge]
    have hparams : (run.reached context rules (i + 1)).params = run.paramsBefore context rules (i + 1) :=
      rfl
    cases hvalue : context.registry.evaluate (run.paramsBefore context rules (i + 1))
        (draws.child (run.executed + i)) rule.expression with
    | error cause => exact absurd (.faulty hrule hanswer hlacks hvalue) (hpass _)
    | ok v =>
      have hnot : v.text ≠ "false" := fun h => hpass _ (.refuted hrule hanswer hlacks hvalue h)
      simp [hparams, hvalue, rejection, hnot]

/-- As long as no rule stops the run, probing goes on with the next rule at the state that the run has
    reached. -/
theorem probeAll_of_passes {i : Nat} (hi : i ≤ rules.length)
    (hpass : ∀ j < i, ∀ s, ¬ StopsAt run context draws rules j s) :
    probeAll context draws 0 rules (run.finish .running) =
      probeAll context draws i (rules.drop i) (run.reached context rules i) := by
  induction i with
  | zero => rw [reached_zero, List.drop_zero]
  | succ i ih =>
    have hrule : rules[i]? = some rules[i] := List.getElem?_eq_getElem (by omega)
    rw [ih (by omega) fun j hj => hpass j (by omega), List.drop_eq_getElem_cons (by omega), probeAll,
      probe_of_passes hrule (hpass i (by omega))]

/-- Execution ends with what the first rule to stop the run makes of its probe. -/
theorem execute_of_firstStop {k : Nat} {stop : Stop} {rule : Rule} {f : Except Failure Bool}
    {final : Run}
    (hstop : FirstStop run context draws rules k stop) (hrule : rules[k]? = some rule)
    (hprobe : (run.reached context rules k).probe context draws k rule = (f, final))
    (hf : f ≠ .ok true) : run.execute context draws rules = (f, final) := by
  obtain ⟨hk, hget⟩ := List.getElem?_eq_some_iff.mp hrule
  have hall : probeAll context draws 0 rules (run.finish .running) = (f, final) := by
    rw [probeAll_of_passes (Nat.le_of_lt hk) hstop.2, List.drop_eq_getElem_cons hk, hget, probeAll, hprobe]
    rcases f with f | (_ | _)
    · rfl
    · rfl
    · exact absurd rfl hf
  rw [execute, hall]
  rcases f with f | (_ | _)
  · rfl
  · rfl
  · exact absurd rfl hf

private theorem execute_of_passes (hpass : ∀ k s, ¬ StopsAt run context draws rules k s) :
    run.execute context draws rules =
      if rules.isEmpty then (.ok false, (run.reached context rules rules.length).finish .rejected)
      else (.ok true, (run.reached context rules rules.length).finish .confirmed) := by
  rw [execute, probeAll_of_passes (Nat.le_refl _) fun j _ => hpass j, List.drop_length, probeAll]

/-- There is always a verdict: a first rule stops the run, or none does. -/
theorem exists_verdict (run : Run) (context : Context) (draws : Expr.Draws) (rules : List Rule) :
    ∃ final, Verdict run context draws rules final := by
  rcases firstStop_or_pass run context draws rules with ⟨k, stop, hstop⟩ | hpass
  · cases stop with
    | unanswered issue => exact ⟨_, .unanswered hstop⟩
    | noEvidence r => exact ⟨_, .noEvidence hstop⟩
    | faulty cause => exact ⟨_, .faulty hstop⟩
    | refuted => exact ⟨_, .refuted hstop⟩
  · by_cases hrules : rules = []
    · exact ⟨_, .empty hrules⟩
    · exact ⟨_, .confirmed hrules hpass⟩

/-- Execution comes to the verdict. -/
theorem execute_of_verdict {final : Except Failure Bool × Run}
    (hverdict : Verdict run context draws rules final) : run.execute context draws rules = final := by
  have hparams (k : Nat) :
      (run.reached context rules (k + 1)).params = run.paramsBefore context rules (k + 1) :=
    rfl
  cases hverdict with
  | unanswered hstop =>
    cases hstop.1 with
    | unanswered hrule hanswer =>
      exact execute_of_firstStop hstop hrule (probe_unanswered draws hrule hanswer) (by simp)
  | noEvidence hstop =>
    cases hstop.1 with
    | noEvidence hrule hanswer hlacks =>
      exact execute_of_firstStop hstop hrule (probe_noEvidence draws hrule hanswer hlacks) (by simp)
  | faulty hstop =>
    cases hstop.1 with
    | faulty hrule hanswer hfound hfaulty =>
      refine execute_of_firstStop hstop hrule ?_ (by simp)
      rw [probe_answered draws hrule hanswer hfound, judge, hparams, hfaulty]
      rfl
  | refuted hstop =>
    cases hstop.1 with
    | refuted hrule hanswer hfound hvalue hfalse =>
      refine execute_of_firstStop hstop hrule ?_ (by simp)
      rw [probe_answered draws hrule hanswer hfound, judge, hparams, hvalue]
      simp only [hfalse, rejection, BEq.rfl, if_true]
      rfl
  | confirmed hrules hpass =>
    rw [execute_of_passes hpass, if_neg (by simpa using hrules)]
    rfl
  | empty hrules =>
    subst hrules
    rfl

/-- Execution comes to a result exactly if that is the verdict on the first rule that stops the run,
    or on a run without such a rule. In particular no request is sent for a rule after it. -/
theorem execute_eq_iff_verdict (run : Run) (context : Context) (draws : Expr.Draws) (rules : List Rule)
    (final : Except Failure Bool × Run) :
    run.execute context draws rules = final ↔ Verdict run context draws rules final := by
  constructor
  · rintro rfl
    obtain ⟨final, hfinal⟩ := exists_verdict run context draws rules
    rwa [execute_of_verdict hfinal]
  · exact execute_of_verdict

/-- A run over three rules that the second one rejects. The first fills its path and a header from the
    bindings, and what it captures fills the path and the body of the second; the third is not sent. -/
theorem execute_eq_iff_verdict_sample :
    let answer (text : String) : Answer :=
      .ok { status := 200, body := Utf8.ofString text, headers := [], contentType := "" }
    let context : Context :=
      { target := "http://[::1]", registry := .initial
        transport := .ofList [answer "id=ab", answer "no"] }
    let rule : Rule :=
      { method := "GET", path := " /a?n=\x7b\x7bn\x7d\x7d ", body := ""
        headers := [("X-N", " \x7b\x7bn\x7d\x7d")], followRedirects := true
        search := some "id=(?P<t>[a-z]+)", expression := "true" }
    let next : Rule :=
      { method := "POST", path := "/\x7b\x7bt\x7d\x7d", body := " t=\x7b\x7bt\x7d\x7d\n", headers := []
        followRedirects := false, search := none, expression := "false" }
    let run := start [("n", .int 7)]
    let final := run.execute context (.ofSeed 0) [rule, next, rule]
    Verdict run context (.ofSeed 0) [rule, next, rule] final ∧
      final.1 = .ok false ∧ final.2.state = .rejected ∧ final.2.executed = 2 ∧
      final.2.sent =
        [{ method := "GET", url := "http://[::1]/a?n=7", body := [], headers := [("X-N", " 7")]
           noFollowRedirects := false, timeoutSeconds := 10 },
          { method := "POST", url := "http://[::1]/ab", body := [116, 61, 97, 98], headers := []
            noFollowRedirects := true, timeoutSeconds := 10 }] ∧
      (Dict.get? "t" final.2.params).map Value.text = some "ab" := by
  intro answer context rule next run final
  have hverdict : Verdict run context (.ofSeed 0) [rule, next, rule] final :=
    (execute_eq_iff_verdict run context (.ofSeed 0) [rule, next, rule] final).mp rfl
  exact ⟨hverdict, by decide +kernel +zetaReduce, by decide +kernel +zetaReduce,
    by decide +kernel +zetaReduce, by decide +kernel +zetaReduce, by decide +kernel +zetaReduce⟩

/-- Whichever way a run ends, its bindings and its requests are those that the history tells for some
    number of rules. -/
theorem exists_history (run : Run) (context : Context) (draws : Expr.Draws) (rules : List Rule) :
    ∃ n, (run.execute context draws rules).2.params = run.paramsBefore context rules n ∧
      (run.execute context draws rules).2.sent = run.sent ++ run.requests context rules n := by
  obtain ⟨final, hverdict⟩ := exists_verdict run context draws rules
  rw [execute_of_verdict hverdict]
  cases hverdict with
  | @unanswered k issue hstop =>
    cases hstop.1 with
    | unanswered hrule hanswer =>
      exact ⟨k + 1, (paramsBefore_succ_of_unanswered hrule hanswer).symm, rfl⟩
  | @noEvidence k r hstop =>
    cases hstop.1 with
    | noEvidence hrule hanswer hlacks =>
      refine ⟨k + 1, ?_, rfl⟩
      rw [paramsBefore_succ hrule hanswer, Rule.bindingsAfter_of_lacksEvidence hlacks]
  | @faulty k cause hstop => exact ⟨k + 1, rfl, rfl⟩
  | @refuted k hstop => exact ⟨k + 1, rfl, rfl⟩
  | confirmed hrules hpass => exact ⟨rules.length, rfl, rfl⟩
  | empty hrules => exact ⟨0, rfl, (List.append_nil _).symm⟩

end Run

end VulnProbe
