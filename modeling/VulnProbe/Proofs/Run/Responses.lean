import VulnProbe.Proofs.Run.Verdict

namespace VulnProbe

/-- The responses to some requests. The first of them is sent after `count` others. -/
def Transport.responses (t : Transport) : Nat → List Request → List Response
  | _, [] => []
  | count, request :: rest => (t count request).toOption.toList ++ t.responses (count + 1) rest

private theorem Transport.responses_append (t : Transport) (count : Nat) (requests others : List Request) :
    t.responses count (requests ++ others) =
      t.responses count requests ++ t.responses (count + requests.length) others := by
  induction requests generalizing count with
  | nil => rfl
  | cons request requests ih =>
    rw [List.cons_append, responses, responses, ih, List.append_assoc, List.length_cons,
      Nat.add_assoc, Nat.add_comm 1]

namespace Run

/-- The responses that a run received after it had sent `count` requests. -/
def responsesSince (run : Run) (t : Transport) (count : Nat) : List Response :=
  t.responses count (run.sent.drop count)

/-- The rule at an index is answered, and the response holds the evidence that it searches for. -/
structure Found (run : Run) (context : Context) (rules : List Rule) (i : Nat) (rule : Rule)
    (r : Response) : Prop where
  rule_at : rules[i]? = some rule
  answer : run.answerAt context rules i rule = .ok r
  evidence : ¬ rule.LacksEvidence r

variable {run final : Run} {context : Context} {draws : Expr.Draws} {rules : List Rule} {i n : Nat}
  {rule : Rule} {r : Response}

/-- A rule that does not stop the run is answered, and its evidence is found. -/
theorem found_of_passes (hi : i < rules.length) (hpass : ∀ s, ¬ StopsAt run context draws rules i s) :
    ∃ rule r, run.Found context rules i rule r := by
  have hrule : rules[i]? = some rules[i] := List.getElem?_eq_getElem hi
  cases hanswer : run.answerAt context rules i rules[i] with
  | error issue => exact absurd (.unanswered hrule hanswer) (hpass _)
  | ok r => exact ⟨_, r, hrule, hanswer, fun hlacks => hpass _ (.noEvidence hrule hanswer hlacks)⟩

/-- Up to the first rule that stops a run, every rule is answered with its evidence. -/
theorem FirstStop.found {stop : Stop} (hstop : FirstStop run context draws rules n stop)
    (hrule : rules[n]? = some rule) : ∀ j < n, ∃ rule r, run.Found context rules j rule r := by
  intro j hj
  obtain ⟨hn, -⟩ := List.getElem?_eq_some_iff.mp hrule
  exact found_of_passes (Nat.lt_trans hj hn) (hstop.2 j hj)

/-- What holds of all rules before one and of this one holds of all before the next. -/
theorem found_succ (hbefore : ∀ j < n, ∃ rule r, run.Found context rules j rule r)
    (hlast : run.Found context rules n rule r) :
    ∀ j < n + 1, ∃ rule r, run.Found context rules j rule r := by
  intro j hj
  rcases Nat.lt_succ_iff_lt_or_eq.mp hj with hlt | rfl
  · exact hbefore j hlt
  · exact ⟨rule, r, hlast⟩

/-- The responses of a run are told by the requests that it sent and by where it started in the log. -/
theorem responsesSince_of_sent (hsent : final.sent = run.sent ++ run.requests context rules n) :
    final.responsesSince context.transport run.sent.length =
      context.transport.responses run.sent.length (run.requests context rules n) := by
  rw [responsesSince, hsent, List.drop_left]

/-- The rule at an index adds its response to those before, if it has one. -/
theorem responses_requests_succ (hrule : rules[i]? = some rule) :
    context.transport.responses run.sent.length (run.requests context rules (i + 1)) =
      context.transport.responses run.sent.length (run.requests context rules i) ++
        (run.answerAt context rules i rule).toOption.toList := by
  obtain ⟨hi, -⟩ := List.getElem?_eq_some_iff.mp hrule
  have hlength : (run.requests context rules i).length = i := by
    rw [requests, List.length_mapIdx, List.length_take, Nat.min_eq_left (Nat.le_of_lt hi)]
  rw [requests_succ hrule, Transport.responses_append, hlength, answerAt]
  exact congrArg _ (List.append_nil _)

/-- A rule that is answered has one response. -/
theorem length_responses_requests (hfound : ∀ j < n, ∃ rule r, run.Found context rules j rule r) :
    (context.transport.responses run.sent.length (run.requests context rules n)).length = n := by
  induction n with
  | zero => rfl
  | succ n ih =>
    obtain ⟨rule, r, hlast⟩ := hfound n (Nat.lt_add_one n)
    rw [responses_requests_succ hlast.rule_at, List.length_append, hlast.answer,
      ih fun j hj => hfound j (Nat.lt_add_right 1 hj)]
    rfl

/-- A run counts the responses that it receives. -/
theorem executed_execute (run : Run) (context : Context) (draws : Expr.Draws) (rules : List Rule) :
    (run.execute context draws rules).2.executed = run.executed +
      ((run.execute context draws rules).2.responsesSince context.transport run.sent.length).length := by
  obtain ⟨final, hverdict⟩ := exists_verdict run context draws rules
  rw [execute_of_verdict hverdict]
  cases hverdict with
  | unanswered hstop =>
    cases hstop.1 with
    | unanswered hrule hanswer =>
      rw [responsesSince_of_sent rfl, responses_requests_succ hrule, hanswer, List.length_append,
        length_responses_requests (hstop.found hrule)]
      rfl
  | noEvidence hstop =>
    cases hstop.1 with
    | noEvidence hrule hanswer hlacks =>
      rw [responsesSince_of_sent rfl, responses_requests_succ hrule, hanswer, List.length_append,
        length_responses_requests (hstop.found hrule)]
      rfl
  | faulty hstop =>
    cases hstop.1 with
    | faulty hrule hanswer hfound =>
      rw [responsesSince_of_sent rfl,
        length_responses_requests (found_succ (hstop.found hrule) ⟨hrule, hanswer, hfound⟩)]
  | refuted hstop =>
    cases hstop.1 with
    | refuted hrule hanswer hfound =>
      rw [responsesSince_of_sent rfl,
        length_responses_requests (found_succ (hstop.found hrule) ⟨hrule, hanswer, hfound⟩)]
  | confirmed hrules hpass =>
    rw [responsesSince_of_sent rfl, length_responses_requests fun j hj => found_of_passes hj (hpass j)]
  | empty hrules =>
    rw [responsesSince, List.drop_length]
    rfl

end Run

end VulnProbe
