import VulnProbe.Run.Probe

namespace VulnProbe

/-- A rule searches a response for evidence that is not there: the text is no pattern, has no named
    group or does not match. -/
def Rule.LacksEvidence (rule : Rule) (r : Response) : Prop :=
  ∃ pattern, rule.search = some pattern ∧ pattern ≠ "" ∧ extractCaptures? pattern r.body = none

/-- The bindings once a response came in: the response itself, and over it what the rule captures. -/
def Rule.bindingsAfter (rule : Rule) (params : Params) (r : Response) : Params :=
  match rule.searchPattern?.bind fun pattern => extractCaptures? pattern r.body with
  | some captures => (params.setResponse r).mergeCaptures captures
  | none => params.setResponse r

/-- The request of a rule under bindings, field by field. The path follows the target and the body is
    sent as UTF-8, both without their outer blanks and with their placeholders filled; the header values
    are filled as they stand, and nothing else depends on the bindings. -/
def Rule.filledRequest (rule : Rule) (params : Params) (target : String) : Request where
  method := rule.method
  url := target ++ fillPlaceholders params (Text.trim rule.path)
  body := (fillPlaceholders params (Text.trim rule.body)).toList.flatMap String.utf8EncodeChar
  headers := rule.headers.mapValues (fillPlaceholders params)
  noFollowRedirects := !rule.followRedirects
  timeoutSeconds := 10

/-- The request that probing makes of a substituted rule is the one spelled out field by field. -/
theorem Rule.request_substitute (rule : Rule) (params : Params) (target : String) :
    (rule.substitute params).request target = rule.filledRequest params target :=
  rfl

/-- A rule lacks its evidence if it searches and its search captures nothing. -/
theorem Rule.lacksEvidence_iff {rule : Rule} {r : Response} :
    rule.LacksEvidence r ↔
      ∃ pattern, rule.searchPattern? = some pattern ∧ extractCaptures? pattern r.body = none := by
  simp only [Rule.LacksEvidence, Rule.searchPattern?, Option.filter_eq_some_iff, decide_eq_true_eq,
    and_assoc]

/-- Without the evidence only the response is bound. -/
theorem Rule.bindingsAfter_of_lacksEvidence {rule : Rule} {params : Params} {r : Response}
    (hlacks : rule.LacksEvidence r) : rule.bindingsAfter params r = params.setResponse r := by
  obtain ⟨pattern, hpattern, hnone⟩ := Rule.lacksEvidence_iff.mp hlacks
  simp only [bindingsAfter, hpattern, Option.bind_some, hnone]

namespace Run

/-- The search of a run comes to nothing exactly if the rule lacks its evidence. Neither the bindings
    nor the state count. -/
theorem search?_eq_none_iff {run : Run} {rule : Rule} {r : Response} :
    run.search? rule r = none ↔ rule.LacksEvidence r := by
  rw [Rule.lacksEvidence_iff, search?]
  cases rule.searchPattern? with
  | none => simp
  | some pattern => simp

/-- Where the evidence is there, receiving and searching bind what the rule leaves and count one
    response more. -/
theorem search?_receive {run : Run} {rule : Rule} {r : Response} (hfound : ¬ rule.LacksEvidence r) :
    (run.receive r).search? rule r =
      some { run with params := rule.bindingsAfter run.params r, executed := run.executed + 1 } := by
  rw [Rule.lacksEvidence_iff] at hfound
  cases hpattern : rule.searchPattern? with
  | none => simp [search?, receive, Rule.bindingsAfter, hpattern]
  | some pattern =>
    cases hcaptures : extractCaptures? pattern r.body with
    | none => exact absurd ⟨pattern, hpattern, hcaptures⟩ hfound
    | some captures => simp [search?, receive, Rule.bindingsAfter, hpattern, hcaptures]

/-- The bindings before the rule with an index. A rule without a response leaves them as they are. -/
def paramsBefore (run : Run) (context : Context) (rules : List Rule) : Nat → Params
  | 0 => run.params
  | i + 1 =>
    let params := paramsBefore run context rules i
    match rules[i]? with
    | none => params
    | some rule =>
      match context.transport.after run.sent.length i (rule.filledRequest params context.target) with
      | .error _ => params
      | .ok r => rule.bindingsAfter params r

/-- The request of a rule at an index: its placeholders are filled from the bindings that the rules
    before it leave, and its path follows the target. -/
def requestAt (run : Run) (context : Context) (rules : List Rule) (i : Nat) (rule : Rule) : Request :=
  rule.filledRequest (run.paramsBefore context rules i) context.target

/-- The answer to the request of a rule at an index. -/
def answerAt (run : Run) (context : Context) (rules : List Rule) (i : Nat) (rule : Rule) : Answer :=
  context.transport.after run.sent.length i (run.requestAt context rules i rule)

/-- The requests of the first rules, in order. -/
def requests (run : Run) (context : Context) (rules : List Rule) (count : Nat) : List Request :=
  (rules.take count).mapIdx fun i rule => run.requestAt context rules i rule

/-- The run once the rules before an index were answered and passed. -/
def reached (run : Run) (context : Context) (rules : List Rule) (i : Nat) : Run where
  params := run.paramsBefore context rules i
  state := .running
  executed := run.executed + i
  sent := run.sent ++ run.requests context rules i

/-- Before any rule, a run has only become a running one. -/
theorem reached_zero (run : Run) (context : Context) (rules : List Rule) :
    run.reached context rules 0 = run.finish .running := by
  simp [reached, finish, requests, paramsBefore]

variable {run : Run} {context : Context} {rules : List Rule} {i : Nat} {rule : Rule}

/-- An answered rule leaves its response and its captures to the next one. -/
theorem paramsBefore_succ {r : Response} (hrule : rules[i]? = some rule)
    (hanswer : run.answerAt context rules i rule = .ok r) :
    run.paramsBefore context rules (i + 1) =
      rule.bindingsAfter (run.paramsBefore context rules i) r := by
  rw [answerAt, requestAt] at hanswer
  simp only [paramsBefore, hrule, hanswer]

/-- A rule without an answer leaves the bindings as they were. -/
theorem paramsBefore_succ_of_unanswered {issue : TransportIssue} (hrule : rules[i]? = some rule)
    (hanswer : run.answerAt context rules i rule = .error issue) :
    run.paramsBefore context rules (i + 1) = run.paramsBefore context rules i := by
  rw [answerAt, requestAt] at hanswer
  simp only [paramsBefore, hrule, hanswer]

/-- Each rule that is reached sends one request more, after those of the rules before it. -/
theorem requests_succ (hrule : rules[i]? = some rule) :
    run.requests context rules (i + 1) =
      run.requests context rules i ++ [run.requestAt context rules i rule] := by
  obtain ⟨hi, _⟩ := List.getElem?_eq_some_iff.mp hrule
  have htake : (rules.take i).length = i := by simp; omega
  rw [requests, List.take_add_one, hrule, Option.toList_some, List.mapIdx_append, htake]
  simp [requests]

private theorem length_sent_reached (hi : i ≤ rules.length) :
    (run.reached context rules i).sent.length = run.sent.length + i := by
  simp [reached, requests, hi]

/-- Sending the request of the rule at the index that a run has reached: the transport gives the
    answer of that index, and the request is the last one sent. -/
theorem send_reached (hrule : rules[i]? = some rule) :
    (run.reached context rules i).send context.transport
        ((rule.substitute (run.paramsBefore context rules i)).request context.target) =
      (run.answerAt context rules i rule,
        { run.reached context rules i with sent := run.sent ++ run.requests context rules (i + 1) }) := by
  obtain ⟨hi, _⟩ := List.getElem?_eq_some_iff.mp hrule
  have hsent : (run.reached context rules i).sent ++ [run.requestAt context rules i rule] =
      run.sent ++ run.requests context rules (i + 1) := by
    rw [requests_succ hrule, ← List.append_assoc]
    rfl
  rw [Rule.request_substitute, ← requestAt, send, length_sent_reached (by omega), answerAt]
  exact Prod.ext rfl (by rw [← hsent])

/-- A failed transport ends the probe of a rule: the bindings stay, and no response is counted. -/
theorem probe_unanswered (draws : Expr.Draws) {issue : TransportIssue} (hrule : rules[i]? = some rule)
    (hanswer : run.answerAt context rules i rule = .error issue) :
    (run.reached context rules i).probe context draws i rule =
      (.error (.transport i issue),
        ⟨run.paramsBefore context rules i, .aborted, run.executed + i,
          run.sent ++ run.requests context rules (i + 1)⟩) := by
  have hparams : (run.reached context rules i).params = run.paramsBefore context rules i := rfl
  rw [probe, hparams, send_reached hrule, hanswer]
  rfl

/-- A response without the evidence searched for ends the probe of a rule, bound and counted. -/
theorem probe_noEvidence (draws : Expr.Draws) {r : Response} (hrule : rules[i]? = some rule)
    (hanswer : run.answerAt context rules i rule = .ok r) (hlacks : rule.LacksEvidence r) :
    (run.reached context rules i).probe context draws i rule =
      (.ok false,
        ⟨(run.paramsBefore context rules i).setResponse r, .rejected, run.executed + (i + 1),
          run.sent ++ run.requests context rules (i + 1)⟩) := by
  have hparams : (run.reached context rules i).params = run.paramsBefore context rules i := rfl
  rw [probe, hparams, send_reached hrule, hanswer]
  simp only [search?_eq_none_iff.mpr (show (rule.substitute _).LacksEvidence r from hlacks)]
  rfl

/-- With the evidence at hand, the expression of a rule is judged under the bindings before the next
    rule. -/
theorem probe_answered (draws : Expr.Draws) {r : Response} (hrule : rules[i]? = some rule)
    (hanswer : run.answerAt context rules i rule = .ok r) (hfound : ¬ rule.LacksEvidence r) :
    (run.reached context rules i).probe context draws i rule =
      (run.reached context rules (i + 1)).judge context (draws.child (run.executed + i)) i rule := by
  have hparams : (run.reached context rules i).params = run.paramsBefore context rules i := rfl
  have hreached : run.reached context rules (i + 1) =
      ⟨rule.bindingsAfter (run.paramsBefore context rules i) r, .running, run.executed + i + 1,
        run.sent ++ run.requests context rules (i + 1)⟩ := by
    rw [reached, paramsBefore_succ hrule hanswer]
    rfl
  rw [probe, hparams, send_reached hrule, hanswer, hreached]
  simp only [search?_receive (show ¬ (rule.substitute _).LacksEvidence r from hfound)]
  rfl

end Run

end VulnProbe
