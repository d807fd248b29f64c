import VulnProbe.Proofs.Run.Composition
import VulnProbe.Proofs.Run.LatestResponse

namespace VulnProbe

variable {rule : Rule} {r : Response} {name : String} {captures : Dict String}

private theorem Params.mem_keys_mergeCaptures (params : Params) :
    name ∈ Dict.keys (params.mergeCaptures captures) ↔
      name ∈ Dict.keys captures ∨ name ∈ Dict.keys params := by
  rw [mergeCaptures, Dict.mem_keys_insertAll, Dict.keys_mapValues]

/-- Captures leave what is bound to other names. -/
theorem Params.get?_mergeCaptures_of_not_mem (params : Params) (hname : name ∉ Dict.keys captures) :
    Dict.get? name (params.mergeCaptures captures) = Dict.get? name params := by
  rw [mergeCaptures, Dict.get?_insertAll_of_not_mem]
  rwa [Dict.keys_mapValues]

namespace Rule

/-- What the response to a rule binds: its own name, and the names of what the rule captures, if the
    evidence is there. -/
def Binds (rule : Rule) (r : Response) (name : String) : Prop :=
  name = responseName ∨ ¬ rule.LacksEvidence r ∧ rule.CapturesAs name

private theorem mem_keys_of_search {pattern : String} (hpattern : rule.searchPattern? = some pattern)
    (hcaptures : extractCaptures? pattern r.body = some captures) :
    name ∈ Dict.keys captures ↔ rule.CapturesAs name := by
  rw [mem_keys_of_extractCaptures? hcaptures, CapturesAs, hpattern]
  simp only [Option.some.injEq, exists_and_left, exists_eq_left']

/-- The bindings after a response, told by the captures of the rule where it has any. -/
theorem bindingsAfter_cases (rule : Rule) (params : Params) (r : Response) :
    (rule.bindingsAfter params r = params.setResponse r ∧
      ∀ name, rule.Binds r name ↔ name = responseName) ∨
    ∃ captures, rule.bindingsAfter params r = (params.setResponse r).mergeCaptures captures ∧
      ∀ name, rule.Binds r name ↔ name = responseName ∨ name ∈ Dict.keys captures := by
  cases hpattern : rule.searchPattern? with
  | none =>
    refine .inl ⟨by rw [bindingsAfter, hpattern]; rfl, fun name => or_iff_left ?_⟩
    rintro ⟨-, pattern, regex, index, hsome, -⟩
    rw [hpattern] at hsome
    cases hsome
  | some pattern =>
    cases hcaptures : extractCaptures? pattern r.body with
    | none =>
      have hlacks : rule.LacksEvidence r := lacksEvidence_iff.mpr ⟨pattern, hpattern, hcaptures⟩
      refine .inl ⟨?_, fun name => or_iff_left fun hbinds => hbinds.1 hlacks⟩
      simp only [bindingsAfter, hpattern, Option.bind_some, hcaptures]
    | some captures =>
      have hfound : ¬ rule.LacksEvidence r := by
        intro hlacks
        obtain ⟨other, hother, hnone⟩ := lacksEvidence_iff.mp hlacks
        cases hpattern.symm.trans hother
        cases hcaptures.symm.trans hnone
      refine .inr ⟨captures, ?_, fun name => ?_⟩
      · simp only [bindingsAfter, hpattern, Option.bind_some, hcaptures]
      · rw [Binds, mem_keys_of_search hpattern hcaptures, and_iff_right hfound]

private theorem mem_keys_bindingsAfter (rule : Rule) (params : Params) (r : Response) :
    name ∈ Dict.keys (rule.bindingsAfter params r) ↔ name ∈ Dict.keys params ∨ rule.Binds r name := by
  obtain ⟨hafter, hbinds⟩ | ⟨captures, hafter, hbinds⟩ := rule.bindingsAfter_cases params r
  · rw [hafter, hbinds, Params.setResponse, Dict.mem_keys_insert, or_comm]
  · rw [hafter, hbinds, Params.mem_keys_mergeCaptures, Params.setResponse, Dict.mem_keys_insert]
    tauto

/-- A response leaves alone what it does not bind. -/
theorem get?_bindingsAfter (params : Params) (hnot : ¬ rule.Binds r name) :
    Dict.get? name (rule.bindingsAfter params r) = Dict.get? name params := by
  obtain ⟨hafter, hbinds⟩ | ⟨captures, hafter, hbinds⟩ := rule.bindingsAfter_cases params r
  · rw [hbinds] at hnot
    rw [hafter, Params.setResponse, Dict.get?_insert_of_ne hnot]
  · rw [hbinds, not_or] at hnot
    rw [hafter, Params.get?_mergeCaptures_of_not_mem _ hnot.2, Params.setResponse,
      Dict.get?_insert_of_ne hnot.1]

end Rule

namespace Run

/-- The probe of the rule at an index is completed in a run that leads to another: its request is among
    those sent, and the transport answered it with a response. -/
def Completes (run : Run) (context : Context) (rules : List Rule) (final : Run) (k : Nat) (rule : Rule)
    (r : Response) : Prop :=
  rules[k]? = some rule ∧ ∃ request, final.sent[run.sent.length + k]? = some request ∧
    context.transport (run.sent.length + k) request = .ok r

variable {run final : Run} {context : Context} {draws : Expr.Draws} {rules : List Rule} {n : Nat}

/-- A name is bound by one of the first rules, as the history tells them. -/
def BindsBefore (run : Run) (context : Context) (rules : List Rule) (n : Nat) (name : String) : Prop :=
  ∃ k < n, ∃ rule r, rules[k]? = some rule ∧ run.answerAt context rules k rule = .ok r ∧
    rule.Binds r name

private theorem bindsBefore_succ :
    run.BindsBefore context rules (n + 1) name ↔ run.BindsBefore context rules n name ∨
      ∃ rule r, rules[n]? = some rule ∧ run.answerAt context rules n rule = .ok r ∧
        rule.Binds r name := by
  simp only [BindsBefore, Nat.lt_succ_iff_lt_or_eq, or_and_right, exists_or, exists_eq_left]

/-- The rule at an index either answers and binds, or leaves the bindings as they are. -/
theorem paramsBefore_succ_cases (run : Run) (context : Context) (rules : List Rule) (n : Nat) :
    (∃ rule r, rules[n]? = some rule ∧ run.answerAt context rules n rule = .ok r) ∨
      ((∀ rule r, rules[n]? = some rule → run.answerAt context rules n rule ≠ .ok r) ∧
        run.paramsBefore context rules (n + 1) = run.paramsBefore context rules n) := by
  cases hrule : rules[n]? with
  | none =>
    refine .inr ⟨?_, by simp only [paramsBefore, hrule]⟩
    rintro rule r hrule
    cases hrule
  | some rule =>
    cases hanswer : run.answerAt context rules n rule with
    | ok r => exact .inl ⟨rule, r, rfl, hanswer⟩
    | error issue =>
      refine .inr ⟨?_, paramsBefore_succ_of_unanswered hrule hanswer⟩
      rintro other r hother
      cases hother
      rw [hanswer]
      rintro ⟨⟩

/-- What is bound before a rule are the names bound at first and those that the rules before it bind. -/
theorem mem_keys_paramsBefore (run : Run) (context : Context) (rules : List Rule) (n : Nat) :
    name ∈ Dict.keys (run.paramsBefore context rules n) ↔
      name ∈ Dict.keys run.params ∨ run.BindsBefore context rules n name := by
  induction n with
  | zero => exact (or_iff_left fun h => by obtain ⟨k, hk, -⟩ := h; cases hk).symm
  | succ n ih =>
    rw [bindsBefore_succ, ← or_assoc, ← ih]
    obtain ⟨rule, r, hrule, hanswer⟩ | ⟨hnone, hsame⟩ :=
      paramsBefore_succ_cases run context rules n
    · rw [paramsBefore_succ hrule hanswer, Rule.mem_keys_bindingsAfter]
      simp only [hrule, Option.some.injEq, exists_and_left, exists_eq_left', hanswer,
        Except.ok.injEq]
    · rw [hsame]
      refine (or_iff_left ?_).symm
      rintro ⟨rule, r, hrule, hanswer, -⟩
      exact hnone rule r hrule hanswer

private theorem get?_paramsBefore (hnot : ¬ run.BindsBefore context rules n name) :
    Dict.get? name (run.paramsBefore context rules n) = Dict.get? name run.params := by
  induction n with
  | zero => rfl
  | succ n ih =>
    rw [bindsBefore_succ, not_or] at hnot
    obtain ⟨rule, r, hrule, hanswer⟩ | ⟨-, hsame⟩ := paramsBefore_succ_cases run context rules n
    · rw [paramsBefore_succ hrule hanswer, Rule.get?_bindingsAfter, ih hnot.1]
      exact fun hbinds => hnot.2 ⟨rule, r, hrule, hanswer, hbinds⟩
    · rw [hsame, ih hnot.1]

/-- The probes that a run has completed are those that its history tells as answered. -/
theorem completes_iff (hsent : final.sent = run.sent ++ run.requests context rules n) {k : Nat} :
    run.Completes context rules final k rule r ↔
      k < n ∧ rules[k]? = some rule ∧ run.answerAt context rules k rule = .ok r := by
  have hrequest : final.sent[run.sent.length + k]? =
      if k < n then rules[k]?.map (run.requestAt context rules k) else none := by
    rw [hsent, List.getElem?_append_right (Nat.le_add_right _ _), Nat.add_sub_cancel_left, requests,
      List.getElem?_mapIdx, List.getElem?_take]
    split <;> rfl
  rw [Completes, hrequest, and_left_comm]
  refine and_congr_right fun hrule => ?_
  rw [hrule]
  by_cases hk : k < n
  · rw [if_pos hk, and_iff_right hk]
    simp only [Option.map_some, Option.some.injEq, exists_eq_left']
    rfl
  · rw [if_neg hk]
    refine iff_of_false ?_ fun h => hk h.1
    rintro ⟨request, hnone, -⟩
    cases hnone

private theorem exists_completes_iff (hsent : final.sent = run.sent ++ run.requests context rules n) :
    (∃ k rule r, run.Completes context rules final k rule r ∧ rule.Binds r name) ↔
      run.BindsBefore context rules n name := by
  simp only [completes_iff hsent, BindsBefore, and_assoc, exists_and_left]

/-- The rules before one that all let a run go on can be executed alone, and leave what the history
    tells. -/
theorem probeAll_take (hn : n ≤ rules.length)
    (hpass : ∀ j < n, ∀ s, ¬ StopsAt run context draws rules j s) :
    probeAll context draws 0 (rules.take n) (run.finish .running) =
      (.ok true, run.reached context rules n) := by
  induction n with
  | zero => rw [reached_zero, List.take_zero, probeAll]
  | succ n ih =>
    have hrule : rules[n]? = some rules[n] := List.getElem?_eq_getElem (by omega)
    have hlength : (rules.take n).length = n := List.length_take_of_le (by omega)
    rw [List.take_add_one, hrule, Option.toList_some, probeAll_append,
      ih (by omega) fun j hj => hpass j (by omega)]
    simp only [probeAll, hlength, Nat.zero_add, probe_of_passes hrule (hpass n (by omega))]

private theorem params_execute_take (hn : n ≤ rules.length)
    (hpass : ∀ j < n, ∀ s, ¬ StopsAt run context draws rules j s) :
    (run.execute context draws (rules.take n)).2.params = run.paramsBefore context rules n := by
  rw [execute, probeAll_take hn hpass]
  cases (rules.take n).isEmpty <;> rfl

/-- After a failure of the transport the bindings are those that the rules before it leave. -/
theorem params_of_unanswered {i : Nat} {issue : TransportIssue}
    (hfailed : (run.execute context draws rules).1 = .error (.transport i issue)) :
    (run.execute context draws rules).2.params =
      (run.execute context draws (rules.take i)).2.params := by
  obtain ⟨final, hverdict⟩ := exists_verdict run context draws rules
  rw [execute_of_verdict hverdict] at hfailed ⊢
  cases hverdict with
  | @unanswered k issue' hstop =>
    cases hfailed
    cases hstop.1 with
    | unanswered hrule hanswer =>
      obtain ⟨hi, -⟩ := List.getElem?_eq_some_iff.mp hrule
      exact (params_execute_take (Nat.le_of_lt hi) hstop.2).symm
  | noEvidence | refuted | confirmed | empty => cases hfailed
  | faulty => cases hfailed

/-- Whichever way a run ends, it has bound what the completed probes bind, in addition to what was bound
    before, and has changed nothing else. -/
theorem params_execute (run : Run) (context : Context) (draws : Expr.Draws) (rules : List Rule) :
    let final := (run.execute context draws rules).2
    (∀ name, name ∈ Dict.keys final.params ↔ name ∈ Dict.keys run.params ∨
      ∃ k rule r, run.Completes context rules final k rule r ∧ rule.Binds r name) ∧
    (∀ name, Dict.get? name final.params ≠ Dict.get? name run.params →
      ∃ k rule r, run.Completes context rules final k rule r ∧ rule.Binds r name) ∧
    ∀ i issue, (run.execute context draws rules).1 = .error (.transport i issue) →
      final.params = (run.execute context draws (rules.take i)).2.params := by
  intro final
  obtain ⟨n, hparams, hsent⟩ := exists_history run context draws rules
  refine ⟨fun name => ?_, fun name hchanged => ?_, fun i issue => params_of_unanswered⟩
  · rw [hparams, mem_keys_paramsBefore, exists_completes_iff hsent]
  · rw [exists_completes_iff hsent]
    by_contra hnot
    rw [hparams] at hchanged
    exact hchanged (get?_paramsBefore hnot)

/-- A rule captures a text from its response, and the next one gets no response: the bindings at the end
    are those that the first rule leaves. -/
theorem params_execute_sample :
    let response : Response := { status := 200, body := [111, 107], headers := [], contentType := "" }
    let rule : Rule :=
      { method := "GET", path := "/", body := "", headers := [], followRedirects := true
        search := some "(?P<t>k)", expression := "true" }
    let context : Context :=
      { target := "http://t", registry := .initial
        transport := fun k _ => if k = 0 then .ok response else .error .noMoreAnswers }
    let final := (start []).execute context (.ofSeed 0) [rule, rule]
    final.1 = .error (.transport 1 .noMoreAnswers) ∧
      final.2.params = ((start []).execute context (.ofSeed 0) [rule]).2.params ∧
      Dict.get? "t" final.2.params ≠ Dict.get? "t" (start []).params ∧
      ∃ k found r, (start []).Completes context [rule, rule] final.2 k found r ∧
        found.Binds r "t" := by
  intro response rule context final
  have hfailed : final.1 = .error (.transport 1 .noMoreAnswers) := by decide +kernel +zetaReduce
  have hbound : (Dict.get? "t" final.2.params).isSome = true := by decide +kernel +zetaReduce
  have hchanged : Dict.get? "t" final.2.params ≠ Dict.get? "t" (start []).params := by
    intro hsame
    rw [hsame] at hbound
    cases hbound
  obtain ⟨-, hframe, hunanswered⟩ := params_execute (start []) context (.ofSeed 0) [rule, rule]
  exact ⟨hfailed, hunanswered 1 _ hfailed, hchanged, hframe "t" hchanged⟩

end Run

end VulnProbe
