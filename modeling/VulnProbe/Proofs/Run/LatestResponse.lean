import VulnProbe.Proofs.Dict
import VulnProbe.Proofs.Run.Responses

namespace VulnProbe

section Captures

variable {pattern name : String} {body : List UInt8} {captures : Dict String}

private theorem extractCaptures?_eq_some (hcaptures : extractCaptures? pattern body = some captures) :
    ∃ regex groups, Regex.compile pattern = .ok regex ∧ regex.captures? body = some groups ∧
      captures = Dict.ofList (groups.map fun (name, bytes) => (name, Expr.groupText bytes)) := by
  rw [extractCaptures?] at hcaptures
  cases hregex : Regex.compile pattern with
  | error issue => simp only [hregex, reduceCtorEq] at hcaptures
  | ok regex =>
    simp only [hregex] at hcaptures
    by_cases hnames : regex.groups.all (·.2.isNone) = true
    · rw [if_pos hnames] at hcaptures
      cases hcaptures
    · rw [if_neg hnames] at hcaptures
      obtain ⟨groups, hgroups, rfl⟩ := Option.map_eq_some_iff.mp hcaptures
      exact ⟨regex, groups, rfl, hgroups, rfl⟩

private theorem mem_keys_of_captures? {regex : Regex} {groups : List (String × Option (List UInt8))}
    (hgroups : regex.captures? body = some groups) :
    name ∈ Dict.keys groups ↔ ∃ index, (index, some name) ∈ regex.groups := by
  rw [Regex.captures?] at hgroups
  obtain ⟨slots, -, rfl⟩ := Option.map_eq_some_iff.mp hgroups
  constructor
  · intro hname
    obtain ⟨entry, hentry, rfl⟩ := List.mem_map.mp hname
    obtain ⟨⟨index, group⟩, hgroup, hsome⟩ := List.mem_filterMap.mp hentry
    obtain ⟨name, rfl, rfl⟩ := Option.map_eq_some_iff.mp hsome
    exact ⟨index, hgroup⟩
  · rintro ⟨index, hgroup⟩
    exact List.mem_map.mpr ⟨_, List.mem_filterMap.mpr ⟨_, hgroup, rfl⟩, rfl⟩

/-- What a pattern captures is named by its groups, those included that took no part in the match. -/
theorem mem_keys_of_extractCaptures? (hcaptures : extractCaptures? pattern body = some captures) :
    name ∈ Dict.keys captures ↔
      ∃ regex index, Regex.compile pattern = .ok regex ∧ (index, some name) ∈ regex.groups := by
  obtain ⟨regex, groups, hregex, hgroups, rfl⟩ := extractCaptures?_eq_some hcaptures
  have hkeys : Dict.keys (groups.map fun (name, bytes) => (name, Expr.groupText bytes)) =
      Dict.keys groups := by
    rw [Dict.keys, List.map_map]
    rfl
  rw [Dict.mem_keys_ofList, hkeys, mem_keys_of_captures? hgroups, hregex]
  constructor
  · rintro ⟨index, hgroup⟩
    exact ⟨regex, index, rfl, hgroup⟩
  · rintro ⟨other, index, hother, hgroup⟩
    cases hother
    exact ⟨index, hgroup⟩

private theorem Params.response?_setResponse (params : Params) (r : Response) :
    (params.setResponse r).response? = some r := by
  rw [response?, setResponse, Dict.get?_insert_self]

/-- Captured texts take the place of the response exactly if one of them has its name. -/
theorem Params.response?_mergeCaptures (params : Params) (r : Response)
    (hcaptures : Dict.Sorted captures) :
    ((params.setResponse r).mergeCaptures captures).response? = some r ↔
      responseName ∉ Dict.keys captures := by
  have hkeys : (Dict.keys (Dict.mapValues Value.string captures)).Nodup := by
    rw [Dict.keys_mapValues]
    exact hcaptures.nodup
  rw [response?, mergeCaptures, Dict.get?_insertAll hkeys, Dict.get?_mapValues,
    ← Dict.get?_eq_none_iff, setResponse, Dict.get?_insert_self]
  cases Dict.get? responseName captures with
  | none => exact iff_of_true rfl rfl
  | some text => exact iff_of_false (by simp) (by simp)

end Captures

namespace Rule

variable {rule : Rule} {r : Response}

/-- The pattern that a rule searches for has a group of a name. -/
def CapturesAs (rule : Rule) (name : String) : Prop :=
  ∃ pattern regex index, rule.searchPattern? = some pattern ∧ Regex.compile pattern = .ok regex ∧
    (index, some name) ∈ regex.groups

/-- Where the evidence is found, the response stays bound exactly if no group takes its name. -/
theorem response?_bindingsAfter (params : Params) (hfound : ¬ rule.LacksEvidence r) :
    (rule.bindingsAfter params r).response? = some r ↔ ¬ rule.CapturesAs responseName := by
  rw [lacksEvidence_iff] at hfound
  rw [bindingsAfter, CapturesAs]
  cases hpattern : rule.searchPattern? with
  | none =>
    refine iff_of_true (Params.response?_setResponse params r) ?_
    rintro ⟨pattern, regex, index, hsome, -⟩
    cases hsome
  | some pattern =>
    cases hcaptures : extractCaptures? pattern r.body with
    | none => exact absurd ⟨pattern, hpattern, hcaptures⟩ hfound
    | some captures =>
      have hsorted : Dict.Sorted captures := by
        obtain ⟨regex, groups, -, -, rfl⟩ := extractCaptures?_eq_some hcaptures
        exact Dict.sorted_ofList _
      simp only [Option.bind_some, hcaptures, Option.some.injEq, exists_and_left, exists_eq_left']
      rw [Params.response?_mergeCaptures params r hsorted, mem_keys_of_extractCaptures? hcaptures]
      simp only [exists_and_left]

end Rule

namespace Run

/-- The expression of a rule is evaluated in the course of a run, in the state given last. The first
    of the rules has the index given first. -/
inductive Evaluates (context : Context) (draws : Expr.Draws) :
    Nat → List Rule → Run → Nat → Rule → Run → Prop where
  | here {index : Nat} {rule : Rule} {rest : List Rule} {run next judged : Run} {r : Response}
      (hsend : run.send context.transport ((rule.substitute run.params).request context.target) =
        (.ok r, next))
      (hsearch : (next.receive r).search? (rule.substitute run.params) r = some judged) :
      Evaluates context draws index (rule :: rest) run index rule judged
  | later {index i : Nat} {rule other : Rule} {rest : List Rule} {run next judged : Run}
      (hprobe : run.probe context draws index rule = (.ok true, next))
      (hlater : Evaluates context draws (index + 1) rest next i other judged) :
      Evaluates context draws index (rule :: rest) run i other judged

variable {run judged final : Run} {context : Context} {draws : Expr.Draws} {rules : List Rule}
  {i n : Nat} {rule : Rule} {r : Response}

/-- A rule that lets the run go on leaves it as the history tells. -/
theorem eq_reached_of_probe {next : Run} (hrule : rules[i]? = some rule)
    (hprobe : (run.reached context rules i).probe context draws i rule = (.ok true, next)) :
    next = run.reached context rules (i + 1) := by
  cases hanswer : run.answerAt context rules i rule with
  | error issue =>
    rw [probe_unanswered draws hrule hanswer] at hprobe
    cases hprobe
  | ok r =>
    by_cases hlacks : rule.LacksEvidence r
    · rw [probe_noEvidence draws hrule hanswer hlacks] at hprobe
      cases hprobe
    rw [probe_answered draws hrule hanswer hlacks, judge] at hprobe
    split at hprobe
    · cases hprobe
    split at hprobe
    · cases hprobe
    · cases hprobe
      rfl

/-- An expression is evaluated in the state that the history tells. -/
theorem Evaluates.found (hevaluates : Evaluates context draws n (rules.drop n)
      (run.reached context rules n) i rule judged) :
    ∃ r, run.Found context rules i rule r ∧ judged = run.reached context rules (i + 1) := by
  generalize hrest : rules.drop n = rest at hevaluates
  generalize hrun : run.reached context rules n = current at hevaluates
  induction hevaluates with
  | @here n rule rest current next judged r hsend hsearch =>
    subst hrun
    have hrule : rules[n]? = some rule := by
      rw [← List.head?_drop, hrest, List.head?_cons]
    have hparams : (run.reached context rules n).params = run.paramsBefore context rules n := rfl
    rw [hparams, send_reached hrule, Prod.mk.injEq] at hsend
    obtain ⟨hanswer, rfl⟩ := hsend
    have hfound : ¬ (rule.substitute (run.paramsBefore context rules n)).LacksEvidence r := by
      intro hlacks
      rw [hparams, search?_eq_none_iff.mpr hlacks] at hsearch
      cases hsearch
    rw [hparams, search?_receive hfound, Option.some.injEq] at hsearch
    refine ⟨r, ⟨hrule, hanswer, hfound⟩, ?_⟩
    have hnext : run.reached context rules (n + 1) =
        ⟨rule.bindingsAfter (run.paramsBefore context rules n) r, .running, run.executed + (n + 1),
          run.sent ++ run.requests context rules (n + 1)⟩ := by
      rw [reached, paramsBefore_succ hrule hanswer]
    rw [hnext, ← hsearch]
    rfl
  | @later n i rule other rest current next judged hprobe hlater ih =>
    subst hrun
    have hrule : rules[n]? = some rule := by
      rw [← List.head?_drop, hrest, List.head?_cons]
    refine ih ?_ (eq_reached_of_probe hrule hprobe).symm
    rw [← List.tail_drop, hrest, List.tail_cons]

private theorem getLast?_responses_requests (hrule : rules[i]? = some rule)
    (hanswer : run.answerAt context rules i rule = .ok r) :
    (context.transport.responses run.sent.length (run.requests context rules (i + 1))).getLast? =
      some r := by
  rw [responses_requests_succ hrule, hanswer]
  exact List.getLast?_concat

/-- The last response that a run received is bound at its end, unless the rule that it answered has
    captured something in its place. -/
def EndsWithLatest (run : Run) (context : Context) (rules : List Rule) (final : Run) : Prop :=
  ∀ r, (final.responsesSince context.transport run.sent.length).getLast? = some r →
    ∃ k rule, rules[k]? = some rule ∧ final.executed = run.executed + (k + 1) ∧
      (final.params.response? = some r ↔ (rule.CapturesAs responseName → rule.LacksEvidence r))

private theorem endsWithLatest_of_found (hfound : ∀ j < n, ∃ rule r, run.Found context rules j rule r)
    (hparams : final.params = run.paramsBefore context rules n)
    (hexecuted : final.executed = run.executed + n)
    (hresponses : final.responsesSince context.transport run.sent.length =
      context.transport.responses run.sent.length (run.requests context rules n)) :
    run.EndsWithLatest context rules final := by
  intro r hlatest
  rw [hresponses] at hlatest
  cases n with
  | zero => cases hlatest
  | succ k =>
    obtain ⟨rule, r', hlast⟩ := hfound k (Nat.lt_add_one k)
    rw [getLast?_responses_requests hlast.rule_at hlast.answer, Option.some.injEq] at hlatest
    subst hlatest
    refine ⟨k, rule, hlast.rule_at, hexecuted, ?_⟩
    rw [hparams, paramsBefore_succ hlast.rule_at hlast.answer,
      Rule.response?_bindingsAfter _ hlast.evidence]
    exact (imp_iff_not hlast.evidence).symm

private theorem endsWithLatest_execute (run : Run) (context : Context) (draws : Expr.Draws)
    (rules : List Rule) :
    run.EndsWithLatest context rules (run.execute context draws rules).2 := by
  obtain ⟨final, hverdict⟩ := exists_verdict run context draws rules
  rw [execute_of_verdict hverdict]
  cases hverdict with
  | @unanswered k issue hstop =>
    cases hstop.1 with
    | unanswered hrule hanswer =>
      refine endsWithLatest_of_found (hstop.found hrule) rfl rfl ?_
      rw [responsesSince_of_sent rfl, responses_requests_succ hrule, hanswer]
      exact List.append_nil _
  | @noEvidence k r hstop =>
    cases hstop.1 with
    | @noEvidence rule _ hrule hanswer hlacks =>
      intro r' hlatest
      rw [responsesSince_of_sent rfl, getLast?_responses_requests hrule hanswer,
        Option.some.injEq] at hlatest
      subst hlatest
      exact ⟨k, rule, hrule, rfl, iff_of_true (Params.response?_setResponse _ r) fun _ => hlacks⟩
  | @faulty k cause hstop =>
    cases hstop.1 with
    | faulty hrule hanswer hfound =>
      have hall := found_succ (hstop.found hrule) ⟨hrule, hanswer, hfound⟩
      exact endsWithLatest_of_found hall rfl rfl (responsesSince_of_sent rfl)
  | @refuted k hstop =>
    cases hstop.1 with
    | refuted hrule hanswer hfound =>
      have hall := found_succ (hstop.found hrule) ⟨hrule, hanswer, hfound⟩
      exact endsWithLatest_of_found hall rfl rfl (responsesSince_of_sent rfl)
  | confirmed hrules hpass =>
    have hall : ∀ j < rules.length, ∃ rule r, run.Found context rules j rule r :=
      fun j hj => found_of_passes hj (hpass j)
    exact endsWithLatest_of_found hall rfl rfl (responsesSince_of_sent rfl)
  | empty hrules =>
    intro r hlatest
    rw [responsesSince, List.drop_length] at hlatest
    cases hlatest

/-- Whenever the expression of a rule is evaluated, the latest response is bound, unless the rule has
    just captured something in its place; and so it is at the end of a run. -/
theorem response?_execute (run : Run) (context : Context) (draws : Expr.Draws) (rules : List Rule) :
    (∀ i rule judged, Evaluates context draws 0 rules (run.finish .running) i rule judged →
      ∃ r, (judged.responsesSince context.transport run.sent.length).getLast? = some r ∧
        (judged.params.response? = some r ↔ ¬ rule.CapturesAs responseName)) ∧
      run.EndsWithLatest context rules (run.execute context draws rules).2 := by
  refine ⟨fun i rule judged hevaluates => ?_, endsWithLatest_execute run context draws rules⟩
  rw [← reached_zero run context rules] at hevaluates
  obtain ⟨r, hfound, rfl⟩ := hevaluates.found
  refine ⟨r, ?_, ?_⟩
  · rw [responsesSince_of_sent rfl]
    exact getLast?_responses_requests hfound.rule_at hfound.answer
  · have hparams : (run.reached context rules (i + 1)).params = run.paramsBefore context rules (i + 1) :=
      rfl
    rw [hparams, paramsBefore_succ hfound.rule_at hfound.answer]
    exact Rule.response?_bindingsAfter _ hfound.evidence

/-- Two rules that each capture a part of their response, under a name of its own. When the expression of
    the second is evaluated, the second response is bound, and so is what was captured from it. -/
theorem response?_execute_sample :
    let response (text : String) : Response :=
      { status := 200, body := Utf8.ofString text, headers := [], contentType := "" }
    let rule (path : String) : Rule :=
      { method := "GET", path := path, body := "", headers := [], followRedirects := true
        search := some "id=(?P<t>[a-z]+)", expression := "true" }
    let context : Context :=
      { target := "http://t", registry := .initial
        transport := .ofList [.ok (response "id=ab"), .ok (response "id=cd")] }
    let rules := [rule "/a", rule "/b"]
    let judged := (start []).reached context rules 2
    Evaluates context (.ofSeed 0) 0 rules ((start []).finish .running) 1 (rule "/b") judged ∧
      judged.params.response? = some (response "id=cd") ∧
      (Dict.get? "t" judged.params).map Value.text = some "cd" := by
  intro response rule context rules judged
  let probed := ((start []).finish .running).probe context (.ofSeed 0) 0 (rule "/a")
  let second := (rule "/b").substitute probed.2.params
  let sent := probed.2.send context.transport (second.request context.target)
  have hprobe : probed = (.ok true, probed.2) := Prod.ext (by decide +kernel +zetaReduce) rfl
  have hsend : sent = (.ok (response "id=cd"), sent.2) :=
    Prod.ext (by decide +kernel +zetaReduce) rfl
  have hsearch : ((sent.2.receive (response "id=cd")).search? second (response "id=cd")).isSome := by
    decide +kernel +zetaReduce
  obtain ⟨found, hfound⟩ := Option.isSome_iff_exists.mp hsearch
  have hevaluates :
      Evaluates context (.ofSeed 0) 0 rules ((start []).finish .running) 1 (rule "/b") found :=
    .later hprobe (.here hsend hfound)
  obtain ⟨r, hlatest, hkept⟩ :=
    (response?_execute (start []) context (.ofSeed 0) rules).1 1 (rule "/b") found hevaluates
  obtain rfl : found = judged := by
    rw [← reached_zero _ context rules] at hevaluates
    obtain ⟨-, -, hjudged⟩ := hevaluates.found
    exact hjudged
  have hr : some r = some (response "id=cd") := hlatest.symm.trans (by decide)
  have hnot : ¬ (rule "/b").CapturesAs responseName := by
    rintro ⟨pattern, regex, index, hpattern, hregex, hgroup⟩
    cases hpattern
    have hgroups :
        (Regex.compile "id=(?P<t>[a-z]+)").toOption.map Regex.groups = some [(1, some "t")] := by
      decide +kernel
    rw [hregex] at hgroups
    rw [Option.some.inj hgroups] at hgroup
    simp [responseName] at hgroup
  exact ⟨hevaluates, hr ▸ hkept.mpr hnot, by decide +kernel +zetaReduce⟩

/-- A group that is named like the response takes its place before the expression is evaluated. -/
theorem evaluates_capture_named_response :
    let response : Response := { status := 200, body := [111, 107], headers := [], contentType := "" }
    let rule : Rule :=
      { method := "GET", path := "/", body := "", headers := [], followRedirects := true
        search := some "(?P<response>ok)", expression := "response.status == 200" }
    let context : Context :=
      { target := "http://t", registry := .initial, transport := fun _ _ => .ok response }
    let judged : Run :=
      { params := (Params.setResponse [] response).mergeCaptures [("response", "ok")]
        state := .running, executed := 1, sent := [(rule.substitute []).request context.target] }
    Evaluates context (.ofSeed 0) 0 [rule] ((start []).finish .running) 0 rule judged ∧
      (judged.responsesSince context.transport 0).getLast? = some response ∧
      judged.params.response? ≠ some response := by
  intro response rule context judged
  have hcaptures : extractCaptures? "(?P<response>ok)" [111, 107] = some [("response", "ok")] := by
    decide +kernel
  have hsearch (run : Run) (params : Params) : run.search? (rule.substitute params) response =
      some { run with params := run.params.mergeCaptures [("response", "ok")] } := by
    have hpattern : (rule.substitute params).searchPattern? = some "(?P<response>ok)" := rfl
    rw [search?, hpattern]
    dsimp only
    rw [show extractCaptures? _ response.body = _ from hcaptures, Option.map_some]
  refine ⟨.here rfl (hsearch _ _), rfl, fun hkept => ?_⟩
  have hsorted : Dict.Sorted [("response", "ok")] := List.pairwise_singleton _ _
  exact (Params.response?_mergeCaptures [] response hsorted).mp hkept List.mem_cons_self

end Run

end VulnProbe
