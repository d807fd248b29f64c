import Mathlib.Control.Monad.Basic
import VulnProbe.Run.Probe

namespace VulnProbe

namespace Run

/-- Outcomes that leave the same run and have the same result, but that the second names the rule of a
    failure by an index `count` higher. -/
inductive ShiftedBy (count : Nat) : Except Failure Bool × Run → Except Failure Bool × Run → Prop where
  | verdict (matched : Bool) (final : Run) : ShiftedBy count (.ok matched, final) (.ok matched, final)
  | unanswered (index : Nat) (issue : TransportIssue) (final : Run) :
      ShiftedBy count (.error (.transport index issue), final)
        (.error (.transport (index + count) issue), final)
  | faulty (index : Nat) (cause : ExprError) (final : Run) :
      ShiftedBy count (.error (.ofRule index cause), final)
        (.error (.ofRule (index + count) cause), final)

variable {run next : Run} {context : Context} {draws : Expr.Draws} {first rest : List Rule}

private theorem shiftedBy_judge (run : Run) (context : Context) (draws : Expr.Draws) (count index : Nat)
    (rule : Rule) :
    ShiftedBy count (run.judge context draws index rule)
      (run.judge context draws (index + count) rule) := by
  rw [judge, judge]
  cases context.registry.evaluate run.params draws rule.expression with
  | error cause => exact .faulty index cause _
  | ok v =>
    by_cases hfalse : (v.text == rejection) = true
    · simp only [hfalse, if_true]
      exact .verdict false _
    · simp only [hfalse]
      exact .verdict true _

private theorem shiftedBy_probe (run : Run) (context : Context) (draws : Expr.Draws) (count index : Nat)
    (rule : Rule) :
    ShiftedBy count (run.probe context draws index rule)
      (run.probe context draws (index + count) rule) := by
  simp only [probe]
  cases run.send context.transport ((rule.substitute run.params).request context.target) with
  | mk answer sent =>
    cases answer with
    | error issue => exact .unanswered index issue _
    | ok response =>
      cases hsearch : (sent.receive response).search? (rule.substitute run.params) response with
      | none =>
        simp only [hsearch]
        exact .verdict false _
      | some found =>
        simp only [hsearch]
        exact shiftedBy_judge found context _ count index _

/-- The index from which rules are counted shows in the names of failures alone. -/
theorem shiftedBy_probeAll (context : Context) (draws : Expr.Draws) (count : Nat) (rules : List Rule) :
    ∀ (index : Nat) (run : Run), ShiftedBy count (probeAll context draws index rules run)
      (probeAll context draws (index + count) rules run) := by
  induction rules with
  | nil => exact fun _ run => .verdict true run
  | cons rule rules ih =>
    intro index run
    have hprobe := shiftedBy_probe run context draws count index rule
    rw [probeAll, probeAll]
    generalize run.probe context draws index rule = here at hprobe ⊢
    generalize run.probe context draws (index + count) rule = there at hprobe ⊢
    cases hprobe with
    | verdict matched next =>
      cases matched with
      | false => exact .verdict false next
      | true =>
        have hindex : index + count + 1 = index + 1 + count := by omega
        simp only [hindex]
        exact ih (index + 1) next
    | unanswered k issue next => exact .unanswered k issue next
    | faulty k cause next => exact .faulty k cause next

private theorem state_of_search? {found : Run} {rule : Rule} {r : Response}
    (hsearch : run.search? rule r = some found) : found.state = run.state := by
  rw [search?] at hsearch
  cases hpattern : rule.searchPattern? with
  | none =>
    simp only [hpattern, Option.some.injEq] at hsearch
    rw [hsearch]
  | some pattern =>
    simp only [hpattern, Option.map_eq_some_iff] at hsearch
    obtain ⟨captures, -, rfl⟩ := hsearch
    rfl

private theorem eq_of_judge {index : Nat} {rule : Rule}
    (hjudge : run.judge context draws index rule = (.ok true, next)) : next = run := by
  rw [judge] at hjudge
  split at hjudge
  · simp at hjudge
  · split at hjudge
    · simp at hjudge
    · exact (Prod.mk.inj hjudge).2.symm

/-- A rule that lets the run go on leaves its state as it is. -/
theorem state_of_probe {index : Nat} {rule : Rule}
    (hprobe : run.probe context draws index rule = (.ok true, next)) : next.state = run.state := by
  simp only [probe] at hprobe
  cases hsend : run.send context.transport ((rule.substitute run.params).request context.target) with
  | mk answer sent =>
    have hsent : sent.state = run.state := congrArg (fun p => p.2.state) hsend.symm
    cases answer with
    | error issue => simp [hsend] at hprobe
    | ok response =>
      cases hsearch : (sent.receive response).search? (rule.substitute run.params) response with
      | none => simp [hsend, hsearch] at hprobe
      | some found =>
        simp only [hsend, hsearch] at hprobe
        rw [eq_of_judge hprobe, state_of_search? hsearch]
        exact hsent

private theorem state_of_probeAll {rules : List Rule} :
    ∀ {index : Nat} {run next : Run}, probeAll context draws index rules run = (.ok true, next) →
      next.state = run.state := by
  induction rules with
  | nil =>
    intro index run next hall
    cases hall
    rfl
  | cons rule rules ih =>
    intro index run next hall
    rw [probeAll] at hall
    split at hall
    · rename_i middle hprobe
      exact (ih hall).trans (state_of_probe hprobe)
    · rename_i hstops
      exact absurd hall (hstops next)

/-- Rules after others are probed if all of those let the run go on. -/
theorem probeAll_append (context : Context) (draws : Expr.Draws) (first rest : List Rule) :
    ∀ (index : Nat) (run : Run), probeAll context draws index (first ++ rest) run =
      match probeAll context draws index first run with
      | (.ok true, next) => probeAll context draws (index + first.length) rest next
      | stopped => stopped := by
  induction first with
  | nil => exact fun _ _ => rfl
  | cons rule first ih =>
    intro index run
    rw [List.cons_append, probeAll, probeAll, List.length_cons]
    cases run.probe context draws index rule with
    | mk result middle =>
      match result with
      | .error _ | .ok false => rfl
      | .ok true =>
        simp only [ih]
        rw [Nat.add_right_comm, ← Nat.add_assoc]

/-- The end of a run whose rules were all probed: if they let it go on, they confirm it. -/
def concluded : Except Failure Bool × Run → Except Failure Bool × Run
  | (.ok true, reached) => (.ok true, reached.finish .confirmed)
  | stopped => stopped

private theorem execute_eq_concluded (hfirst : first ≠ []) :
    run.execute context draws first =
      concluded (probeAll context draws 0 first (run.finish .running)) := by
  have hempty : first.isEmpty = false := by simpa using hfirst
  simp only [execute, hempty]
  rfl

private theorem ShiftedBy.concluded {count : Nat} {alone behind : Except Failure Bool × Run}
    (hshift : ShiftedBy count alone behind) :
    ShiftedBy count (concluded alone) (concluded behind) := by
  cases hshift with
  | verdict matched final =>
    cases matched with
    | false => exact .verdict false final
    | true => exact .verdict true (final.finish .confirmed)
  | unanswered index issue final => exact .unanswered index issue final
  | faulty index cause final => exact .faulty index cause final

/-- Rules that are executed after others come to what they come to after those alone, and the failures
    among them name a rule by its index behind the others. Rules that do not confirm a run end it, no
    matter what follows them. -/
theorem execute_append (run : Run) (context : Context) (draws : Expr.Draws) {first : List Rule}
    (hfirst : first ≠ []) (rest : List Rule) :
    (∀ next, run.execute context draws first = (.ok true, next) → rest ≠ [] →
      ShiftedBy first.length (next.execute context draws rest)
        (run.execute context draws (first ++ rest))) ∧
    (∀ stopped, run.execute context draws first = stopped → stopped.1 ≠ .ok true →
      run.execute context draws (first ++ rest) = stopped) := by
  have hboth : first ++ rest ≠ [] := by simp [hfirst]
  have hsplit := probeAll_append context draws first rest 0 (run.finish .running)
  rw [execute_eq_concluded hfirst, execute_eq_concluded hboth, hsplit, Nat.zero_add]
  cases hreached : probeAll context draws 0 first (run.finish .running) with
  | mk result reached =>
    rcases result with f | (_ | _)
    · exact ⟨fun _ hnext => absurd (congrArg Prod.fst hnext) (by simp [concluded]),
        fun _ hstopped _ => hstopped⟩
    · exact ⟨fun _ hnext => absurd (congrArg Prod.fst hnext) (by simp [concluded]),
        fun _ hstopped _ => hstopped⟩
    · refine ⟨fun next hnext hrest => ?_, fun stopped hstopped hnot => ?_⟩
      · obtain rfl : reached.finish .confirmed = next := (Prod.mk.inj hnext).2
        have hrunning : (reached.finish .confirmed).finish .running = reached := by
          have hstate : reached.state = .running := state_of_probeAll hreached
          cases reached
          simp_all [finish]
        have hshift := shiftedBy_probeAll context draws first.length rest 0 reached
        rw [Nat.zero_add] at hshift
        rw [execute_eq_concluded hrest, hrunning]
        exact hshift.concluded
      · exact absurd (congrArg Prod.fst hstopped).symm hnot

/-- A rule whose expression names nothing that is bound fails as the first of its own run, and as the
    second after a rule that passes. -/
theorem execute_append_sample :
    let context : Context :=
      { target := "http://t", registry := .initial
        transport := fun _ _ => .ok { status := 200, body := [], headers := [], contentType := "" } }
    let rule (expression : String) : Rule :=
      { method := "GET", path := "/", body := "", headers := [], followRedirects := true
        search := none, expression := expression }
    let fault : ExprError := .checkError (.undeclaredName "token")
    let next := ((start []).execute context (.ofSeed 0) [rule "true"]).2
    (start []).execute context (.ofSeed 0) [rule "true"] = (.ok true, next) ∧
      (next.execute context (.ofSeed 0) [rule "token"]).1 = .error (.ofRule 0 fault) ∧
      ((start []).execute context (.ofSeed 0) [rule "true", rule "token"]).1 =
        .error (.ofRule 1 fault) ∧
      ShiftedBy 1 (next.execute context (.ofSeed 0) [rule "token"])
        ((start []).execute context (.ofSeed 0) [rule "true", rule "token"]) := by
  intro context rule fault next
  have hpasses : ((start []).execute context (.ofSeed 0) [rule "true"]).1 = .ok true := by
    with_unfolding_all decide
  have hnext : (start []).execute context (.ofSeed 0) [rule "true"] = (.ok true, next) :=
    Prod.ext hpasses rfl
  refine ⟨hnext, by with_unfolding_all decide, by with_unfolding_all decide, ?_⟩
  exact (execute_append (start []) context (.ofSeed 0) (List.cons_ne_nil _ _) [rule "token"]).1 next
    hnext (List.cons_ne_nil _ _)

end Run

end VulnProbe
