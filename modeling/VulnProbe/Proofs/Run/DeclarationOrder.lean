import VulnProbe.Proofs.Run.Declaration
import VulnProbe.Run.Verification

namespace VulnProbe

/-- At most one of the entries has a fault. -/
def FaultsOnce (fault? : String × String → Option Failure) (entries : List (String × String)) : Prop :=
  ∀ a ∈ entries, ∀ b ∈ entries, (fault? a).isSome = true → (fault? b).isSome = true → a = b

section FirstFault

variable {fault? : String × String → Option Failure} {entries first second : List (String × String)}

/-- Each fault is the first in some order. -/
theorem exists_perm_findSome?_eq_some {a : String × String} {f : Failure} (ha : a ∈ entries)
    (hf : fault? a = some f) :
    ∃ order : List (String × String), order.Perm entries ∧ order.findSome? fault? = some f := by
  refine ⟨a :: entries.erase a, (List.perm_cons_erase ha).symm, ?_⟩
  rw [List.findSome?_cons, hf]

private theorem findSome?_eq_none_of_perm (hperm : first.Perm second)
    (hnone : second.findSome? fault? = none) : first.findSome? fault? = none := by
  rw [List.findSome?_eq_none_iff] at hnone ⊢
  exact fun a ha => hnone a (hperm.mem_iff.mp ha)

private theorem FaultsOnce.of_none (hnone : entries.findSome? fault? = none) : FaultsOnce fault? entries := by
  intro a ha _ _ hfault
  rw [List.findSome?_eq_none_iff.mp hnone a ha] at hfault
  cases hfault

/-- A single fault is the first in every order. -/
theorem FaultsOnce.findSome?_eq (honce : FaultsOnce fault? entries) (hfirst : first.Perm entries)
    (hsecond : second.Perm entries) : first.findSome? fault? = second.findSome? fault? := by
  have hperm := hfirst.trans hsecond.symm
  cases hf : first.findSome? fault? with
  | none => exact (findSome?_eq_none_of_perm hperm.symm hf).symm
  | some f =>
    cases hg : second.findSome? fault? with
    | none =>
      rw [findSome?_eq_none_of_perm hperm hg] at hf
      cases hf
    | some g =>
      obtain ⟨a, ha, hf⟩ := List.exists_of_findSome?_eq_some hf
      obtain ⟨b, hb, hg⟩ := List.exists_of_findSome?_eq_some hg
      have hsome {c : String × String} {f : Failure} (hc : fault? c = some f) :
          (fault? c).isSome = true := Option.isSome_iff_exists.mpr ⟨f, hc⟩
      obtain rfl : a = b :=
        honce a (hfirst.mem_iff.mp ha) b (hsecond.mem_iff.mp hb) (hsome hf) (hsome hg)
      exact hf.symm.trans hg

/-- If an answer that reports the first fault is the same in all orders, and faults of different entries
    differ, then there is one fault at most. -/
theorem faultsOnce_of_answer {α : Type} {answer : List (String × String) → Except Failure α}
    (hdiffer : ∀ a ∈ entries, ∀ b ∈ entries, ∀ f, fault? a = some f → fault? b = some f → a = b)
    (hreports : ∀ order f, order.Perm entries → order.findSome? fault? = some f →
      answer order = .error f)
    (hfree : ∀ first second, first.Perm entries → second.Perm entries → answer first = answer second) :
    FaultsOnce fault? entries := by
  intro a ha b hb hfa hgb
  obtain ⟨f, hf⟩ := Option.isSome_iff_exists.mp hfa
  obtain ⟨g, hg⟩ := Option.isSome_iff_exists.mp hgb
  obtain ⟨first, hfirst, hfirstFault⟩ := exists_perm_findSome?_eq_some ha hf
  obtain ⟨second, hsecond, hsecondFault⟩ := exists_perm_findSome?_eq_some hb hg
  have hsame := hfree first second hfirst hsecond
  rw [hreports first f hfirst hfirstFault, hreports second g hsecond hsecondFault] at hsame
  cases hsame
  exact hdiffer a ha b hb f hf hg

end FirstFault

section Checks

variable {registry : Registry} {entries : List (String × String)} {name source : String} {f : Failure}

/-- Why an entry does not pass the static check, if that is so. -/
def checkFault? (registry : Registry) (entry : String × String) : Option Failure :=
  if asksCallback entry.2 then none
  else
    match registry.compile [] entry.2 with
    | .ok _ => none
    | .error cause => some (.expression entry.1 cause)

private theorem checkFault?_eq_some_iff :
    checkFault? registry (name, source) = some f ↔
      asksCallback source = false ∧
        ∃ cause, registry.compile [] source = .error cause ∧ f = .expression name cause := by
  cases hasks : asksCallback source with
  | true => simp [checkFault?, hasks]
  | false =>
    cases hcompile : registry.compile [] source with
    | ok e => simp [checkFault?, hasks, hcompile]
    | error cause => simp [checkFault?, hasks, hcompile, eq_comm]

/-- The checks of entries stop at the first one that does not pass. -/
theorem checkEntries_eq_error_iff :
    checkEntries registry entries = .error f ↔ entries.findSome? (checkFault? registry) = some f := by
  induction entries with
  | nil => simp [checkEntries]
  | cons entry entries ih =>
    obtain ⟨name, source⟩ := entry
    rw [checkEntries, List.findSome?_cons]
    cases hasks : source == Expr.newReverseSource with
    | true =>
      simp only [checkFault?, asksCallback, hasks, if_true]
      exact ih
    | false =>
      cases hcompile : registry.compile [] source with
      | ok e =>
        simp only [checkFault?, asksCallback, hasks, hcompile, Bool.false_eq_true, if_false]
        exact ih
      | error cause => simp [checkFault?, asksCallback, hasks, hcompile]

end Checks

namespace Poc

/-- A definition with its entries in another order, or with others. -/
def withEntries (poc : Poc) (entries : List (String × String)) : Poc :=
  { poc with set := entries }

/-- Whatever the order of the entries is, a definition has the same answer. -/
def OrderFree {α : Type} (answer : Poc → Except Failure α) (poc : Poc) : Prop :=
  ∀ first second, first.Perm poc.set → second.Perm poc.set →
    answer (poc.withEntries first) = answer (poc.withEntries second)

variable {poc : Poc} {entries : List (String × String)} {registry : Registry} {f : Failure}

section Declaration

private theorem ofPoc_withEntries_eq_error_iff :
    Registry.ofPoc (poc.withEntries entries) = .error f ↔
      entries.findSome? declarationFault? = some f :=
  Registry.declareSources_eq_error_iff

private theorem findSome?_declarationFault? (hdeclared : Registry.ofPoc poc = .ok registry) :
    poc.set.findSome? declarationFault? = none := by
  rw [Option.eq_none_iff_forall_ne_some]
  intro f hf
  rw [← Registry.declareSources_eq_error_iff] at hf
  cases hdeclared.symm.trans hf

/-- What the entries are declared as does not depend on their order. -/
theorem ofPoc_withEntries (hnames : poc.NamesOnce) (hperm : entries.Perm poc.set)
    (hdeclared : Registry.ofPoc poc = .ok registry) :
    Registry.ofPoc (poc.withEntries entries) = .ok registry := by
  cases hother : Registry.ofPoc (poc.withEntries entries) with
  | error f =>
    have hnone := findSome?_eq_none_of_perm hperm (findSome?_declarationFault? hdeclared)
    rw [ofPoc_withEntries_eq_error_iff, hnone] at hother
    cases hother
  | ok registry' =>
    have hnames' : (poc.withEntries entries).NamesOnce := (hperm.map _).nodup_iff.mpr hnames
    refine congrArg Except.ok (Dict.ext (Registry.sorted_ofPoc hother) (Registry.sorted_ofPoc hdeclared)
      fun name => ?_)
    rw [Registry.get?_ofPoc hnames' hother, Registry.get?_ofPoc hnames hdeclared,
      ← Dict.get?_perm hperm hnames']
    rfl

private theorem declarationFault?_differ (hnames : poc.NamesOnce) :
    ∀ a ∈ poc.set, ∀ b ∈ poc.set, ∀ f, declarationFault? a = some f →
      declarationFault? b = some f → a = b := by
  intro a ha b hb f hfa hfb
  obtain ⟨issue, -, rfl⟩ := declarationFault?_eq_some_iff.mp hfa
  obtain ⟨issue', -, heq⟩ := declarationFault?_eq_some_iff.mp hfb
  exact hnames.eq_of_name ha hb (Failure.typeDeclaration.inj heq).1

/-- The declaration of a definition has one answer in all orders exactly if at most one entry cannot be
    declared. -/
theorem orderFree_ofPoc_iff (hnames : poc.NamesOnce) :
    OrderFree Registry.ofPoc poc ↔ FaultsOnce declarationFault? poc.set := by
  constructor
  · refine faultsOnce_of_answer (declarationFault?_differ hnames) fun order f _ hf => ?_
    exact ofPoc_withEntries_eq_error_iff.mpr hf
  · intro honce first second hfirst hsecond
    cases hdeclared : Registry.ofPoc poc with
    | ok registry =>
      rw [ofPoc_withEntries hnames hfirst hdeclared, ofPoc_withEntries hnames hsecond hdeclared]
    | error f =>
      have herror {order : List (String × String)} (horder : order.Perm poc.set) :
          Registry.ofPoc (poc.withEntries order) = .error f := by
        rw [ofPoc_withEntries_eq_error_iff, honce.findSome?_eq horder (.refl _)]
        exact Registry.declareSources_eq_error_iff.mp hdeclared
      rw [herror hfirst, herror hsecond]

end Declaration

section Validation

private theorem validate_of_declarationError (hdeclared : Registry.ofPoc poc = .error f) :
    poc.validate = .error f := by
  rw [validate, hdeclared]
  rfl

private theorem validate_of_checkError (hdeclared : Registry.ofPoc poc = .ok registry)
    (hcheck : checkEntries registry poc.set = .error f) : poc.validate = .error f := by
  rw [validate, hdeclared]
  exact bind_eq_error_iff.mpr (.inr ⟨registry, rfl, bind_eq_error_iff.mpr (.inl hcheck)⟩)

private theorem checkFault?_differ (hnames : poc.NamesOnce) (registry : Registry) :
    ∀ a ∈ poc.set, ∀ b ∈ poc.set, ∀ f, checkFault? registry a = some f →
      checkFault? registry b = some f → a = b := by
  intro a ha b hb f hfa hfb
  obtain ⟨-, cause, -, rfl⟩ := checkFault?_eq_some_iff.mp hfa
  obtain ⟨-, cause', -, heq⟩ := checkFault?_eq_some_iff.mp hfb
  exact hnames.eq_of_name ha hb (Failure.expression.inj heq).1

/-- Entries that are checked with the same faults in two orders have the same answer. -/
theorem checkEntries_congr {first second : List (String × String)}
    (hfault : first.findSome? (checkFault? registry) = second.findSome? (checkFault? registry)) :
    checkEntries registry first = checkEntries registry second := by
  cases hfirst : checkEntries registry first with
  | error f =>
    rw [checkEntries_eq_error_iff, hfault, ← checkEntries_eq_error_iff] at hfirst
    exact hfirst.symm
  | ok u =>
    cases hsecond : checkEntries registry second with
    | ok v => rfl
    | error f =>
      rw [checkEntries_eq_error_iff, ← hfault, ← checkEntries_eq_error_iff, hfirst] at hsecond
      cases hsecond

/-- The static checks of a definition have one answer in all orders exactly if at most one entry cannot be
    declared and, where all can, at most one does not pass its check. -/
theorem orderFree_validate_iff (hnames : poc.NamesOnce) :
    OrderFree validate poc ↔ FaultsOnce declarationFault? poc.set ∧
      ∀ registry, Registry.ofPoc poc = .ok registry → FaultsOnce (checkFault? registry) poc.set := by
  constructor
  · intro hfree
    constructor
    · refine faultsOnce_of_answer (declarationFault?_differ hnames) (fun order f _ hf => ?_) hfree
      exact validate_of_declarationError (ofPoc_withEntries_eq_error_iff.mpr hf)
    · intro registry hdeclared
      refine faultsOnce_of_answer (checkFault?_differ hnames registry) (fun order f horder hf => ?_) hfree
      exact validate_of_checkError (ofPoc_withEntries hnames horder hdeclared)
        (checkEntries_eq_error_iff.mpr hf)
  · rintro ⟨honce, hchecks⟩ first second hfirst hsecond
    have hdeclare := (orderFree_ofPoc_iff hnames).mpr honce
    cases hdeclared : Registry.ofPoc poc with
    | error f =>
      have herror {order : List (String × String)} (horder : order.Perm poc.set) :
          (poc.withEntries order).validate = .error f :=
        validate_of_declarationError ((hdeclare order poc.set horder (.refl _)).trans hdeclared)
      rw [herror hfirst, herror hsecond]
    | ok registry =>
      have hcheck := checkEntries_congr ((hchecks registry hdeclared).findSome?_eq hfirst hsecond)
      rw [validate, validate, ofPoc_withEntries hnames hfirst hdeclared,
        ofPoc_withEntries hnames hsecond hdeclared]
      exact congrArg (· >>= fun _ => checkRules 0 poc.rules) hcheck

/-- Whether the checks accept a definition does not depend on the order of its entries. -/
theorem validate_withEntries (hnames : poc.NamesOnce) (hperm : entries.Perm poc.set)
    (hvalidate : poc.validate = .ok ()) : (poc.withEntries entries).validate = .ok () := by
  obtain ⟨registry, hdeclared, hchecks⟩ := bind_eq_ok_iff.mp hvalidate
  obtain ⟨_, hentries, -⟩ := bind_eq_ok_iff.mp hchecks
  have hfree : OrderFree validate poc := by
    rw [orderFree_validate_iff hnames]
    refine ⟨.of_none (findSome?_declarationFault? hdeclared), fun registry' hdeclared' => ?_⟩
    obtain rfl := Except.ok.inj (hdeclared.symm.trans hdeclared')
    apply FaultsOnce.of_none
    rw [Option.eq_none_iff_forall_ne_some]
    intro f hf
    rw [← checkEntries_eq_error_iff, hentries] at hf
    cases hf
  exact (hfree entries poc.set hperm (.refl _)).trans hvalidate

end Validation

/-- The order of the entries never counts for what they are declared as, nor for whether they pass the
    static checks. It does not count for the errors exactly if at most one entry has a fault: one that
    cannot be declared, or, where all can, one that does not pass its check. -/
theorem orderFree_iff_faultsOnce (poc : Poc) (hnames : poc.NamesOnce) :
    (∀ entries registry, entries.Perm poc.set →
      (Registry.ofPoc (poc.withEntries entries) = .ok registry ↔ Registry.ofPoc poc = .ok registry)) ∧
    (∀ entries, entries.Perm poc.set →
      ((poc.withEntries entries).validate = .ok () ↔ poc.validate = .ok ())) ∧
    (OrderFree Registry.ofPoc poc ↔ FaultsOnce declarationFault? poc.set) ∧
    (OrderFree validate poc ↔ FaultsOnce declarationFault? poc.set ∧
      ∀ registry, Registry.ofPoc poc = .ok registry → FaultsOnce (checkFault? registry) poc.set) := by
  have hnames' {entries : List (String × String)} (hperm : entries.Perm poc.set) :
      (poc.withEntries entries).NamesOnce := (hperm.map _).nodup_iff.mpr hnames
  refine ⟨fun entries registry hperm => ?_, fun entries hperm => ?_, orderFree_ofPoc_iff hnames,
    orderFree_validate_iff hnames⟩
  · exact ⟨ofPoc_withEntries (hnames' hperm) hperm.symm, ofPoc_withEntries hnames hperm⟩
  · exact ⟨validate_withEntries (hnames' hperm) hperm.symm, validate_withEntries hnames hperm⟩

/-- A single entry that cannot be declared is reported in every order, whatever the others are. -/
theorem orderFree_iff_faultsOnce_sample :
    let poc : Poc :=
      { name := "sample", set := [("a", "nope("), ("b", " "), ("c", "nope(")], rules := [], detail := none }
    poc.NamesOnce ∧ poc.validate = .error (.typeDeclaration "b" .emptySource) ∧
      OrderFree Registry.ofPoc poc ∧ OrderFree validate poc := by
  intro poc
  have hnames : poc.NamesOnce := by
    rw [NamesOnce]
    decide
  have honce : FaultsOnce declarationFault? poc.set := by
    rw [FaultsOnce]
    decide
  have hdeclared : Registry.ofPoc poc = .error (.typeDeclaration "b" .emptySource) := by
    decide
  obtain ⟨-, -, hdeclare, hvalidate⟩ := orderFree_iff_faultsOnce poc hnames
  refine ⟨hnames, validate_of_declarationError hdeclared, hdeclare.mpr honce,
    hvalidate.mpr ⟨honce, fun registry hok => ?_⟩⟩
  rw [hdeclared] at hok
  cases hok

/-- With two entries that cannot be declared, the one that comes first is reported; with two that do not
    pass their checks, the one that comes first too. -/
theorem not_orderFree_of_two_faults :
    let poc (entries : List (String × String)) : Poc :=
      { name := "sample", set := entries, rules := [], detail := none }
    let undeclared (name : String) : Failure := .typeDeclaration name .emptySource
    let unread (name : String) : Failure := .expression name (.syntaxError 1 (.unexpected .endOfInput))
    Registry.ofPoc (poc [("a", ""), ("b", "")]) = .error (undeclared "a") ∧
      Registry.ofPoc (poc [("b", ""), ("a", "")]) = .error (undeclared "b") ∧
      (poc [("a", "("), ("b", "(")]).validate = .error (unread "a") ∧
      (poc [("b", "("), ("a", "(")]).validate = .error (unread "b") ∧
      ¬ OrderFree Registry.ofPoc (poc [("a", ""), ("b", "")]) ∧
      ¬ OrderFree validate (poc [("a", ""), ("b", "")]) ∧
      ¬ OrderFree validate (poc [("a", "("), ("b", "(")]) := by
  intro poc undeclared unread
  have hdeclare : Registry.ofPoc (poc [("a", ""), ("b", "")]) = .error (undeclared "a") := by
    decide
  have hdeclare' : Registry.ofPoc (poc [("b", ""), ("a", "")]) = .error (undeclared "b") := by
    decide
  have htokens : Expr.tokenize "(" = .ok [⟨.lparen, 0⟩, ⟨.endOfInput, 1⟩] := by with_unfolding_all decide
  have hcompile (registry : Registry) :
      registry.compile [] "(" = .error (.syntaxError 1 (.unexpected .endOfInput)) := by
    rw [Registry.compile, Expr.parse, htokens]
    rfl
  have hread (first second : String) (hdeclared : ∃ registry,
      Registry.ofPoc (poc [(first, "("), (second, "(")]) = .ok registry) :
      (poc [(first, "("), (second, "(")]).validate = .error (unread first) := by
    obtain ⟨registry, hdeclared⟩ := hdeclared
    refine validate_of_checkError hdeclared (checkEntries_eq_error_iff.mpr ?_)
    rw [List.findSome?_cons, checkFault?_eq_some_iff.mpr ⟨by decide, _, hcompile registry, rfl⟩]
  have ha := hread "a" "b" ⟨_, rfl⟩
  have hb := hread "b" "a" ⟨_, rfl⟩
  have hne : "a" ≠ "b" := by decide
  refine ⟨hdeclare, hdeclare', ha, hb, fun hfree => ?_, fun hfree => ?_, fun hfree => ?_⟩
  · have hsame := hfree [("a", ""), ("b", "")] [("b", ""), ("a", "")] (.refl _) (.swap ..)
    have hnamed := Except.error.inj (hdeclare.symm.trans (hsame.trans hdeclare'))
    exact hne (Failure.typeDeclaration.inj hnamed).1
  · have hsame := hfree [("a", ""), ("b", "")] [("b", ""), ("a", "")] (.refl _) (.swap ..)
    have hnamed := Except.error.inj ((validate_of_declarationError hdeclare).symm.trans
      (hsame.trans (validate_of_declarationError hdeclare')))
    exact hne (Failure.typeDeclaration.inj hnamed).1
  · have hsame := hfree [("a", "("), ("b", "(")] [("b", "("), ("a", "(")] (.refl _) (.swap ..)
    have hnamed := Except.error.inj (ha.symm.trans (hsame.trans hb))
    exact hne (Failure.expression.inj hnamed).1

end Poc

end VulnProbe
