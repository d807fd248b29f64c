import VulnProbe.Proofs.Expr.Tokenize
import VulnProbe.Proofs.Run.Binding.Evaluated
import VulnProbe.Proofs.Run.Compilation
import VulnProbe.Proofs.Text.Blank
import VulnProbe.Run.Verification

namespace VulnProbe

private theorem inferType_eq_reverse_iff {source : String} :
    inferType source = .ok .reverse ↔ Text.trim source = Expr.newReverseSource := by
  constructor
  · intro htype
    simp only [inferType] at htype
    split at htype
    · cases htype
    split at htype
    · exact eq_of_beq ‹_›
    · repeat' split at htype
      all_goals cases htype
  · intro htrim
    rw [inferType, htrim]
    decide

namespace Expr

section Source

variable {source : String}

/-- With blanks around, the call has the same tokens. -/
theorem tokenize_newReverse (htrim : Text.trim source = newReverseSource) :
    ∃ p q, tokenize source =
      .ok [⟨.ident "newReverse", p⟩, ⟨.lparen, p + 10⟩, ⟨.rparen, p + 11⟩, ⟨.endOfInput, q⟩] := by
  obtain ⟨front, back, hsource, hfront, hback⟩ := Text.exists_blanks_of_trim source
  rw [htrim] at hsource
  have hname (pos : Nat) : scanToken pos 'n' ("ewReverse()".toList ++ back) =
      .ok (.ident "newReverse", 9) := rfl
  have hopen (pos : Nat) : scanToken pos '(' (')' :: back) = .ok (.lparen, 0) := rfl
  have hclose (pos : Nat) : scanToken pos ')' back = .ok (.rparen, 0) := rfl
  have hend := tokensAfter_blanks
    [⟨.rparen, front.length + 11⟩, ⟨.lparen, front.length + 10⟩, ⟨.ident "newReverse", front.length⟩]
    (front.length + 12) [] hback
  refine ⟨front.length, front.length + 12 + back.length, ?_⟩
  rw [tokenize, hsource, tokensAfter_blanks _ _ _ hfront, Nat.zero_add]
  calc tokensAfter [] front.length ('n' :: ("ewReverse()".toList ++ back))
      = tokensAfter [⟨.ident "newReverse", front.length⟩] (front.length + 10) ('(' :: ')' :: back) :=
        tokensAfter_scan _ _ _ (by decide) (hname _)
    _ = tokensAfter [⟨.lparen, front.length + 10⟩, ⟨.ident "newReverse", front.length⟩]
          (front.length + 11) (')' :: back) :=
        tokensAfter_scan _ _ _ (by decide) (hopen _)
    _ = tokensAfter [⟨.rparen, front.length + 11⟩, ⟨.lparen, front.length + 10⟩,
          ⟨.ident "newReverse", front.length⟩] (front.length + 12) back :=
        tokensAfter_scan _ _ _ (by decide) (hclose _)
    _ = _ := by
        rw [List.append_nil] at hend
        rw [hend, tokensAfter_nil]
        rfl

private theorem parse_newReverse (htrim : Text.trim source = newReverseSource) :
    parse source = .ok (.call "newReverse" []) := by
  obtain ⟨p, q, htokens⟩ := tokenize_newReverse htrim
  rw [parse, htokens]
  rfl

end Source

end Expr

namespace Registry

variable {source : String}

/-- Under any declarations and bindings, the call compiles. -/
theorem compile_newReverse (registry : Registry) (params : Params)
    (htrim : Text.trim source = Expr.newReverseSource) :
    registry.compile params source = .ok (.call "newReverse" []) := by
  rw [compile, Expr.parse_newReverse htrim]
  rfl

/-- Under any declarations and bindings, the call has no value. -/
theorem evaluate_newReverse (registry : Registry) (params : Params) (draws : Expr.Draws)
    (htrim : Text.trim source = Expr.newReverseSource) :
    registry.evaluate params draws source = .error (.runtimeError .reverseOutsideSet) := by
  rw [evaluate, compile_newReverse registry params htrim]
  exact bind_eq_error_iff.mpr (.inr ⟨_, rfl, Expr.evaluate_eq_error_iff.mpr rfl⟩)

end Registry

namespace Poc

variable {poc : Poc} {callbacks : Callbacks} {target : String} {k k' : Nat} {prepared : Params}
  {name source : String}

/-- Binding treats an entry as one that asks for a callback: preparation binds its name to one, and
    resolution never comes to evaluate its source. -/
def TreatsAsCallback (poc : Poc) (prepared : Params) (name source : String) : Prop :=
  (∃ u, Dict.get? name prepared = some (.reverse u)) ∧
    ∀ registry draws seen ownDraws, ¬ poc.ComesToEvaluate registry draws prepared name source seen ownDraws

private theorem treatsAsCallback_iff (hnames : poc.NamesOnce)
    (hprepare : poc.prepare callbacks k target = (.ok prepared, k'))
    (hmem : (name, source) ∈ poc.set) :
    poc.TreatsAsCallback prepared name source ↔ source = Expr.newReverseSource := by
  constructor
  · rintro ⟨⟨u, hu⟩, -⟩
    obtain ⟨hasks, -⟩ | ⟨-, hnone | ⟨-, w, hw⟩⟩ := get?_prepare hnames hprepare name
    · exact hnames.source_unique hmem hasks
    · cases hu.symm.trans hnone
    · cases hu.symm.trans hw
  · rintro rfl
    constructor
    · obtain ⟨-, hu⟩ | ⟨hnot, -⟩ := get?_prepare hnames hprepare name
      · exact hu
      · exact absurd hmem hnot
    · intro registry draws seen ownDraws hcomes
      have hasks := hcomes.asksCallback_eq_false
      rw [asksCallback_iff.mpr rfl] at hasks
      cases hasks

/-- Declaration and binding recognise the same entries as those that ask for a callback, but for the
    sources with blanks around the call. These are declared as callbacks and compile, but binding does not
    treat them as callbacks: resolution fails where it comes to evaluate one, and it never succeeds with
    one, unless it has the name of the response. -/
theorem inferType_agrees_up_to_blanks (poc : Poc) (callbacks : Callbacks) (k : Nat)
    (target : String) (prepared : Params) (k' : Nat) (hnames : poc.NamesOnce)
    (hprepare : poc.prepare callbacks k target = (.ok prepared, k')) (name source : String)
    (hmem : (name, source) ∈ poc.set) :
    (poc.TreatsAsCallback prepared name source ↔ source = Expr.newReverseSource) ∧
    (inferType source = .ok .reverse ↔ Text.trim source = Expr.newReverseSource) ∧
    (inferType source = .ok .reverse → source ≠ Expr.newReverseSource →
      (∀ registry : Registry, ∃ e, registry.compile [] source = .ok e) ∧
      (∀ registry draws seen ownDraws,
        poc.ComesToEvaluate registry draws prepared name source seen ownDraws →
          poc.resolve registry draws prepared =
            (seen, some (.expression name (.runtimeError .reverseOutsideSet)))) ∧
      (name ≠ responseName → ∀ registry draws bound,
        poc.resolve registry draws prepared ≠ (bound, none))) := by
  refine ⟨treatsAsCallback_iff hnames hprepare hmem, inferType_eq_reverse_iff, fun htype hne => ?_⟩
  have htrim := inferType_eq_reverse_iff.mp htype
  have hfails {registry : Registry} {draws ownDraws : Expr.Draws} {seen : Params}
      (hcomes : poc.ComesToEvaluate registry draws prepared name source seen ownDraws) :=
    hcomes.resolve_eq (registry.evaluate_newReverse seen ownDraws htrim)
  refine ⟨fun registry => ⟨_, registry.compile_newReverse [] htrim⟩, fun _ _ _ _ => hfails, ?_⟩
  intro hname registry draws bound hresolve
  have hevaluated : isEvaluatedEntry name source = true := by
    have hasks := mt asksCallback_iff.mp hne
    simp [isEvaluatedEntry, hasks, hname]
  obtain ⟨seen, ownDraws, hcomes⟩ | ⟨reached, f, hstops, -⟩ :=
    comesToEvaluate_or_fails hnames hmem hevaluated registry draws prepared
  · cases hresolve.symm.trans (hfails hcomes)
  · cases hresolve.symm.trans hstops

/-- An entry that asks for a callback, and one with a line break behind the call. -/
theorem inferType_agrees_up_to_blanks_sample :
    let poc : Poc :=
      { name := "sample", set := [("z", "newReverse()\n"), ("cb", "newReverse()")], rules := []
        detail := none }
    let url : Url :=
      { scheme := "http", username := "", password := none
        host := some (.ipv6 [0, 0, 0, 0, 0, 0, 0, 1])
        port := none, path := "/cb", query := none, fragment := none }
    let callbacks : Callbacks := fun _ => .ok "http://[::1]/cb"
    let prepared : Params := [("cb", .reverse url)]
    poc.NamesOnce ∧ poc.prepare callbacks 0 "http://t" = (.ok prepared, 1) ∧
      inferType "newReverse()" = .ok .reverse ∧ poc.TreatsAsCallback prepared "cb" "newReverse()" ∧
      inferType "newReverse()\n" = .ok .reverse ∧
      ¬ poc.TreatsAsCallback prepared "z" "newReverse()\n" ∧
      ∀ registry draws bound, poc.resolve registry draws prepared ≠ (bound, none) := by
  intro poc url callbacks prepared
  have hnames : poc.NamesOnce := by
    rw [NamesOnce]
    decide
  have hprepare : poc.prepare callbacks 0 "http://t" = (.ok prepared, 1) := rfl
  have hne : "newReverse()\n" ≠ Expr.newReverseSource := by decide
  obtain ⟨htreats, htype, -⟩ := inferType_agrees_up_to_blanks poc callbacks 0 "http://t" prepared 1 hnames
    hprepare "cb" "newReverse()" (by decide)
  obtain ⟨htreats', htype', hfails⟩ := inferType_agrees_up_to_blanks poc callbacks 0 "http://t" prepared 1
    hnames hprepare "z" "newReverse()\n" (by decide)
  have hreverse := htype'.mpr (by decide)
  obtain ⟨-, -, hnever⟩ := hfails hreverse hne
  exact ⟨hnames, hprepare, htype.mpr (by decide), htreats.mpr rfl, hreverse, mt htreats'.mp hne,
    hnever (by decide)⟩

/-- With a line break behind the call, an entry is declared as a callback and passes the static checks;
    binding hands out no callback for it and fails where it evaluates it. -/
theorem inferType_reverse_with_line_break :
    let poc : Poc :=
      { name := "sample", set := [("cb", "newReverse()\n")], rules := [], detail := none }
    let callbacks : Callbacks := fun _ => .ok "http://[::1]/cb"
    let declared : Registry := [("cb", .reverse), ("request", .request), ("response", .response)]
    inferType "newReverse()\n" = .ok .reverse ∧ Registry.ofPoc poc = .ok declared ∧
      poc.validate = .ok () ∧ poc.prepare callbacks 0 "http://t" = (.ok [], 0) ∧
      ¬ poc.TreatsAsCallback [] "cb" "newReverse()\n" ∧
      poc.resolve declared (.ofSeed 0) [] =
        ([], some (.expression "cb" (.runtimeError .reverseOutsideSet))) := by
  intro poc callbacks declared
  have htrim : Text.trim "newReverse()\n" = Expr.newReverseSource := by decide
  have hdeclared : Registry.ofPoc poc = .ok declared := by decide
  have hsplit : poc.sortedSet = [] ++ ("cb", "newReverse()\n") :: [] := by decide
  have hcomes : poc.ComesToEvaluate declared (.ofSeed 0) [] "cb" "newReverse()\n" []
      (((Expr.Draws.ofSeed 0).child 0).child 0) := .ordinary hsplit (by decide) rfl
  have hcheck : checkEntries declared poc.set = .ok () := by
    rw [checkEntries, if_neg (by decide), declared.compile_newReverse [] htrim]
    rfl
  refine ⟨inferType_eq_reverse_iff.mpr htrim, hdeclared, ?_, rfl, ?_, ?_⟩
  · rw [validate, hdeclared]
    exact bind_eq_ok_iff.mpr ⟨declared, rfl, bind_eq_ok_iff.mpr ⟨(), hcheck, rfl⟩⟩
  · rintro ⟨⟨u, hu⟩, -⟩
    cases hu
  · exact hcomes.resolve_eq (declared.evaluate_newReverse [] _ htrim)

end Poc

end VulnProbe
