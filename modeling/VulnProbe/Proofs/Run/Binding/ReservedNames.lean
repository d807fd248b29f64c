import VulnProbe.Proofs.Run.Binding.Resolution
import VulnProbe.Proofs.Run.Declaration
import VulnProbe.Run.Verification

namespace VulnProbe

namespace Poc

variable {poc : Poc} {callbacks : Callbacks} {k k' : Nat} {target : String} {draws : Expr.Draws}
  {registry : Registry} {prepared bound : Params}

/-- A binding succeeds if each of its four steps does: declaration, preparation, the declaration of the
    prepared values and resolution. -/
theorem bind_of_steps {declared : Registry} (hdeclared : Registry.ofPoc poc = .ok declared)
    (hprepare : poc.prepare callbacks k target = (.ok prepared, k'))
    (hvalues : declared.declareValues prepared = .ok registry)
    (hresolve : poc.resolve registry draws prepared = (bound, none)) :
    poc.bind callbacks k target draws = (.ok (registry, bound), k') := by
  simp only [bind, hdeclared, hprepare, hvalues, hresolve]

/-- The steps of a binding that succeeds. -/
theorem bind_eq_ok
    (hbind : poc.bind callbacks k target draws = (.ok (registry, bound), k')) :
    ∃ declared prepared, Registry.ofPoc poc = .ok declared ∧
      poc.prepare callbacks k target = (.ok prepared, k') ∧
      declared.declareValues prepared = .ok registry ∧
      poc.resolve registry draws prepared = (bound, none) := by
  rw [bind] at hbind
  split at hbind
  · cases hbind
  rename_i declared hdeclared
  split at hbind
  · cases hbind
  rename_i prepared allocated hprepare
  split at hbind
  · cases hbind
  rename_i registry' hvalues
  split at hbind
  · cases hbind
  rename_i params hresolve
  cases hbind
  exact ⟨declared, prepared, hdeclared, hprepare, hvalues, hresolve⟩

/-- Resolution leaves the name of the response as it was prepared. -/
theorem get?_response_of_resolve (hnames : poc.NamesOnce) (hprepared : Dict.Sorted prepared)
    (hresolve : poc.resolve registry draws prepared = (bound, none)) :
    Dict.get? responseName bound = Dict.get? responseName prepared := by
  have hnot : poc.evaluates responseName = false := by
    rw [Bool.eq_false_iff]
    intro h
    obtain ⟨s, -, hs⟩ := evaluates_iff.mp h
    rw [isEvaluatedEntry, bne_self_eq_false, Bool.and_false] at hs
    cases hs
  exact get?_resolve_of_not hnames hprepared hresolve hnot

/-- A reserved name is declared as a callback if its entry asks for one, and else as it was declared
    first. -/
theorem get?_declared (hnames : poc.NamesOnce) {declared : Registry}
    (hdeclared : Registry.ofPoc poc = .ok declared)
    (hprepare : poc.prepare callbacks k target = (.ok prepared, k'))
    (hvalues : declared.declareValues prepared = .ok registry) {name : String}
    (hname : name = requestName ∨ name = responseName) :
    (poc.AsksCallbackFor name ∧ Dict.get? name registry = some .reverse) ∨
      (¬ poc.AsksCallbackFor name ∧
        Dict.get? name registry = Dict.get? name Registry.initial) := by
  have hsorted := sorted_prepare hprepare
  rw [Registry.get?_declareValues hsorted.nodup hvalues,
    Registry.get?_declareSources hdeclared fun _ => hname]
  rcases get?_prepare hnames hprepare name with ⟨hasks, u, hu⟩ | ⟨hnot, hnone | ⟨rfl, u, hu⟩⟩
  · rw [hu]
    exact .inl ⟨hasks, rfl⟩
  · rw [hnone]
    exact .inr ⟨hnot, rfl⟩
  · rw [hu, Registry.get?_initial.1]
    exact .inr ⟨hnot, rfl⟩

/-- Binding keeps the name of the response unbound and declared as a response, and the name of the
    request declared as a request, exactly if the entries of these names ask for no callback. -/
theorem bind_reservedNames (poc : Poc) (callbacks : Callbacks) (k : Nat) (target : String)
    (draws : Expr.Draws) (registry : Registry) (bound : Params) (k' : Nat) (hnames : poc.NamesOnce)
    (hbind : poc.bind callbacks k target draws = (.ok (registry, bound), k')) :
    (bound.contains responseName = false ↔ ¬ poc.AsksCallbackFor responseName) ∧
      (Dict.get? responseName registry = some .response ↔ ¬ poc.AsksCallbackFor responseName) ∧
      (Dict.get? requestName registry = some .request ↔ ¬ poc.AsksCallbackFor requestName) := by
  obtain ⟨declared, prepared, hdeclared, hprepare, hvalues, hresolve⟩ := bind_eq_ok hbind
  refine ⟨?_, ?_, ?_⟩
  · rw [Dict.contains, get?_response_of_resolve hnames (sorted_prepare hprepare) hresolve]
    rcases get?_prepare hnames hprepare responseName with ⟨hasks, u, hu⟩ | ⟨hnot, hnone | ⟨heq, -⟩⟩
    · rw [hu]
      exact iff_of_false Bool.true_eq_false.mp (not_not_intro hasks)
    · rw [hnone]
      exact iff_of_true rfl hnot
    · exact absurd heq (by decide)
  · rcases get?_declared hnames hdeclared hprepare hvalues (.inr rfl) with ⟨hasks, hget⟩ | ⟨hnot, hget⟩
    · rw [hget]
      exact iff_of_false (by decide) (not_not_intro hasks)
    · rw [hget]
      exact iff_of_true Registry.get?_initial.2 hnot
  · rcases get?_declared hnames hdeclared hprepare hvalues (.inl rfl) with ⟨hasks, hget⟩ | ⟨hnot, hget⟩
    · rw [hget]
      exact iff_of_false (by decide) (not_not_intro hasks)
    · rw [hget]
      exact iff_of_true Registry.get?_initial.1 hnot

/-- An entry named like the response that has no value and is passed over, and a callback in the place
    of the request. -/
theorem bind_reservedNames_sample :
    let poc : Poc :=
      { name := "sample", set := [("response", "nope("), ("request", "newReverse()")]
        rules := [], detail := none }
    let url : Url :=
      { scheme := "http", username := "", password := none
        host := some (.ipv6 [0, 0, 0, 0, 0, 0, 0, 1])
        port := none, path := "/cb", query := none, fragment := none }
    let callbacks : Callbacks := fun _ => .ok "http://[::1]/cb"
    let registry : Registry := [("request", .reverse), ("response", .response)]
    let bound : Params := [("request", .reverse url)]
    poc.NamesOnce ∧ poc.bind callbacks 0 "http://[::1]" (.ofSeed 0) = (.ok (registry, bound), 1) ∧
      (bound.contains responseName = false ↔ ¬ poc.AsksCallbackFor responseName) ∧
      (Dict.get? responseName registry = some .response ↔ ¬ poc.AsksCallbackFor responseName) ∧
      (Dict.get? requestName registry = some .request ↔ ¬ poc.AsksCallbackFor requestName) := by
  intro poc url callbacks registry bound
  have hnames : poc.NamesOnce := by
    rw [NamesOnce]
    decide
  have hbind : poc.bind callbacks 0 "http://[::1]" (.ofSeed 0) = (.ok (registry, bound), 1) := rfl
  exact ⟨hnames, hbind,
    bind_reservedNames poc callbacks 0 "http://[::1]" (.ofSeed 0) registry bound 1 hnames hbind⟩

/-- The name of the response is not reserved against a callback: it is bound before any probe, and
    declared as a callback. -/
theorem bind_callback_named_response :
    let poc : Poc :=
      { name := "sample", set := [("response", "newReverse()")], rules := [], detail := none }
    let url : Url :=
      { scheme := "http", username := "", password := none
        host := some (.ipv6 [0, 0, 0, 0, 0, 0, 0, 1])
        port := none, path := "/cb", query := none, fragment := none }
    let registry : Registry := [("request", .request), ("response", .reverse)]
    let bound : Params := [("response", .reverse url)]
    poc.NamesOnce ∧
      poc.bind (fun _ => .ok "http://[::1]/cb") 0 "http://[::1]" (.ofSeed 0) =
        (.ok (registry, bound), 1) ∧
      bound.contains responseName = true ∧
      Dict.get? responseName registry = some .reverse := by
  intro poc url registry bound
  refine ⟨?_, rfl, rfl, rfl⟩
  rw [NamesOnce]
  decide

end Poc

end VulnProbe
