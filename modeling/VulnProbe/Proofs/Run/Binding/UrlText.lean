import Mathlib.Control.Monad.Basic
import VulnProbe.Proofs.Run.Binding.ReservedNames
import VulnProbe.Proofs.Run.BoundNames

namespace VulnProbe.Poc

/-- Only the payload is bound to a URL, and this is its value. -/
theorem BoundAs.eq_url {name : String} {v : Value} {u : Url} (hbound : BoundAs name v (.url u)) :
    name = payloadName ∧ v = .url u := by
  cases hbound with
  | payload hname => exact ⟨hname, rfl⟩
  | other _ hother => exact absurd rfl (hother u)

/-- The entry of a name has to be evaluated and has a value, under the bindings that it sees. -/
def EvaluatesTo (poc : Poc) (registry : Registry) (draws : Expr.Draws) (prepared bound : Params)
    (name : String) (v : Value) : Prop :=
  ∃ source, (name, source) ∈ poc.set ∧ isEvaluatedEntry name source = true ∧
    registry.evaluate (poc.bindingsBefore prepared bound name) (poc.drawsFor draws name) source = .ok v

section Bound

variable {poc : Poc} {callbacks : Callbacks} {target : String} {k k' : Nat} {registry : Registry}
  {draws : Expr.Draws} {prepared bound : Params} {name : String} {v w : Value}

/-- An entry has one value at most. -/
theorem EvaluatesTo.unique (hnames : poc.NamesOnce)
    (hv : poc.EvaluatesTo registry draws prepared bound name v)
    (hw : poc.EvaluatesTo registry draws prepared bound name w) : v = w := by
  obtain ⟨s, hs, -, hv⟩ := hv
  obtain ⟨s', hs', -, hw⟩ := hw
  obtain rfl := hnames.source_unique hs hs'
  exact Except.ok.inj (hv.symm.trans hw)

/-- What each name is bound to in the end: an evaluated entry to its value, a URL as its text unless for
    the payload, and any other name to what it was prepared with. -/
theorem get?_resolve_cases (hnames : poc.NamesOnce) (hprepared : Dict.Sorted prepared)
    (hresolve : poc.resolve registry draws prepared = (bound, none)) (name : String) :
    (∃ v w, poc.EvaluatesTo registry draws prepared bound name v ∧ BoundAs name v w ∧
        Dict.get? name bound = some w) ∨
      poc.evaluates name = false ∧ Dict.get? name bound = Dict.get? name prepared := by
  cases hevaluates : poc.evaluates name with
  | true =>
    obtain ⟨hholds, -⟩ := complete_of_resolve hnames hprepared hresolve
    obtain ⟨source, hentry, hevaluated⟩ := evaluates_iff.mp hevaluates
    obtain ⟨v, w, hvalue, hw⟩ := hholds name source hentry hevaluated
    exact .inl ⟨v, w, ⟨source, hentry, hevaluated, hvalue⟩, hw⟩
  | false => exact .inr ⟨rfl, get?_resolve_of_not hnames hprepared hresolve hevaluates⟩

/-- After resolution the name of an entry with a value is bound to what this value is bound as. -/
theorem EvaluatesTo.get?_resolve (hnames : poc.NamesOnce) (hprepared : Dict.Sorted prepared)
    (hresolve : poc.resolve registry draws prepared = (bound, none))
    (hvalue : poc.EvaluatesTo registry draws prepared bound name v) :
    ∃ w, BoundAs name v w ∧ Dict.get? name bound = some w := by
  rcases get?_resolve_cases hnames hprepared hresolve name with ⟨v', w, hv', hw⟩ | ⟨hnot, -⟩
  · rw [hvalue.unique hnames hv']
    exact ⟨w, hw⟩
  · obtain ⟨s, hentry, hevaluated, -⟩ := hvalue
    rw [evaluates_iff.mpr ⟨s, hentry, hevaluated⟩] at hnot
    cases hnot

/-- Preparation binds callbacks and the request, and no URL. -/
theorem get?_prepare_ne_url (hnames : poc.NamesOnce)
    (hprepare : poc.prepare callbacks k target = (.ok prepared, k')) (name : String) (u : Url) :
    Dict.get? name prepared ≠ some (.url u) := by
  rcases get?_prepare hnames hprepare name with ⟨-, w, hw⟩ | ⟨-, hnone | ⟨-, w, hw⟩⟩
  · simp [hw]
  · simp [hnone]
  · simp [hw]

/-- A name is bound to a URL if it is that of the payload and this is its value. -/
theorem get?_resolve_eq_url_iff (hnames : poc.NamesOnce)
    (hprepare : poc.prepare callbacks k target = (.ok prepared, k'))
    (hresolve : poc.resolve registry draws prepared = (bound, none)) (name : String) (u : Url) :
    Dict.get? name bound = some (.url u) ↔
      name = payloadName ∧ poc.EvaluatesTo registry draws prepared bound name (.url u) := by
  have hprepared := sorted_prepare hprepare
  constructor
  · intro hurl
    rcases get?_resolve_cases hnames hprepared hresolve name with ⟨v, w, hv, hform, hget⟩ | ⟨-, hget⟩
    · obtain rfl := Option.some.inj (hget.symm.trans hurl)
      obtain ⟨hname, rfl⟩ := hform.eq_url
      exact ⟨hname, hv⟩
    · exact absurd (hget.symm.trans hurl) (get?_prepare_ne_url hnames hprepare name u)
  · rintro ⟨rfl, hvalue⟩
    obtain ⟨w, hform, hget⟩ := hvalue.get?_resolve hnames hprepared hresolve
    rw [hget, boundAs_payload_iff.mp hform]

/-- No entry sees a URL, not even the payload. -/
theorem get?_bindingsBefore_ne_url (hnames : poc.NamesOnce)
    (hprepare : poc.prepare callbacks k target = (.ok prepared, k'))
    (hresolve : poc.resolve registry draws prepared = (bound, none)) (name m : String) (u : Url) :
    Dict.get? m (poc.bindingsBefore prepared bound name) ≠ some (.url u) := by
  have hunprepared := get?_prepare_ne_url hnames hprepare m u
  obtain ⟨-, hsorted, -⟩ := complete_of_resolve hnames (sorted_prepare hprepare) hresolve
  rw [bindingsBefore, Params.get?_overlay hsorted]
  split
  · rename_i hbefore
    rw [Bool.and_eq_true, decide_eq_true_eq] at hbefore
    cases hget : Dict.get? m bound with
    | none => exact hunprepared
    | some v =>
      rintro ⟨⟩
      exact hbefore.2.1 ((get?_resolve_eq_url_iff hnames hprepare hresolve m u).mp hget).1
  · exact hunprepared

end Bound

/-- After a binding that succeeds, a name is bound to a URL exactly if it is that of the payload and the
    payload's value is this URL. Any other entry whose value is a URL holds its text. No entry has seen a
    name bound to a URL while it was evaluated. -/
theorem bind_url_iff (poc : Poc) (callbacks : Callbacks) (k : Nat) (target : String)
    (draws : Expr.Draws) (registry : Registry) (bound : Params) (k' : Nat) (hnames : poc.NamesOnce)
    (hbind : poc.bind callbacks k target draws = (.ok (registry, bound), k')) :
    ∃ prepared, poc.prepare callbacks k target = (.ok prepared, k') ∧
      (∀ name u, Dict.get? name bound = some (.url u) ↔
        name = payloadName ∧ poc.EvaluatesTo registry draws prepared bound name (.url u)) ∧
      (∀ name u, name ≠ payloadName → poc.EvaluatesTo registry draws prepared bound name (.url u) →
        Dict.get? name bound = some (.string u.text)) ∧
      ∀ name m u, Dict.get? m (poc.bindingsBefore prepared bound name) ≠ some (.url u) := by
  obtain ⟨declared, prepared, -, hprepare, -, hresolve⟩ := bind_eq_ok hbind
  refine ⟨prepared, hprepare, get?_resolve_eq_url_iff hnames hprepare hresolve,
    fun name u hname hvalue => ?_, get?_bindingsBefore_ne_url hnames hprepare hresolve⟩
  obtain ⟨w, hform, hget⟩ := hvalue.get?_resolve hnames (sorted_prepare hprepare) hresolve
  rw [hget, (boundAs_iff hname).mp hform, boundForm]

/-- The entry that reads the URL of the request has it as its value wherever the request is bound. -/
theorem evaluate_requestUrl (registry : Registry) {params : Params} {url : Url}
    (hrequest : Dict.get? requestName params = some (.request url)) (draws : Expr.Draws) :
    registry.evaluate params draws "request.url" = .ok (.url url) := by
  have htokens : Expr.tokenize "request.url" =
      .ok [⟨.ident requestName, 0⟩, ⟨.dot, 7⟩, ⟨.ident "url", 8⟩, ⟨.endOfInput, 11⟩] := by
    with_unfolding_all decide
  have hparse : Expr.parse "request.url" = .ok (.select (.ident requestName) "url") := by
    rw [Expr.parse, htokens]
    rfl
  have htype := Registry.typeOf?_of_bound registry hrequest (by simp)
  have hcheck : (Expr.select (.ident requestName) "url").check (registry.typeOf? params) = .ok .url := by
    simp only [Expr.check, htype]
    rfl
  have hcompile : registry.compile params "request.url" = .ok (.select (.ident requestName) "url") := by
    rw [Registry.compile, hparse]
    exact bind_eq_ok_iff.mpr ⟨_, rfl, bind_eq_ok_iff.mpr ⟨_, hcheck, rfl⟩⟩
  rw [Registry.evaluate, hcompile]
  refine bind_eq_ok_iff.mpr ⟨_, rfl, Expr.evaluate_eq_ok_iff.mpr ?_⟩
  simp only [Expr.value, hrequest]
  rfl

/-- An entry and the payload with the URL of the request as their value: a text and a URL. -/
theorem bind_url_iff_sample :
    let poc : Poc :=
      { name := "sample", set := [("payload", "request.url"), ("u", "request.url")], rules := []
        detail := none }
    let url : Url :=
      { scheme := "http", username := "", password := none
        host := some (.ipv6 [0, 0, 0, 0, 0, 0, 0, 1])
        port := none, path := "/", query := none, fragment := none }
    let registry : Registry :=
      [("payload", .string), ("request", .request), ("response", .response), ("u", .string)]
    let bound : Params :=
      [("payload", .url url), ("request", .request url), ("u", .string "http://[::1]/")]
    poc.NamesOnce ∧
      poc.bind (fun _ => .error .notConfigured) 0 "http://[::1]" (.ofSeed 0) =
        (.ok (registry, bound), 0) ∧
      ∃ prepared, poc.EvaluatesTo registry (.ofSeed 0) prepared bound payloadName (.url url) ∧
        "u" ≠ payloadName ∧ poc.EvaluatesTo registry (.ofSeed 0) prepared bound "u" (.url url) ∧
        Dict.get? "u" bound = some (.string url.text) ∧
        Dict.get? "u" (poc.bindingsBefore prepared bound payloadName) ≠ some (.url url) := by
  intro poc url registry bound
  have hnames : poc.NamesOnce := by
    rw [NamesOnce]
    decide
  have hprepare : poc.prepare (fun _ => .error .notConfigured) 0 "http://[::1]" =
      (.ok [("request", .request url)], 0) := rfl
  have hdeclared : Registry.ofPoc poc = .ok registry := by decide
  have hvalues : registry.declareValues [("request", .request url)] = .ok registry := by
    decide
  have hsorted : poc.sortedSet = [("payload", "request.url"), ("u", "request.url")] := by decide
  have hentries : resolveFrom registry ((Expr.Draws.ofSeed 0).child 0) 0 poc.sortedSet
      [("request", .request url)] =
        ([("request", .request url), ("u", .string "http://[::1]/")], none) := by
    rw [hsorted, resolveFrom_skip (by decide),
      resolveFrom_bind (by decide) (evaluate_requestUrl registry rfl _)]
    rfl
  have hresolve : poc.resolve registry (.ofSeed 0) [("request", .request url)] = (bound, none) := by
    rw [resolve_of_reached hentries, resolvePayload_of_mem hnames List.mem_cons_self (by decide),
      evaluate_requestUrl registry rfl]
    rfl
  have hbind := bind_of_steps hdeclared hprepare hvalues hresolve
  obtain ⟨prepared, hprepared, hurl, htext, hunseen⟩ := bind_url_iff _ _ _ _ _ _ _ _ hnames hbind
  cases hprepare.symm.trans hprepared
  have hpayload := ((hurl payloadName url).mp rfl).2
  have hu : poc.EvaluatesTo registry (.ofSeed 0) [("request", .request url)] bound "u" (.url url) :=
    ⟨"request.url", by decide, by decide, evaluate_requestUrl registry rfl _⟩
  exact ⟨hnames, hbind, _, hpayload, by decide, hu, htext "u" url (by decide) hu, hunseen _ _ _⟩

/-- A payload that reads the URL of the request is declared as a text and bound to the URL itself. -/
theorem bind_payload_url :
    let poc : Poc :=
      { name := "sample", set := [("payload", "request.url")], rules := [], detail := none }
    let url : Url :=
      { scheme := "http", username := "", password := none
        host := some (.ipv6 [0, 0, 0, 0, 0, 0, 0, 1])
        port := none, path := "/", query := none, fragment := none }
    let registry : Registry := [("payload", .string), ("request", .request), ("response", .response)]
    let bound : Params := [("payload", .url url), ("request", .request url)]
    poc.NamesOnce ∧
      poc.bind (fun _ => .error .notConfigured) 0 "http://[::1]" (.ofSeed 0) =
        (.ok (registry, bound), 0) ∧
      Dict.get? payloadName registry = some .string ∧
      Dict.get? payloadName bound = some (.url url) := by
  intro poc url registry bound
  have hnames : poc.NamesOnce := by
    rw [NamesOnce]
    decide
  have hprepare : poc.prepare (fun _ => .error .notConfigured) 0 "http://[::1]" =
      (.ok [("request", .request url)], 0) := rfl
  have hdeclared : Registry.ofPoc poc = .ok registry := by decide
  have hvalues : registry.declareValues [("request", .request url)] = .ok registry := by
    decide
  have hentries : resolveFrom registry ((Expr.Draws.ofSeed 0).child 0) 0 poc.sortedSet
      [("request", .request url)] = ([("request", .request url)], none) := rfl
  have hresolve : poc.resolve registry (.ofSeed 0) [("request", .request url)] = (bound, none) := by
    rw [resolve_of_reached hentries, resolvePayload_of_mem hnames List.mem_cons_self (by decide),
      evaluate_requestUrl registry rfl]
    rfl
  exact ⟨hnames, bind_of_steps hdeclared hprepare hvalues hresolve, rfl, rfl⟩

end VulnProbe.Poc
