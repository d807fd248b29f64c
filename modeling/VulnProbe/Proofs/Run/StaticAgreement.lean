import VulnProbe.Proofs.Run.Binding.Evaluated
import VulnProbe.Proofs.Run.Binding.ReservedNames
import VulnProbe.Proofs.Run.Compilation

namespace VulnProbe

/-- The value that a name is bound to has the type that the name was declared with, if it has one. -/
def Params.KeepsType (params : Params) (declared : Registry) (name : String) : Prop :=
  ∀ v t, Dict.get? name params = some v → DeclType.ofValue v = some t →
    Dict.get? name declared = some t

namespace Poc

/-- The names that are bound, when an entry is evaluated, to something that their declarations do not
    know: those of the entries evaluated before it, and reserved names that ask for a callback. -/
def OverridesBefore (poc : Poc) (name m : String) : Prop :=
  (poc.evaluates m = true ∧ ComesBefore m name) ∨
    ((m = requestName ∨ m = responseName) ∧ poc.AsksCallbackFor m)

variable {poc : Poc} {callbacks : Callbacks} {k k' : Nat} {target : String} {draws ownDraws : Expr.Draws}
  {declared registry : Registry} {prepared seen : Params} {name source m : String}

/-- The names of the entries, of the request and of the response are declared. -/
theorem isSome_get?_declared (hnames : poc.NamesOnce) (hdeclared : Registry.ofPoc poc = .ok declared)
    (hm : m ∈ Dict.keys poc.set ∨ m = requestName ∨ m = responseName) :
    (Dict.get? m declared).isSome = true := by
  by_cases hreserved : m = requestName ∨ m = responseName
  · rw [Registry.get?_declareSources hdeclared fun _ => hreserved]
    rcases hreserved with rfl | rfl
    · rw [Registry.get?_initial.1]
      rfl
    · rw [Registry.get?_initial.2]
      rfl
  · obtain ⟨⟨_, s⟩, hmem, rfl⟩ := List.mem_map.mp (hm.resolve_right hreserved)
    obtain ⟨t, -, ht⟩ := Registry.get?_declareSources_of_mem hnames hdeclared hmem hreserved
    rw [ht]
    rfl

/-- Preparation changes no declared type but that of a reserved name that asks for a callback. -/
theorem get?_registry_eq_declared (hnames : poc.NamesOnce)
    (hdeclared : Registry.ofPoc poc = .ok declared)
    (hprepare : poc.prepare callbacks k target = (.ok prepared, k'))
    (hvalues : declared.declareValues prepared = .ok registry)
    (hm : ¬ ((m = requestName ∨ m = responseName) ∧ poc.AsksCallbackFor m)) :
    Dict.get? m registry = Dict.get? m declared := by
  by_cases hreserved : m = requestName ∨ m = responseName
  · rcases get?_declared hnames hdeclared hprepare hvalues hreserved with ⟨hasks, -⟩ | ⟨-, hget⟩
    · exact absurd ⟨hreserved, hasks⟩ hm
    · rw [hget, Registry.get?_declareSources hdeclared fun _ => hreserved]
  · rw [Registry.get?_declareValues (sorted_prepare hprepare).nodup hvalues]
    rcases get?_prepare hnames hprepare m with ⟨hasks, u, hu⟩ | ⟨-, hnone | ⟨heq, -⟩⟩
    · obtain ⟨t, htype, ht⟩ := Registry.get?_declareSources_of_mem hnames hdeclared hasks hreserved
      have hreverse : inferType Expr.newReverseSource = .ok .reverse := by decide
      obtain rfl : DeclType.reverse = t := Except.ok.inj (hreverse.symm.trans htype)
      rw [hu, ht]
      rfl
    · rw [hnone]
      rfl
    · exact absurd (.inl heq) hreserved

/-- The check of an entry in a run knows the names that are declared, and no others. -/
theorem isSome_typeOf?_seen (hnames : poc.NamesOnce)
    (hdeclared : Registry.ofPoc poc = .ok declared)
    (hprepare : poc.prepare callbacks k target = (.ok prepared, k'))
    (hvalues : declared.declareValues prepared = .ok registry)
    (hcomes : poc.ComesToEvaluate registry draws prepared name source seen ownDraws) (m : String) :
    (registry.typeOf? seen m).isSome = (declared.typeOf? [] m).isSome := by
  have hregistry := Registry.get?_declareValues (sorted_prepare hprepare).nodup hvalues m
  have hbound : m ∈ Dict.keys poc.set ∨ m = requestName ∨ m = responseName ∨
      Dict.get? m seen = none ∧ Dict.get? m prepared = none := by
    by_cases hevaluates : poc.evaluates m = true ∧ ComesBefore m name
    · obtain ⟨s, hmem, -⟩ := evaluates_iff.mp hevaluates.1
      exact .inl (List.mem_map.mpr ⟨_, hmem, rfl⟩)
    · rw [hcomes.get?_seen hnames hevaluates]
      rcases get?_prepare hnames hprepare m with ⟨hasks, -⟩ | ⟨-, hnone | ⟨heq, -⟩⟩
      · exact .inl (List.mem_map.mpr ⟨_, hasks, rfl⟩)
      · exact .inr (.inr (.inr ⟨hnone, hnone⟩))
      · exact .inr (.inl heq)
  have hstatic : declared.typeOf? [] m = Dict.get? m declared := Registry.typeOf?_eq_or declared [] m
  rw [hstatic, Registry.typeOf?_eq_or, hregistry]
  by_cases hknown : m ∈ Dict.keys poc.set ∨ m = requestName ∨ m = responseName
  · have hsome := isSome_get?_declared hnames hdeclared hknown
    simp [Option.isSome_or, hsome]
  · obtain ⟨hseen, hprepared⟩ : Dict.get? m seen = none ∧ Dict.get? m prepared = none := by tauto
    rw [hseen, hprepared]
    rfl

/-- A name whose entry asks for a callback is seen as one. -/
theorem get?_seen_of_asksCallback (hnames : poc.NamesOnce)
    (hprepare : poc.prepare callbacks k target = (.ok prepared, k'))
    (hcomes : poc.ComesToEvaluate registry draws prepared name source seen ownDraws)
    (hasks : poc.AsksCallbackFor m) : ∃ u, Dict.get? m seen = some (.reverse u) := by
  have hnot := evaluates_eq_false_of_asksCallback hnames hasks
  rw [hcomes.get?_seen hnames fun h => by rw [hnot] at h; cases h.1]
  rcases get?_prepare hnames hprepare m with ⟨-, hu⟩ | ⟨hnot, -⟩
  · exact hu
  · exact absurd hasks hnot

/-- The check of an entry in a run has a name under its declared type, unless the name is bound to a
    value of another type. -/
theorem typeOf?_seen (hnames : poc.NamesOnce)
    (hdeclared : Registry.ofPoc poc = .ok declared)
    (hprepare : poc.prepare callbacks k target = (.ok prepared, k'))
    (hvalues : declared.declareValues prepared = .ok registry)
    (hcomes : poc.ComesToEvaluate registry draws prepared name source seen ownDraws) {m : String}
    (hkeeps : poc.OverridesBefore name m → seen.KeepsType declared m) :
    registry.typeOf? seen m = declared.typeOf? [] m := by
  have hstatic : declared.typeOf? [] m = Dict.get? m declared := Registry.typeOf?_eq_or declared [] m
  rw [hstatic, Registry.typeOf?_eq_or]
  by_cases hover : poc.OverridesBefore name m
  · cases htype : (Dict.get? m seen).bind DeclType.ofValue with
    | some t =>
      obtain ⟨v, hv, ht⟩ := Option.bind_eq_some_iff.mp htype
      rw [hkeeps hover v t hv ht]
      rfl
    | none =>
      -- what has no type is no callback, so that the declared type stands
      rw [Option.none_or]
      refine get?_registry_eq_declared hnames hdeclared hprepare hvalues ?_
      rintro ⟨_, hasks⟩
      obtain ⟨u, hu⟩ := get?_seen_of_asksCallback hnames hprepare hcomes hasks
      rw [hu] at htype
      cases htype
  · have hsame := get?_registry_eq_declared hnames hdeclared hprepare hvalues fun h => hover (.inr h)
    have hregistry := Registry.get?_declareValues (sorted_prepare hprepare).nodup hvalues m
    rw [hcomes.get?_seen hnames fun h => hover (.inl h), hsame, ← hregistry, hsame]

/-- An entry that resolution comes to evaluate compiles in the run as in the static check, to the same
    tree or with the same error, if the overridden names that it selects fields from are bound to values
    of the types they were declared with. -/
theorem compile_seen_eq_static (poc : Poc) (callbacks : Callbacks) (k : Nat) (target : String)
    (draws : Expr.Draws) (declared : Registry) (prepared : Params) (k' : Nat) (registry : Registry)
    (name source : String) (seen : Params) (ownDraws : Expr.Draws) (hnames : poc.NamesOnce)
    (hdeclared : Registry.ofPoc poc = .ok declared)
    (hprepare : poc.prepare callbacks k target = (.ok prepared, k'))
    (hvalues : declared.declareValues prepared = .ok registry)
    (hcomes : poc.ComesToEvaluate registry draws prepared name source seen ownDraws)
    (hkeeps : ∀ e m, Expr.parse source = .ok e → e.SelectsFrom m → poc.OverridesBefore name m →
      seen.KeepsType declared m) :
    registry.compile seen source = declared.compile [] source := by
  refine Registry.compile_congr fun e hparse => Expr.failAlike_check ?_ e fun m hselects => ?_
  · exact isSome_typeOf?_seen hnames hdeclared hprepare hvalues hcomes
  · exact typeOf?_seen hnames hdeclared hprepare hvalues hcomes (hkeeps e m hparse hselects)

/-- The request under another name, which its entry declares as a request, and an entry that selects
    from it. -/
theorem compile_seen_eq_static_sample :
    let poc : Poc :=
      { name := "sample", set := [("b", "a.url.path"), ("c", "request.url.host"), ("a", "request")]
        rules := [], detail := none }
    let url : Url :=
      { scheme := "http", username := "", password := none
        host := some (.ipv6 [0, 0, 0, 0, 0, 0, 0, 1])
        port := none, path := "/", query := none, fragment := none }
    let callbacks : Callbacks := fun _ => .error .notConfigured
    let declared : Registry :=
      [("a", .request), ("b", .string), ("c", .string), ("request", .request), ("response", .response)]
    let prepared : Params := [("request", .request url)]
    let seen : Params := [("a", .request url), ("request", .request url)]
    let draws : Expr.Draws := .ofSeed 0
    Registry.ofPoc poc = .ok declared ∧
      poc.prepare callbacks 0 "http://[::1]" = (.ok prepared, 0) ∧
      declared.declareValues prepared = .ok declared ∧
      poc.ComesToEvaluate declared draws prepared "b" "a.url.path" seen ((draws.child 0).child 1) ∧
      poc.OverridesBefore "b" "a" ∧
      declared.compile seen "a.url.path" = declared.compile [] "a.url.path" := by
  intro poc url callbacks declared prepared seen draws
  have hnames : poc.NamesOnce := by
    rw [NamesOnce]
    decide
  have hdeclared : Registry.ofPoc poc = .ok declared := by decide
  have hprepare : poc.prepare callbacks 0 "http://[::1]" = (.ok prepared, 0) := rfl
  have hvalues : declared.declareValues prepared = .ok declared := by decide
  have htokens : Expr.tokenize "request" = .ok [⟨.ident "request", 0⟩, ⟨.endOfInput, 7⟩] := by
    with_unfolding_all decide
  have hvalue : declared.evaluate prepared ((draws.child 0).child 0) "request" = .ok (.request url) := by
    rw [Registry.evaluate, Registry.compile, Expr.parse, htokens]
    rfl
  have hbefore : resolveFrom declared (draws.child 0) 0 [("a", "request")] prepared = (seen, none) := by
    rw [resolveFrom_bind (by decide) hvalue]
    rfl
  have hsplit : poc.sortedSet =
      [("a", "request")] ++ ("b", "a.url.path") :: [("c", "request.url.host")] := by
    decide
  have hcomes : poc.ComesToEvaluate declared draws prepared "b" "a.url.path" seen
      ((draws.child 0).child 1) :=
    .ordinary hsplit (by decide) hbefore
  have hover : poc.OverridesBefore "b" "a" := .inl (by decide)
  refine ⟨hdeclared, hprepare, hvalues, hcomes, hover, ?_⟩
  refine compile_seen_eq_static poc callbacks 0 "http://[::1]" draws declared prepared 0 declared "b"
    "a.url.path" seen _ hnames hdeclared hprepare hvalues hcomes ?_
  intro e m _ _ _ v t hv ht
  have hmem : (m, v) ∈ seen := Dict.mem_of_get? hv
  simp only [seen, List.mem_cons, List.not_mem_nil, or_false, Prod.mk.injEq] at hmem
  rcases hmem with ⟨rfl, rfl⟩ | ⟨rfl, rfl⟩
  · cases ht
    decide
  · cases ht
    decide

/-- The look of a map declares a text: an entry that selects from it does not pass the static check, and
    compiles in the run. -/
theorem compile_seen_ne_static :
    let poc : Poc :=
      { name := "sample", set := [("a", "\x7b\"k\": 1\x7d"), ("b", "a.k")], rules := [], detail := none }
    let declared : Registry :=
      [("a", .string), ("b", .string), ("request", .request), ("response", .response)]
    let seen : Params := [("a", .map [("k", .int 1)])]
    let draws : Expr.Draws := .ofSeed 0
    Registry.ofPoc poc = .ok declared ∧
      poc.prepare (fun _ => .error .notConfigured) 0 "http://t" = (.ok [], 0) ∧
      declared.declareValues [] = .ok declared ∧
      poc.ComesToEvaluate declared draws [] "b" "a.k" seen ((draws.child 0).child 1) ∧
      declared.compile [] "a.k" = .error (.checkError (.field (.notSelectable .string))) ∧
      declared.compile seen "a.k" = .ok (.select (.ident "a") "k") := by
  intro poc declared seen draws
  have hmap : Expr.tokenize "\x7b\"k\": 1\x7d" =
      .ok [⟨.lbrace, 0⟩, ⟨.str "k", 1⟩, ⟨.colon, 4⟩, ⟨.int 1, 6⟩, ⟨.rbrace, 7⟩,
        ⟨.endOfInput, 8⟩] := by
    with_unfolding_all decide
  have hfield : Expr.tokenize "a.k" =
      .ok [⟨.ident "a", 0⟩, ⟨.dot, 1⟩, ⟨.ident "k", 2⟩, ⟨.endOfInput, 3⟩] := by
    with_unfolding_all decide
  have hvalue : declared.evaluate [] ((draws.child 0).child 0) "\x7b\"k\": 1\x7d" =
      .ok (.map [("k", .int 1)]) := by
    rw [Registry.evaluate, Registry.compile, Expr.parse, hmap]
    rfl
  have hbefore : resolveFrom declared (draws.child 0) 0 [("a", "\x7b\"k\": 1\x7d")] [] =
      (seen, none) := by
    rw [resolveFrom_bind (by decide) hvalue]
    rfl
  have hsplit : poc.sortedSet = [("a", "\x7b\"k\": 1\x7d")] ++ [("b", "a.k")] := by decide
  refine ⟨by decide, rfl, rfl, .ordinary hsplit (by decide) hbefore, ?_, ?_⟩
  · rw [Registry.compile, Expr.parse, hfield]
    rfl
  · rw [Registry.compile, Expr.parse, hfield]
    rfl

end Poc

end VulnProbe
