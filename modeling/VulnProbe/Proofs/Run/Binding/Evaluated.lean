import VulnProbe.Proofs.Run.Binding.Resolution

namespace VulnProbe.Poc

/-- Resolution comes to evaluate an entry by its name and source, under some bindings and with some
    draws. -/
inductive ComesToEvaluate (poc : Poc) (registry : Registry) (draws : Expr.Draws) (prepared : Params) :
    String → String → Params → Expr.Draws → Prop where
  /-- An entry bound in the order of the names sees what those before it leave. -/
  | ordinary {before after : List (String × String)} {name source : String} {seen : Params}
      (hsplit : poc.sortedSet = before ++ (name, source) :: after)
      (hordinary : isOrdinaryEntry name source = true)
      (hbefore : resolveFrom registry (draws.child 0) 0 before prepared = (seen, none)) :
      ComesToEvaluate poc registry draws prepared name source seen
        ((draws.child 0).child before.length)
  /-- The payload sees what all of these leave. -/
  | payload {source : String} {seen : Params}
      (hsource : Dict.get? payloadName poc.sortedSet = some source)
      (hasks : asksCallback source = false)
      (hall : resolveFrom registry (draws.child 0) 0 poc.sortedSet prepared = (seen, none)) :
      ComesToEvaluate poc registry draws prepared payloadName source seen (draws.child 1)

variable {poc : Poc} {registry : Registry} {draws ownDraws : Expr.Draws} {prepared seen reached : Params}
  {name source : String} {f : Failure}

/-- What resolution comes to evaluate is an entry of the definition. -/
theorem ComesToEvaluate.mem
    (hcomes : poc.ComesToEvaluate registry draws prepared name source seen ownDraws) :
    (name, source) ∈ poc.set := by
  refine Dict.mem_of_mem_ofList ?_
  cases hcomes with
  | ordinary hsplit =>
    have hmem : (name, source) ∈ poc.sortedSet := by
      rw [hsplit]
      exact List.mem_append_right _ List.mem_cons_self
    exact hmem
  | payload hsource => exact Dict.mem_of_get? hsource

/-- What resolution comes to evaluate asks for no callback. -/
theorem ComesToEvaluate.asksCallback_eq_false
    (hcomes : poc.ComesToEvaluate registry draws prepared name source seen ownDraws) :
    asksCallback source = false := by
  cases hcomes with
  | ordinary _ hordinary =>
    simp only [isOrdinaryEntry, Bool.and_eq_true, Bool.not_eq_true'] at hordinary
    exact hordinary.1.1
  | payload _ hasks => exact hasks

/-- An entry sees the names of the evaluated entries before it as these are bound, and all other names
    as prepared. -/
theorem ComesToEvaluate.get?_seen (hnames : poc.NamesOnce)
    (hcomes : poc.ComesToEvaluate registry draws prepared name source seen ownDraws) {m : String}
    (hm : ¬ (poc.evaluates m = true ∧ ComesBefore m name)) :
    Dict.get? m seen = Dict.get? m prepared := by
  cases hcomes with
  | ordinary hsplit hordinary hbefore =>
    refine get?_resolveFrom hbefore (Bool.eq_false_iff.mpr fun hhas => hm ?_)
    rw [hasOrdinary_before hsplit, hasOrdinary_sortedSet hnames] at hhas
    obtain ⟨⟨hevaluates, hpayload⟩, hlt⟩ := hhas
    exact ⟨hevaluates, hpayload, .inr (Utf8.ofString_lt_ofString_iff.mpr hlt)⟩
  | payload hsource hasks hall =>
    refine get?_resolveFrom hall (Bool.eq_false_iff.mpr fun hhas => hm ?_)
    obtain ⟨hevaluates, hpayload⟩ := (hasOrdinary_sortedSet hnames).mp hhas
    exact ⟨hevaluates, hpayload, .inl rfl⟩

/-- Where resolution fails, it has come to evaluate an entry that has no value. -/
theorem exists_comesToEvaluate_of_resolve
    (hresolve : poc.resolve registry draws prepared = (reached, some f)) :
    ∃ name source seen ownDraws cause,
      poc.ComesToEvaluate registry draws prepared name source seen ownDraws ∧
        registry.evaluate seen ownDraws source = .error cause ∧ f = .expression name cause := by
  obtain ⟨seen, stop, hentries⟩ : ∃ seen stop,
      resolveFrom registry (draws.child 0) 0 poc.sortedSet prepared = (seen, stop) := ⟨_, _, rfl⟩
  rw [resolve, hentries] at hresolve
  cases stop with
  | some f' =>
    cases hresolve
    obtain ⟨before, name, source, after, cause, hsplit, hordinary, hbefore, hfault, rfl⟩ :=
      exists_of_resolveFrom_eq_some hentries
    rw [Nat.zero_add] at hfault
    exact ⟨name, source, _, _, cause, .ordinary hsplit hordinary hbefore, hfault, rfl⟩
  | none =>
    dsimp only at hresolve
    rw [resolvePayload] at hresolve
    split at hresolve
    · cases hresolve
    rename_i source hsource
    obtain ⟨hget, hasks⟩ := Option.filter_eq_some_iff.mp hsource
    split at hresolve <;> cases hresolve
    rename_i cause hfault
    have hcomes := ComesToEvaluate.payload hget (by simpa using hasks) hentries
    exact ⟨payloadName, source, _, _, cause, hcomes, hfault, rfl⟩

/-- An ordinary entry is come to at its place among the sorted ones. -/
theorem ComesToEvaluate.of_ne (hname : name ≠ payloadName)
    (hcomes : poc.ComesToEvaluate registry draws prepared name source seen ownDraws) :
    ∃ before after, poc.sortedSet = before ++ (name, source) :: after ∧
      isOrdinaryEntry name source = true ∧
      resolveFrom registry (draws.child 0) 0 before prepared = (seen, none) ∧
      ownDraws = (draws.child 0).child before.length := by
  cases hcomes with
  | ordinary hsplit hordinary hbefore => exact ⟨_, _, hsplit, hordinary, hbefore, rfl⟩
  | payload => exact absurd rfl hname

/-- Resolution fails at the first entry that it comes to evaluate and that has no value. -/
theorem ComesToEvaluate.resolve_eq {cause : ExprError}
    (hcomes : poc.ComesToEvaluate registry draws prepared name source seen ownDraws)
    (hfault : registry.evaluate seen ownDraws source = .error cause) :
    poc.resolve registry draws prepared = (seen, some (.expression name cause)) := by
  cases hcomes with
  | @ordinary before after _ _ _ hsplit hordinary hbefore =>
    rw [← Nat.zero_add before.length] at hfault
    apply resolve_of_stop
    rw [hsplit, resolveFrom_append hbefore, Option.isNone_none, if_pos rfl,
      resolveFrom_stop hordinary hfault]
  | payload hsource hasks hall =>
    rw [resolve_of_reached hall, resolvePayload_of_get? hsource hasks, hfault]

/-- Resolution comes to evaluate an entry that has to be evaluated, unless it fails before and leaves the
    name of the entry as prepared. -/
theorem comesToEvaluate_or_fails (hnames : poc.NamesOnce) (hmem : (name, source) ∈ poc.set)
    (hevaluated : isEvaluatedEntry name source = true) (registry : Registry) (draws : Expr.Draws)
    (prepared : Params) :
    (∃ seen ownDraws, poc.ComesToEvaluate registry draws prepared name source seen ownDraws) ∨
      ∃ reached f, poc.resolve registry draws prepared = (reached, some f) ∧
        Dict.get? name reached = Dict.get? name prepared := by
  by_cases hname : name = payloadName
  · subst hname
    obtain ⟨reached, stop, hentries⟩ : ∃ reached stop,
        resolveFrom registry (draws.child 0) 0 poc.sortedSet prepared = (reached, stop) := ⟨_, _, rfl⟩
    cases stop with
    | none =>
      obtain ⟨hsource, hasks⟩ := Option.filter_eq_some_iff.mp
        ((payloadSource_eq_some_iff hnames).mpr ⟨hmem, hevaluated⟩)
      exact .inl ⟨reached, _, .payload hsource (by simpa using hasks) hentries⟩
    | some f =>
      have hfree : hasOrdinary poc.sortedSet payloadName = false :=
        Bool.eq_false_iff.mpr fun h => ((hasOrdinary_sortedSet hnames).mp h).2 rfl
      exact .inr ⟨reached, f, resolve_of_stop hentries, get?_resolveFrom hentries hfree⟩
  · have hordinary := isOrdinaryEntry_iff.mpr ⟨hevaluated, hname⟩
    obtain ⟨before, after, hsplit⟩ := List.append_of_mem ((mem_sortedSet_iff hnames).mpr hmem)
    obtain ⟨seen, stop, hbefore⟩ : ∃ seen stop,
        resolveFrom registry (draws.child 0) 0 before prepared = (seen, stop) := ⟨_, _, rfl⟩
    cases stop with
    | none => exact .inl ⟨seen, _, .ordinary hsplit hordinary hbefore⟩
    | some f =>
      have hentries : resolveFrom registry (draws.child 0) 0 poc.sortedSet prepared = (seen, some f) := by
        rw [hsplit, resolveFrom_append hbefore]
        rfl
      have hfree : hasOrdinary before name = false :=
        hasOrdinary_eq_false fun h => lt_irrefl name ((keys_of_split hsplit).1 name h)
      exact .inr ⟨seen, f, resolve_of_stop hentries, get?_resolveFrom hbefore hfree⟩

section BindsTo

variable {poc : Poc} {registry : Registry} {draws : Expr.Draws} {prepared : Params} {name : String}
  {w : Value}

/-- Resolution comes to bind the entry of a name to its value, a URL as its text. The payload is bound to
    its value as it is. -/
def BindsTo (poc : Poc) (registry : Registry) (draws : Expr.Draws) (prepared : Params) (name : String)
    (w : Value) : Prop :=
  ∃ source seen ownDraws v, poc.ComesToEvaluate registry draws prepared name source seen ownDraws ∧
    registry.evaluate seen ownDraws source = .ok v ∧ BoundAs name v w

private theorem get?_resolvePayload (hname : name ≠ payloadName) (registry : Registry) (draws : Expr.Draws)
    (poc : Poc) (params : Params) :
    Dict.get? name (resolvePayload registry draws poc params).1 = Dict.get? name params := by
  rw [resolvePayload]
  split
  · rfl
  split
  · rfl
  · exact Dict.get?_insert_of_ne hname _ _

/-- What resolution leaves of an ordinary name is what the ordinary entries leave. -/
theorem get?_resolve_of_ne (hname : name ≠ payloadName) {reached : Params} {stop : Option Failure}
    (hentries : resolveFrom registry (draws.child 0) 0 poc.sortedSet prepared = (reached, stop)) :
    Dict.get? name (poc.resolve registry draws prepared).1 = Dict.get? name reached := by
  cases stop with
  | some f => rw [resolve_of_stop hentries]
  | none => rw [resolve_of_reached hentries, get?_resolvePayload hname]

/-- What an entry is bound to stays, also where resolution fails later. -/
theorem BindsTo.get?_resolve (hbinds : poc.BindsTo registry draws prepared name w) :
    Dict.get? name (poc.resolve registry draws prepared).1 = some w := by
  obtain ⟨source, seen, ownDraws, v, hcomes, hvalue, hform⟩ := hbinds
  cases hcomes with
  | @ordinary before after _ _ _ hsplit hordinary hbefore =>
    have hname := (isOrdinaryEntry_iff.mp hordinary).2
    obtain ⟨reached, stop, hafter⟩ : ∃ reached stop,
        resolveFrom registry (draws.child 0) (0 + before.length + 1) after
          (seen.insert name (boundForm v)) = (reached, stop) := ⟨_, _, rfl⟩
    have hentries : resolveFrom registry (draws.child 0) 0 poc.sortedSet prepared =
        (reached, stop) := by
      rw [← Nat.zero_add before.length] at hvalue
      rw [hsplit, resolveFrom_append hbefore, Option.isNone_none, if_pos rfl,
        resolveFrom_bind hordinary hvalue, hafter]
    have hlater : hasOrdinary after name = false :=
      hasOrdinary_eq_false fun hmem => lt_irrefl name ((keys_of_split hsplit).2 name hmem)
    rw [get?_resolve_of_ne hname hentries, get?_resolveFrom hafter hlater, Dict.get?_insert_self,
      (boundAs_iff hname).mp hform]
  | payload hsource hasks hall =>
    rw [resolve_of_reached hall, resolvePayload_of_get? hsource hasks, hvalue,
      boundAs_payload_iff.mp hform]
    exact Dict.get?_insert_self ..

end BindsTo

end VulnProbe.Poc
