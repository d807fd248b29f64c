import VulnProbe.Proofs.Run.Binding.NameOrder

namespace VulnProbe.Poc

/-- What the value of an entry is bound as. An entry whose value is a URL is bound to its text, and any
    other to the value itself; the payload is bound to its value whatever this is. -/
inductive BoundAs (name : String) : Value → Value → Prop where
  | payload {v : Value} (hname : name = payloadName) : BoundAs name v v
  | url {u : Url} (hname : name ≠ payloadName) : BoundAs name (.url u) (.string u.text)
  | other {v : Value} (hname : name ≠ payloadName) (hother : ∀ u, v ≠ .url u) : BoundAs name v v

/-- The payload is bound to its value and to nothing else. -/
theorem boundAs_payload_iff {v w : Value} : BoundAs payloadName v w ↔ w = v := by
  constructor
  · intro hbound
    cases hbound with
    | payload => rfl
    | url hname => exact absurd rfl hname
    | other hname => exact absurd rfl hname
  · rintro rfl
    exact .payload rfl

/-- Binding puts the value of an ordinary entry into the form that it is bound as. -/
theorem boundAs_iff {name : String} (hname : name ≠ payloadName) {v w : Value} :
    BoundAs name v w ↔ w = boundForm v := by
  constructor
  · intro hbound
    cases hbound with
    | payload hpayload => exact absurd hpayload hname
    | url => rfl
    | other _ hother =>
      cases v with
      | url u => exact absurd rfl (hother u)
      | _ => rfl
  · rintro rfl
    cases v with
    | url u => exact .url hname
    | _ => exact .other hname (by simp)

/-- An entry holds its value under the bindings that it sees, in the form that it is bound as. -/
def HoldsValue (poc : Poc) (registry : Registry) (draws : Expr.Draws) (prepared bound : Params)
    (name source : String) : Prop :=
  ∃ v w, registry.evaluate (poc.bindingsBefore prepared bound name) (poc.drawsFor draws name) source =
      .ok v ∧
    BoundAs name v w ∧ Dict.get? name bound = some w

/-- What the entries of a definition resolve to: the bindings, and why they are not complete, if so. -/
inductive Resolution (poc : Poc) (registry : Registry) (draws : Expr.Draws) (prepared : Params) :
    Params × Option Failure → Prop where
  /-- Every evaluated entry holds its value, and all else is as prepared. -/
  | complete {bound : Params}
      (hholds : ∀ name source, (name, source) ∈ poc.set → isEvaluatedEntry name source = true →
        poc.HoldsValue registry draws prepared bound name source)
      (hbound : bound = prepared.overlay bound poc.evaluates) :
      Resolution poc registry draws prepared (bound, none)
  /-- An entry has no value, those before it hold theirs, and all else is as prepared. -/
  | failed {bound : Params} {name source : String} {cause : ExprError}
      (hentry : (name, source) ∈ poc.set) (hevaluated : isEvaluatedEntry name source = true)
      (hholds : ∀ m s, (m, s) ∈ poc.set → isEvaluatedEntry m s = true → ComesBefore m name →
        poc.HoldsValue registry draws prepared bound m s)
      (hfault : registry.evaluate bound (poc.drawsFor draws name) source = .error cause)
      (hbound : bound = poc.bindingsBefore prepared bound name) :
      Resolution poc registry draws prepared (bound, some (.expression name cause))

section Resolve

variable {poc : Poc} {registry : Registry} {draws : Expr.Draws} {prepared bound reached : Params}
  {before after : List (String × String)} {name source : String}

private theorem holdsValue_iff (hnames : poc.NamesOnce)
    (hsplit : poc.sortedSet = before ++ (name, source) :: after) (hpayload : name ≠ payloadName) :
    poc.HoldsValue registry draws prepared bound name source ↔
      ∃ v, registry.evaluate (prepared.overlay bound (hasOrdinary before))
          ((draws.child 0).child (0 + before.length)) source = .ok v ∧
        Dict.get? name bound = some (boundForm v) := by
  simp only [HoldsValue, bindingsBefore_eq_overlay hnames hsplit hpayload,
    drawsFor_eq_child hnames hsplit hpayload, Nat.zero_add, boundAs_iff hpayload, exists_and_left,
    exists_eq_left]

private theorem holdsValue_payload_iff (hnames : poc.NamesOnce) :
    poc.HoldsValue registry draws prepared bound payloadName source ↔
      ∃ v, registry.evaluate (prepared.overlay bound (hasOrdinary poc.sortedSet)) (draws.child 1)
          source = .ok v ∧
        Dict.get? payloadName bound = some v := by
  simp only [HoldsValue, bindingsBefore_payload_eq_overlay hnames, drawsFor, if_true,
    boundAs_payload_iff, exists_and_left, exists_eq_left]

/-- The entries resolved so far hold their values. -/
theorem holdsValue_of_mem (hnames : poc.NamesOnce) (hprepared : Dict.Sorted prepared)
    (hsplit : poc.sortedSet = before ++ after)
    (hbefore : resolveFrom registry (draws.child 0) 0 before prepared = (reached, none))
    (hmem : (name, source) ∈ before) (hordinary : isOrdinaryEntry name source = true) :
    poc.HoldsValue registry draws prepared reached name source := by
  obtain ⟨earlier, later, rfl⟩ := List.append_of_mem hmem
  have hsplit' : poc.sortedSet = earlier ++ (name, source) :: (later ++ after) := by
    rw [hsplit, List.append_assoc, List.cons_append]
  rw [holdsValue_iff hnames hsplit' (isOrdinaryEntry_iff.mp hordinary).2]
  exact exists_value_of_resolveFrom hprepared (nodup_keys_of_append hsplit) hordinary hbefore

/-- Binding the payload takes no value from another entry. -/
theorem HoldsValue.insert_payload (hprepared : Dict.Sorted prepared) (hbound : Dict.Sorted bound)
    (hpayload : name ≠ payloadName) (v : Value)
    (hholds : poc.HoldsValue registry draws prepared bound name source) :
    poc.HoldsValue registry draws prepared (bound.insert payloadName v) name source := by
  have hnot : (poc.evaluates payloadName && decide (ComesBefore payloadName name)) = false := by
    rw [decide_eq_false fun hcomes => hcomes.1 rfl, Bool.and_false]
  obtain ⟨u, w, hvalue, hform, hget⟩ := hholds
  refine ⟨u, w, ?_, hform, ?_⟩
  · rw [bindingsBefore, Params.overlay_insert_bound hprepared hbound hnot]
    exact hvalue
  · rw [Dict.get?_insert_of_ne hpayload]
    exact hget

private theorem resolvePayload_of_not (hnames : poc.NamesOnce)
    (hnot : poc.evaluates payloadName = false) (draws : Expr.Draws) (params : Params) :
    resolvePayload registry draws poc params = (params, none) := by
  have hnone : (Dict.get? payloadName poc.sortedSet).filter (fun s => !asksCallback s) = none := by
    refine Option.eq_none_iff_forall_ne_some.mpr fun s hs => ?_
    rw [evaluates_iff.mpr ⟨s, (payloadSource_eq_some_iff hnames).mp hs⟩] at hnot
    cases hnot
  rw [resolvePayload, hnone]

/-- The payload is bound to its value as it is, if its entry asks for no callback. -/
theorem resolvePayload_of_get? (hsource : Dict.get? payloadName poc.sortedSet = some source)
    (hasks : asksCallback source = false) (registry : Registry) (draws : Expr.Draws) (params : Params) :
    resolvePayload registry draws poc params =
      match registry.evaluate params draws source with
      | .error cause => (params, some (.expression payloadName cause))
      | .ok v => (params.insert payloadName v, none) := by
  have hfilter : (Dict.get? payloadName poc.sortedSet).filter (fun s => !asksCallback s) =
      some source := by
    rw [hsource, Option.filter_some_pos (by simp [hasks])]
  cases hvalue : registry.evaluate params draws source with
  | error cause => simp only [resolvePayload, hfilter, hvalue]
  | ok v => simp only [resolvePayload, hfilter, hvalue]

/-- The same by the entries of the definition instead of the sorted ones. -/
theorem resolvePayload_of_mem (hnames : poc.NamesOnce) (hmem : (payloadName, source) ∈ poc.set)
    (hevaluated : isEvaluatedEntry payloadName source = true) (draws : Expr.Draws) (params : Params) :
    resolvePayload registry draws poc params =
      match registry.evaluate params draws source with
      | .error cause => (params, some (.expression payloadName cause))
      | .ok v => (params.insert payloadName v, none) := by
  obtain ⟨hsource, hasks⟩ :=
    Option.filter_eq_some_iff.mp ((payloadSource_eq_some_iff hnames).mpr ⟨hmem, hevaluated⟩)
  exact resolvePayload_of_get? hsource (by simpa using hasks) registry draws params

/-- The ordinary entries are all that have to be evaluated, unless the payload has. -/
theorem hasOrdinary_eq_evaluates (hnames : poc.NamesOnce) (hnot : poc.evaluates payloadName = false) :
    hasOrdinary poc.sortedSet = poc.evaluates := by
  funext m
  refine Bool.eq_iff_iff.mpr ((hasOrdinary_sortedSet hnames).trans (and_iff_left_of_imp ?_))
  rintro hm rfl
  rw [hnot] at hm
  cases hm

/-- Binding the payload lays it over the ordinary entries. -/
theorem overlay_insert_payload (hnames : poc.NamesOnce) (hprepared : Dict.Sorted prepared)
    (hbound : Dict.Sorted bound) (hpayload : poc.evaluates payloadName = true) {v : Value}
    (hv : Dict.get? payloadName bound = some v) :
    (prepared.overlay bound (hasOrdinary poc.sortedSet)).insert payloadName v =
      prepared.overlay bound poc.evaluates := by
  refine Params.overlay_insert hprepared hbound hv fun m => ?_
  rw [hasOrdinary_sortedSet hnames]
  by_cases hm : m = payloadName
  · subst hm
    exact iff_of_true hpayload (.inr rfl)
  · rw [or_iff_left hm, and_iff_left hm]

/-- If no entry before it fails, resolution ends with the payload. -/
theorem resolve_of_reached
    (hresolve : resolveFrom registry (draws.child 0) 0 poc.sortedSet prepared = (reached, none)) :
    poc.resolve registry draws prepared = resolvePayload registry (draws.child 1) poc reached := by
  rw [resolve, hresolve]

/-- An entry that fails ends the resolution before the payload. -/
theorem resolve_of_stop {f : Failure}
    (hresolve : resolveFrom registry (draws.child 0) 0 poc.sortedSet prepared = (reached, some f)) :
    poc.resolve registry draws prepared = (reached, some f) := by
  rw [resolve, hresolve]

/-- An ordinary entry without a value leaves the resolution incomplete. -/
theorem resolution_of_stop (hnames : poc.NamesOnce) (hprepared : Dict.Sorted prepared) {f : Failure}
    (hresolve : resolveFrom registry (draws.child 0) 0 poc.sortedSet prepared = (reached, some f)) :
    poc.Resolution registry draws prepared (reached, some f) := by
  obtain ⟨before, name, source, after, cause, hsplit, hordinary, hbefore, hfault, rfl⟩ :=
    exists_of_resolveFrom_eq_some hresolve
  obtain ⟨hevaluated, hpayload⟩ := isOrdinaryEntry_iff.mp hordinary
  have hentry : (name, source) ∈ poc.set := by
    rw [← mem_sortedSet_iff hnames, hsplit]
    exact List.mem_append_right _ List.mem_cons_self
  refine .failed hentry hevaluated (fun m s hmem hm hcomes => ?_) ?_ ?_
  · exact holdsValue_of_mem hnames hprepared hsplit hbefore
      (mem_before hnames hsplit hpayload hmem hcomes) (isOrdinaryEntry_iff.mpr ⟨hm, hcomes.1⟩)
  · rw [drawsFor_eq_child hnames hsplit hpayload, ← Nat.zero_add before.length]
    exact hfault
  · rw [bindingsBefore_eq_overlay hnames hsplit hpayload]
    exact resolveFrom_eq_overlay hprepared (sorted_resolveFrom hprepared hresolve)
      (nodup_keys_of_append hsplit) hbefore fun _ _ => rfl

/-- With all ordinary entries resolved, the payload completes the resolution or leaves it incomplete. -/
theorem resolution_resolvePayload (hnames : poc.NamesOnce) (hprepared : Dict.Sorted prepared)
    (hresolve : resolveFrom registry (draws.child 0) 0 poc.sortedSet prepared = (reached, none)) :
    poc.Resolution registry draws prepared
      (resolvePayload registry (draws.child 1) poc reached) := by
  have hreached := sorted_resolveFrom hprepared hresolve
  have hall {m s : String} (hmem : (m, s) ∈ poc.set) (hm : isEvaluatedEntry m s = true)
      (hne : m ≠ payloadName) : poc.HoldsValue registry draws prepared reached m s :=
    holdsValue_of_mem hnames hprepared (List.append_nil _).symm hresolve
      ((mem_sortedSet_iff hnames).mpr hmem) (isOrdinaryEntry_iff.mpr ⟨hm, hne⟩)
  have hoverlay : reached = prepared.overlay reached (hasOrdinary poc.sortedSet) :=
    resolveFrom_eq_overlay hprepared hreached poc.sorted_sortedSet.nodup hresolve fun _ _ => rfl
  cases hpayload : poc.evaluates payloadName with
  | false =>
    rw [resolvePayload_of_not hnames hpayload]
    refine .complete (fun m s hmem hm => hall hmem hm ?_) ?_
    · rintro rfl
      rw [evaluates_iff.mpr ⟨s, hmem, hm⟩] at hpayload
      cases hpayload
    · rw [← hasOrdinary_eq_evaluates hnames hpayload]
      exact hoverlay
  | true =>
    obtain ⟨source, hsource, hevaluated⟩ := evaluates_iff.mp hpayload
    rw [resolvePayload_of_mem hnames hsource hevaluated]
    cases hvalue : registry.evaluate reached (draws.child 1) source with
    | error cause =>
      refine .failed hsource hevaluated (fun m s hmem hm hcomes => hall hmem hm hcomes.1) ?_ ?_
      · rw [drawsFor, if_pos rfl]
        exact hvalue
      · rw [bindingsBefore_payload_eq_overlay hnames]
        exact hoverlay
    | ok v =>
      have hnot : hasOrdinary poc.sortedSet payloadName = false := by
        rw [Bool.eq_false_iff]
        exact fun h => ((hasOrdinary_sortedSet hnames).mp h).2 rfl
      have hsame : prepared.overlay (reached.insert payloadName v) (hasOrdinary poc.sortedSet) =
          reached :=
        (Params.overlay_insert_bound hprepared hreached hnot).trans hoverlay.symm
      have hget : Dict.get? payloadName (reached.insert payloadName v) = some v :=
        Dict.get?_insert_self ..
      refine .complete (fun m s hmem hm => ?_) ?_
      · by_cases hne : m = payloadName
        · subst hne
          rw [holdsValue_payload_iff hnames, hsame, hnames.source_unique hmem hsource]
          exact ⟨v, hvalue, hget⟩
        · exact (hall hmem hm hne).insert_payload hprepared hreached hne v
      · rw [← overlay_insert_payload hnames hprepared (Dict.sorted_insert _ _ hreached) hpayload hget,
          hsame]

/-- Resolution comes to what the order of the names says. -/
theorem resolution_resolve (hnames : poc.NamesOnce) (hprepared : Dict.Sorted prepared)
    (registry : Registry) (draws : Expr.Draws) :
    poc.Resolution registry draws prepared (poc.resolve registry draws prepared) := by
  obtain ⟨reached, stop, hresolve⟩ : ∃ reached stop,
      resolveFrom registry (draws.child 0) 0 poc.sortedSet prepared = (reached, stop) := ⟨_, _, rfl⟩
  cases stop with
  | some f =>
    rw [resolve_of_stop hresolve]
    exact resolution_of_stop hnames hprepared hresolve
  | none =>
    rw [resolve_of_reached hresolve]
    exact resolution_resolvePayload hnames hprepared hresolve

/-- A resolution that stops at no entry is complete. -/
theorem complete_of_resolve (hnames : poc.NamesOnce) (hprepared : Dict.Sorted prepared)
    (hresolve : poc.resolve registry draws prepared = (bound, none)) :
    (∀ name source, (name, source) ∈ poc.set → isEvaluatedEntry name source = true →
        poc.HoldsValue registry draws prepared bound name source) ∧
      Dict.Sorted bound ∧ bound = prepared.overlay bound poc.evaluates := by
  have hresolution := resolution_resolve hnames hprepared registry draws
  rw [hresolve] at hresolution
  cases hresolution with
  | complete hholds hbound => exact ⟨hholds, hbound ▸ Params.sorted_overlay hprepared, hbound⟩

/-- Resolution leaves a name whose entry is not evaluated as it was prepared, also where it fails. -/
theorem get?_resolve_of_not_evaluates (hnames : poc.NamesOnce) (hprepared : Dict.Sorted prepared)
    (registry : Registry) (draws : Expr.Draws) (hnot : poc.evaluates name = false) :
    Dict.get? name (poc.resolve registry draws prepared).1 = Dict.get? name prepared := by
  have hresolution := resolution_resolve hnames hprepared registry draws
  generalize poc.resolve registry draws prepared = result at hresolution ⊢
  cases hresolution with
  | @complete bound hholds hbound =>
    have hsorted : Dict.Sorted bound := hbound ▸ Params.sorted_overlay hprepared
    rw [hbound, Params.get?_overlay hsorted, hnot, if_neg Bool.false_ne_true]
  | @failed bound stopped source cause hentry hevaluated hholds hfault hbound =>
    have hsorted : Dict.Sorted bound := hbound ▸ Params.sorted_overlay hprepared
    rw [hbound, bindingsBefore, Params.get?_overlay hsorted, hnot, Bool.false_and,
      if_neg Bool.false_ne_true]

/-- A name that is not evaluated keeps what it was prepared with. -/
theorem get?_resolve_of_not (hnames : poc.NamesOnce) (hprepared : Dict.Sorted prepared)
    (hresolve : poc.resolve registry draws prepared = (bound, none))
    (hnot : poc.evaluates name = false) : Dict.get? name bound = Dict.get? name prepared := by
  have hkept := get?_resolve_of_not_evaluates hnames hprepared registry draws hnot
  rwa [hresolve] at hkept

/-- The ordinary entries resolve to an overlay by bindings in which they hold their values. -/
theorem resolveFrom_of_holdsValue (hnames : poc.NamesOnce) (hprepared : Dict.Sorted prepared)
    (hbound : Dict.Sorted bound) (hsplit : poc.sortedSet = before ++ after)
    (hholds : ∀ m s, (m, s) ∈ before → isOrdinaryEntry m s = true →
      poc.HoldsValue registry draws prepared bound m s) :
    resolveFrom registry (draws.child 0) 0 before prepared =
      (prepared.overlay bound (hasOrdinary before), none) := by
  refine resolveFrom_of_values hprepared hbound fun earlier m s later hbefore hordinary => ?_
  have hsplit' : poc.sortedSet = earlier ++ (m, s) :: (later ++ after) := by
    rw [hsplit, hbefore, List.append_assoc, List.cons_append]
  have hmem : (m, s) ∈ before := hbefore ▸ List.mem_append_right _ List.mem_cons_self
  exact (holdsValue_iff hnames hsplit' (isOrdinaryEntry_iff.mp hordinary).2).mp
    (hholds m s hmem hordinary)

/-- Nothing else than the result of resolution is what the order of the names says. -/
theorem resolve_of_resolution {result : Params × Option Failure} (hnames : poc.NamesOnce)
    (hprepared : Dict.Sorted prepared) (hresult : poc.Resolution registry draws prepared result) :
    poc.resolve registry draws prepared = result := by
  cases hresult with
  | @complete bound hholds hbound =>
    have hsorted : Dict.Sorted bound := hbound ▸ Params.sorted_overlay hprepared
    have hall := resolveFrom_of_holdsValue hnames hprepared hsorted (List.append_nil _).symm
      fun m s hmem hordinary =>
        hholds m s ((mem_sortedSet_iff hnames).mp hmem) (isOrdinaryEntry_iff.mp hordinary).1
    rw [resolve_of_reached hall]
    cases hpayload : poc.evaluates payloadName with
    | false => rw [resolvePayload_of_not hnames hpayload, hasOrdinary_eq_evaluates hnames hpayload,
        ← hbound]
    | true =>
      obtain ⟨source, hsource, hevaluated⟩ := evaluates_iff.mp hpayload
      obtain ⟨v, hvalue, hv⟩ :=
        (holdsValue_payload_iff hnames).mp (hholds payloadName source hsource hevaluated)
      have hinsert := overlay_insert_payload hnames hprepared hsorted hpayload hv
      rw [resolvePayload_of_mem hnames hsource hevaluated, hvalue]
      exact congrArg (·, none) (hinsert.trans hbound.symm)
  | @failed bound name source cause hentry hevaluated hholds hfault hbound =>
    have hsorted : Dict.Sorted bound := hbound ▸ Params.sorted_overlay hprepared
    by_cases hpayload : name = payloadName
    · subst hpayload
      have hall := resolveFrom_of_holdsValue hnames hprepared hsorted (List.append_nil _).symm
        fun m s hmem hordinary => by
          obtain ⟨hm, hne⟩ := isOrdinaryEntry_iff.mp hordinary
          exact hholds m s ((mem_sortedSet_iff hnames).mp hmem) hm ⟨hne, .inl rfl⟩
      rw [bindingsBefore_payload_eq_overlay hnames] at hbound
      rw [drawsFor, if_pos rfl] at hfault
      rw [resolve_of_reached hall, ← hbound, resolvePayload_of_mem hnames hentry hevaluated, hfault]
    · obtain ⟨before, after, hsplit⟩ :=
        List.append_of_mem ((mem_sortedSet_iff hnames).mpr hentry)
      have hbefore := resolveFrom_of_holdsValue hnames hprepared hsorted hsplit
        fun m s hmem hordinary => by
          obtain ⟨hm, hne⟩ := isOrdinaryEntry_iff.mp hordinary
          have hlt := (keys_of_split hsplit).1 m (List.mem_map.mpr ⟨_, hmem, rfl⟩)
          refine hholds m s ?_ hm ⟨hne, .inr (Utf8.ofString_lt_ofString_iff.mpr hlt)⟩
          rw [← mem_sortedSet_iff hnames, hsplit]
          exact List.mem_append_left _ hmem
      rw [bindingsBefore_eq_overlay hnames hsplit hpayload] at hbound
      rw [drawsFor_eq_child hnames hsplit hpayload, ← Nat.zero_add before.length] at hfault
      rw [← hbound] at hbefore
      refine resolve_of_stop ?_
      rw [hsplit, resolveFrom_append hbefore, Option.isNone_none, if_pos rfl,
        resolveFrom_stop (isOrdinaryEntry_iff.mpr ⟨hevaluated, hpayload⟩) hfault]

end Resolve

section Order

variable {poc other : Poc} {registry : Registry} {draws : Expr.Draws} {prepared bound : Params}
  {callbacks : Callbacks} {target : String} {k k' : Nat}

private theorem sortedSet_of_perm (hnames : poc.NamesOnce) (hperm : other.set.Perm poc.set) :
    other.sortedSet = poc.sortedSet :=
  (Dict.ofList_perm hperm.symm hnames).symm

private theorem resolve_of_sortedSet_eq (hsame : other.sortedSet = poc.sortedSet) (registry : Registry)
    (draws : Expr.Draws) (params : Params) :
    other.resolve registry draws params = poc.resolve registry draws params := by
  simp only [resolve, resolvePayload, hsame]

/-- The payload sees all other entries that are bound, with the values that they keep. -/
theorem get?_bindingsBefore_payload (hnames : poc.NamesOnce)
    (hprepare : poc.prepare callbacks k target = (.ok prepared, k'))
    (hresolve : poc.resolve registry draws prepared = (bound, none)) {name source : String}
    (hentry : (name, source) ∈ poc.set) (hname : name ≠ payloadName)
    (hbinds : isEvaluatedEntry name source = true ∨ asksCallback source = true) :
    ∃ v, Dict.get? name (poc.bindingsBefore prepared bound payloadName) = some v ∧
      Dict.get? name bound = some v := by
  obtain ⟨hholds, hsorted, -⟩ := complete_of_resolve hnames (sorted_prepare hprepare) hresolve
  rw [bindingsBefore_payload_eq_overlay hnames, Params.get?_overlay hsorted]
  by_cases hevaluated : isEvaluatedEntry name source = true
  · obtain ⟨-, v, -, -, hv⟩ := hholds name source hentry hevaluated
    have hordinary : hasOrdinary poc.sortedSet name = true :=
      (hasOrdinary_sortedSet hnames).mpr ⟨evaluates_iff.mpr ⟨source, hentry, hevaluated⟩, hname⟩
    rw [if_pos hordinary, hv]
    exact ⟨_, Option.some_or, rfl⟩
  · have hasks : poc.AsksCallbackFor name := by
      rwa [asksCallback_iff.mp (hbinds.resolve_left hevaluated)] at hentry
    have hnot : poc.evaluates name = false := evaluates_eq_false_of_asksCallback hnames hasks
    obtain ⟨u, hu⟩ : ∃ u, Dict.get? name prepared = some (.reverse u) := by
      rcases get?_prepare hnames hprepare name with ⟨-, h⟩ | ⟨h, -⟩
      · exact h
      · exact absurd hasks h
    have hordinary : hasOrdinary poc.sortedSet name ≠ true := by
      rw [Ne, hasOrdinary_sortedSet hnames, hnot]
      exact fun h => Bool.false_ne_true h.1
    rw [if_neg hordinary, get?_resolve_of_not hnames (sorted_prepare hprepare) hresolve hnot]
    exact ⟨_, hu, hu⟩

/-- What comes of a failed resolution does not depend on the sources of later entries. -/
theorem resolve_of_agree (hnames : poc.NamesOnce) (hprepared : Dict.Sorted prepared) {name : String}
    {cause : ExprError}
    (hresolve : poc.resolve registry draws prepared = (bound, some (.expression name cause)))
    (hkeys : (Dict.keys other.set).Perm (Dict.keys poc.set))
    (hagree : ∀ m s, m = name ∨ ComesBefore m name → ((m, s) ∈ other.set ↔ (m, s) ∈ poc.set)) :
    other.resolve registry draws prepared = (bound, some (.expression name cause)) := by
  have hother : other.NamesOnce := hkeys.symm.nodup hnames
  have hdraws : ∀ m, other.drawsFor draws m = poc.drawsFor draws m := by
    intro m
    rw [drawsFor, drawsFor, hkeys.countP_eq]
  have htrans {m n : String} (hmn : ComesBefore m n) (hn : n = name ∨ ComesBefore n name) :
      ComesBefore m name := by
    rcases hn with rfl | hn
    · exact hmn
    · exact hmn.trans hn
  have hbefore : ∀ m, m = name ∨ ComesBefore m name →
      other.bindingsBefore prepared bound m = poc.bindingsBefore prepared bound m := by
    intro n hn
    refine congrArg (prepared.overlay bound) (funext fun m => Bool.eq_iff_iff.mpr ?_)
    simp only [Bool.and_eq_true, decide_eq_true_eq, evaluates_iff]
    exact and_congr_left fun hmn => exists_congr fun s =>
      and_congr_left fun _ => hagree m s (.inr (htrans hmn hn))
  have hresolution := resolution_resolve hnames hprepared registry draws
  rw [hresolve] at hresolution
  cases hresolution with
  | failed hentry hevaluated hholds hfault hbound =>
    refine resolve_of_resolution hother hprepared
      (.failed ((hagree _ _ (.inl rfl)).mpr hentry) hevaluated (fun m s hmem hm hcomes => ?_) ?_ ?_)
    · obtain ⟨v, w, hvalue, hw⟩ := hholds m s ((hagree m s (.inr hcomes)).mp hmem) hm hcomes
      exact ⟨v, w, by rw [hbefore m (.inr hcomes), hdraws]; exact hvalue, hw⟩
    · rw [hdraws]
      exact hfault
    · rw [hbefore name (.inl rfl)]
      exact hbound

end Order

/-- Resolution follows the order of the names and nothing else. -/
structure ResolvesByName (poc : Poc) (callbacks : Callbacks) (k : Nat) (target : String)
    (prepared : Params) (k' : Nat) (registry : Registry) (draws : Expr.Draws) : Prop where
  /-- It comes to what the order of the names says, and to nothing else. -/
  resolution : ∀ result,
    poc.resolve registry draws prepared = result ↔ poc.Resolution registry draws prepared result
  /-- The payload sees every other entry that is bound, evaluated or callback, as it stays bound. -/
  payload_sees : ∀ bound, poc.resolve registry draws prepared = (bound, none) →
    ∀ name source, (name, source) ∈ poc.set → name ≠ payloadName →
      (isEvaluatedEntry name source = true ∨ asksCallback source = true) →
        ∃ v, Dict.get? name (poc.bindingsBefore prepared bound payloadName) = some v ∧
          Dict.get? name bound = some v
  /-- Where an entry has no value, no later one is evaluated: any other sources of the later ones lead
      to the same failure and the same bindings. -/
  later_unseen : ∀ bound name cause,
    poc.resolve registry draws prepared = (bound, some (.expression name cause)) →
      ∀ other : Poc, (Dict.keys other.set).Perm (Dict.keys poc.set) →
        (∀ m s, m = name ∨ ComesBefore m name → ((m, s) ∈ other.set ↔ (m, s) ∈ poc.set)) →
          other.resolve registry draws prepared = (bound, some (.expression name cause))
  /-- The order in which the entries are declared does not count. -/
  order_free : ∀ other : Poc, other.set.Perm poc.set →
    other.prepare callbacks k target = (.ok prepared, k') ∧
      other.resolve registry draws prepared = poc.resolve registry draws prepared

/-- After preparation, resolution follows the order of the names, for any definition, target and
    callbacks, and under any declarations. -/
theorem resolvesByName_of_prepare (poc : Poc) (callbacks : Callbacks) (k : Nat) (target : String)
    (prepared : Params) (k' : Nat) (registry : Registry) (draws : Expr.Draws)
    (hnames : poc.NamesOnce) (hprepare : poc.prepare callbacks k target = (.ok prepared, k')) :
    poc.ResolvesByName callbacks k target prepared k' registry draws := by
  have hsorted := sorted_prepare hprepare
  constructor
  case resolution =>
    intro result
    constructor
    · rintro rfl
      exact resolution_resolve hnames hsorted registry draws
    · exact resolve_of_resolution hnames hsorted
  case payload_sees =>
    intro bound hresolve name source hentry hname hbinds
    exact get?_bindingsBefore_payload hnames hprepare hresolve hentry hname hbinds
  case later_unseen =>
    intro bound name cause hresolve other hkeys hagree
    exact resolve_of_agree hnames hsorted hresolve hkeys hagree
  case order_free =>
    intro other hperm
    have hsame := sortedSet_of_perm hnames hperm
    refine ⟨?_, resolve_of_sortedSet_eq hsame registry draws prepared⟩
    rw [prepare, hsame]
    exact hprepare

/-- A name is bound to a text if the value it is bound to compares equal to this text. -/
private theorem get?_eq_string {params : Params} {name s : String}
    (hsame : (Dict.get? name params).any (· == .string s) = true) :
    Dict.get? name params = some (.string s) := by
  cases hget : Dict.get? name params with
  | none =>
    rw [hget] at hsame
    cases hsame
  | some v =>
    rw [hget] at hsame
    cases v with
    | string t => rw [eq_of_beq (show (t == s) = true from hsame)]
    | _ => cases hsame

/-- A definition with a callback, a request that its own entry overwrites, and a payload that is neither
    declared nor named last. The entry that reads the URL of the callback is bound to the text of it, and
    the next one extends that text. -/
theorem resolvesByName_of_prepare_sample :
    let poc : Poc :=
      { name := "sample"
        set := [("payload", "urlParse(b)"), ("b", "a.concat(\"1\")"), ("request", "request.url.path"),
          ("cb", "newReverse()"), ("a", "cb.url")]
        rules := []
        detail := none }
    let url (path : String) : Url :=
      { scheme := "http", username := "", password := none
        host := some (.ipv6 [0, 0, 0, 0, 0, 0, 0, 1])
        port := none, path := path, query := none, fragment := none }
    let callbacks : Callbacks := fun _ => .ok "http://[::1]/cb"
    let prepared : Params := [("cb", .reverse (url "/cb")), ("request", .request (url "/"))]
    let bound := (poc.resolve Registry.initial (.ofSeed 0) prepared).1
    poc.NamesOnce ∧ poc.prepare callbacks 0 "http://[::1]" = (.ok prepared, 1) ∧
      poc.ResolvesByName callbacks 0 "http://[::1]" prepared 1 Registry.initial (.ofSeed 0) ∧
      poc.Resolution Registry.initial (.ofSeed 0) prepared (bound, none) ∧
      Dict.get? "a" bound = some (.string "http://[::1]/cb") ∧
      Dict.get? "b" bound = some (.string "http://[::1]/cb1") ∧
      Dict.get? "request" bound = some (.string "/") := by
  intro poc url callbacks prepared bound
  have hnames : poc.NamesOnce := by
    rw [NamesOnce]
    decide
  have hprepare : poc.prepare callbacks 0 "http://[::1]" = (.ok prepared, 1) := rfl
  have hresolves := resolvesByName_of_prepare poc callbacks 0 "http://[::1]" prepared 1
    Registry.initial (.ofSeed 0) hnames hprepare
  -- All is computed at once, so that the resolution is evaluated once.
  have hcomputed : (poc.resolve Registry.initial (.ofSeed 0) prepared).2 = none ∧
      (Dict.get? "a" bound).any (· == .string "http://[::1]/cb") = true ∧
      (Dict.get? "b" bound).any (· == .string "http://[::1]/cb1") = true ∧
      (Dict.get? "request" bound).any (· == .string "/") = true := by
    decide +kernel +zetaReduce
  obtain ⟨hnone, ha, hb, hrequest⟩ := hcomputed
  have hresolve : poc.resolve Registry.initial (.ofSeed 0) prepared = (bound, none) :=
    Prod.ext rfl hnone
  exact ⟨hnames, hprepare, hresolves, (hresolves.resolution _).mp hresolve, get?_eq_string ha,
    get?_eq_string hb, get?_eq_string hrequest⟩

end VulnProbe.Poc
