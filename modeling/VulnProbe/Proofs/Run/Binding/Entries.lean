import Mathlib.Data.List.Induction
import VulnProbe.Proofs.Run.Binding.Prepared

namespace VulnProbe

/-- The bindings, and over them those that `bound` has for some names. -/
def Params.overlay (params bound : Params) (p : String → Bool) : Params :=
  params.insertAll (bound.filter fun b => p b.1)

namespace Params

variable {params bound : Params} {p : String → Bool}

/-- An overlay binds the names that it covers to what lies over them, if they are bound there, and
    leaves all others. -/
theorem get?_overlay (hbound : Dict.Sorted bound) (name : String) :
    Dict.get? name (params.overlay bound p) =
      if p name then (Dict.get? name bound).or (Dict.get? name params)
      else Dict.get? name params := by
  rw [overlay, Dict.get?_insertAll (hbound.filter _).nodup, Dict.get?_filter p]
  by_cases hp : p name = true
  · rw [if_pos hp, if_pos hp]
  · rw [if_neg hp, if_neg hp, Option.none_or]

/-- An overlay keeps the order of the names. -/
theorem sorted_overlay (hparams : Dict.Sorted params) : Dict.Sorted (params.overlay bound p) :=
  Dict.sorted_insertAll _ hparams

/-- Bindings are told by an overlay if they are those laid over on its names, and unchanged elsewhere. -/
theorem eq_overlay {reached : Params} (hparams : Dict.Sorted params) (hbound : Dict.Sorted bound)
    (hreached : Dict.Sorted reached)
    (hover : ∀ name, p name = true →
      ∃ v, Dict.get? name reached = some v ∧ Dict.get? name bound = some v)
    (helse : ∀ name, p name = false → Dict.get? name reached = Dict.get? name params) :
    reached = params.overlay bound p := by
  refine Dict.ext hreached (sorted_overlay hparams) fun name => ?_
  rw [get?_overlay hbound]
  cases hp : p name with
  | true =>
    obtain ⟨v, hv, hv'⟩ := hover name hp
    rw [if_pos rfl, hv, hv', Option.some_or]
  | false =>
    rw [if_neg Bool.false_ne_true]
    exact helse name hp

private theorem overlay_none (params bound : Params) : params.overlay bound (fun _ => false) = params := by
  rw [overlay, List.filter_false]
  rfl

/-- One more binding is laid over by inserting it. -/
theorem overlay_insert {q : String → Bool} {name : String} {v : Value} (hparams : Dict.Sorted params)
    (hbound : Dict.Sorted bound) (hv : Dict.get? name bound = some v)
    (hq : ∀ m, q m = true ↔ p m = true ∨ m = name) :
    (params.overlay bound p).insert name v = params.overlay bound q := by
  refine Dict.ext (Dict.sorted_insert _ _ (sorted_overlay hparams)) (sorted_overlay hparams) fun m => ?_
  rw [Dict.get?_insert, get?_overlay hbound, get?_overlay hbound]
  by_cases hm : m = name
  · rw [if_pos hm, if_pos ((hq m).mpr (.inr hm)), hm, hv, Option.some_or]
  · rw [if_neg hm]
    have hiff : q m = p m := Bool.eq_iff_iff.mpr ((hq m).trans (or_iff_left hm))
    rw [hiff]

/-- A binding that is not laid over does not count. -/
theorem overlay_insert_bound {name : String} {v : Value} (hparams : Dict.Sorted params)
    (hbound : Dict.Sorted bound) (hname : p name = false) :
    params.overlay (bound.insert name v) p = params.overlay bound p := by
  refine Dict.ext (sorted_overlay hparams) (sorted_overlay hparams) fun m => ?_
  rw [get?_overlay hbound, get?_overlay (Dict.sorted_insert _ _ hbound)]
  by_cases hp : p m = true
  · have hm : m ≠ name := by
      rintro rfl
      rw [hname] at hp
      cases hp
    rw [if_pos hp, if_pos hp, Dict.get?_insert_of_ne hm]
  · rw [if_neg hp, if_neg hp]

end Params

/-- An entry of the name is among those bound in the order of the names. -/
def hasOrdinary (entries : List (String × String)) (name : String) : Bool :=
  entries.any fun entry => entry.1 == name && isOrdinaryEntry entry.1 entry.2

section ResolveFrom

variable {registry : Registry} {draws : Expr.Draws} {i : Nat} {params reached : Params}
  {entries before after : List (String × String)} {name source : String}

/-- A name is bound in order exactly if it has an entry of that kind. -/
theorem hasOrdinary_iff :
    hasOrdinary entries name = true ↔
      ∃ source, (name, source) ∈ entries ∧ isOrdinaryEntry name source = true := by
  simp only [hasOrdinary, List.any_eq_true, Bool.and_eq_true, beq_iff_eq, Prod.exists]
  constructor
  · rintro ⟨_, source, hmem, rfl, hordinary⟩
    exact ⟨source, hmem, hordinary⟩
  · rintro ⟨source, hmem, hordinary⟩
    exact ⟨name, source, hmem, rfl, hordinary⟩

/-- Of two parts of the entries, one has to have the name. -/
theorem hasOrdinary_append :
    hasOrdinary (before ++ after) name = (hasOrdinary before name || hasOrdinary after name) :=
  List.any_append

private theorem hasOrdinary_singleton {m : String} :
    hasOrdinary [(name, source)] m = (name == m && isOrdinaryEntry name source) :=
  Bool.or_false _

/-- Only the names of entries are bound in order. -/
theorem mem_keys_of_hasOrdinary (hordinary : hasOrdinary entries name = true) :
    name ∈ Dict.keys entries := by
  obtain ⟨source, hmem, -⟩ := hasOrdinary_iff.mp hordinary
  exact List.mem_map.mpr ⟨_, hmem, rfl⟩

/-- A name without an entry is not bound in order. -/
theorem hasOrdinary_eq_false (hname : name ∉ Dict.keys entries) : hasOrdinary entries name = false :=
  Bool.eq_false_iff.mpr fun hordinary => hname (mem_keys_of_hasOrdinary hordinary)

/-- An entry that is not bound in order is passed over, but its place is counted. -/
theorem resolveFrom_skip (hordinary : isOrdinaryEntry name source = false) :
    resolveFrom registry draws i ((name, source) :: entries) params =
      resolveFrom registry draws (i + 1) entries params := by
  rw [resolveFrom, hordinary, if_neg Bool.false_ne_true]

/-- An entry that has a value is bound to it, and the later ones see it. -/
theorem resolveFrom_bind {v : Value} (hordinary : isOrdinaryEntry name source = true)
    (hvalue : registry.evaluate params (draws.child i) source = .ok v) :
    resolveFrom registry draws i ((name, source) :: entries) params =
      resolveFrom registry draws (i + 1) entries (params.insert name (boundForm v)) := by
  rw [resolveFrom, if_pos hordinary, hvalue]

/-- An entry without a value ends the resolution, and what was bound before stays. -/
theorem resolveFrom_stop {cause : ExprError} (hordinary : isOrdinaryEntry name source = true)
    (hfault : registry.evaluate params (draws.child i) source = .error cause) :
    resolveFrom registry draws i ((name, source) :: entries) params =
      (params, some (.expression name cause)) := by
  rw [resolveFrom, if_pos hordinary, hfault]

/-- Where all entries resolve, an ordinary first one has a value, and the others resolve over it. -/
theorem resolveFrom_cons_eq_ok (hordinary : isOrdinaryEntry name source = true)
    (hresolve : resolveFrom registry draws i ((name, source) :: entries) params = (reached, none)) :
    ∃ v, registry.evaluate params (draws.child i) source = .ok v ∧
      resolveFrom registry draws (i + 1) entries (params.insert name (boundForm v)) =
        (reached, none) := by
  cases hvalue : registry.evaluate params (draws.child i) source with
  | error cause =>
    rw [resolveFrom_stop hordinary hvalue] at hresolve
    cases hresolve
  | ok v =>
    rw [resolveFrom_bind hordinary hvalue] at hresolve
    exact ⟨v, rfl, hresolve⟩

/-- Resolution goes on with the entries that follow, unless one of those before them has no value. -/
theorem resolveFrom_append {stop : Option Failure}
    (hbefore : resolveFrom registry draws i before params = (reached, stop)) :
    resolveFrom registry draws i (before ++ after) params =
      if stop.isNone then resolveFrom registry draws (i + before.length) after reached
      else (reached, stop) := by
  induction before generalizing i params with
  | nil =>
    cases hbefore
    rfl
  | cons entry before ih =>
    obtain ⟨name, source⟩ := entry
    rw [List.cons_append, List.length_cons, Nat.add_comm before.length, ← Nat.add_assoc]
    cases hordinary : isOrdinaryEntry name source with
    | false =>
      rw [resolveFrom_skip hordinary] at hbefore ⊢
      exact ih hbefore
    | true =>
      cases hvalue : registry.evaluate params (draws.child i) source with
      | error cause =>
        rw [resolveFrom_stop hordinary hvalue] at hbefore ⊢
        cases hbefore
        rfl
      | ok v =>
        rw [resolveFrom_bind hordinary hvalue] at hbefore ⊢
        exact ih hbefore

/-- Resolution keeps the bindings in order, also where it stops. -/
theorem sorted_resolveFrom {stop : Option Failure} (hparams : Dict.Sorted params)
    (hresolve : resolveFrom registry draws i entries params = (reached, stop)) :
    Dict.Sorted reached := by
  induction entries generalizing i params with
  | nil =>
    cases hresolve
    exact hparams
  | cons entry entries ih =>
    obtain ⟨name, source⟩ := entry
    cases hordinary : isOrdinaryEntry name source with
    | false =>
      rw [resolveFrom_skip hordinary] at hresolve
      exact ih hparams hresolve
    | true =>
      cases hvalue : registry.evaluate params (draws.child i) source with
      | error cause =>
        rw [resolveFrom_stop hordinary hvalue] at hresolve
        cases hresolve
        exact hparams
      | ok v =>
        rw [resolveFrom_bind hordinary hvalue] at hresolve
        exact ih (Dict.sorted_insert _ _ hparams) hresolve

/-- Resolution changes no other names than those of ordinary entries. -/
theorem get?_resolveFrom {stop : Option Failure}
    (hresolve : resolveFrom registry draws i entries params = (reached, stop))
    (hname : hasOrdinary entries name = false) : Dict.get? name reached = Dict.get? name params := by
  induction entries generalizing i params with
  | nil =>
    cases hresolve
    rfl
  | cons entry entries ih =>
    obtain ⟨head, source⟩ := entry
    obtain ⟨hhead, hname⟩ := Bool.or_eq_false_iff.mp hname
    cases hordinary : isOrdinaryEntry head source with
    | false =>
      rw [resolveFrom_skip hordinary] at hresolve
      exact ih hresolve hname
    | true =>
      cases hvalue : registry.evaluate params (draws.child i) source with
      | error cause =>
        rw [resolveFrom_stop hordinary hvalue] at hresolve
        cases hresolve
        rfl
      | ok v =>
        rw [resolveFrom_bind hordinary hvalue] at hresolve
        have hne : name ≠ head := by
          rintro rfl
          simp only [hordinary, beq_self_eq_true, Bool.and_self, reduceCtorEq] at hhead
        rw [ih hresolve hname, Dict.get?_insert_of_ne hne]

/-- When all entries resolve, each ordinary one had a value under the bindings that those before it
    leave, and was bound to it. -/
theorem resolveFrom_split (hordinary : isOrdinaryEntry name source = true)
    (hresolve : resolveFrom registry draws i (before ++ (name, source) :: after) params =
      (reached, none)) :
    ∃ seen v, resolveFrom registry draws i before params = (seen, none) ∧
      registry.evaluate seen (draws.child (i + before.length)) source = .ok v ∧
      resolveFrom registry draws (i + before.length + 1) after (seen.insert name (boundForm v)) =
        (reached, none) := by
  obtain ⟨seen, stop, hbefore⟩ : ∃ seen stop,
      resolveFrom registry draws i before params = (seen, stop) := ⟨_, _, rfl⟩
  rw [resolveFrom_append hbefore] at hresolve
  cases stop with
  | some f => cases hresolve
  | none =>
    rw [Option.isNone_none, if_pos rfl] at hresolve
    obtain ⟨v, hvalue, hafter⟩ := resolveFrom_cons_eq_ok hordinary hresolve
    exact ⟨seen, v, hbefore, hvalue, hafter⟩

/-- Resolution stops at the first ordinary entry without a value, with the bindings that those before
    it leave. -/
theorem exists_of_resolveFrom_eq_some {f : Failure}
    (hresolve : resolveFrom registry draws i entries params = (reached, some f)) :
    ∃ before name source after cause, entries = before ++ (name, source) :: after ∧
      isOrdinaryEntry name source = true ∧
      resolveFrom registry draws i before params = (reached, none) ∧
      registry.evaluate reached (draws.child (i + before.length)) source = .error cause ∧
      f = .expression name cause := by
  induction entries generalizing i params with
  | nil => cases hresolve
  | cons entry entries ih =>
    obtain ⟨head, first⟩ := entry
    have hlater {next : Params}
        (hhead : ∀ entries, resolveFrom registry draws i ((head, first) :: entries) params =
          resolveFrom registry draws (i + 1) entries next) :
        ∃ before name source after cause, (head, first) :: entries = before ++ (name, source) :: after ∧
          isOrdinaryEntry name source = true ∧
          resolveFrom registry draws i before params = (reached, none) ∧
          registry.evaluate reached (draws.child (i + before.length)) source = .error cause ∧
          f = .expression name cause := by
      rw [hhead] at hresolve
      obtain ⟨before, name, source, after, cause, rfl, hordinary, hbefore, hfault, rfl⟩ := ih hresolve
      refine ⟨(head, first) :: before, name, source, after, cause, rfl, hordinary, ?_, ?_, rfl⟩
      · rw [hhead, hbefore]
      · rw [List.length_cons, Nat.add_comm before.length, ← Nat.add_assoc, hfault]
    cases hordinary : isOrdinaryEntry head first with
    | false => exact hlater fun _ => resolveFrom_skip hordinary
    | true =>
      cases hvalue : registry.evaluate params (draws.child i) first with
      | ok v => exact hlater fun _ => resolveFrom_bind hordinary hvalue
      | error cause =>
        rw [resolveFrom_stop hordinary hvalue] at hresolve
        cases hresolve
        exact ⟨[], head, first, entries, cause, rfl, hordinary, rfl, hvalue, rfl⟩

private theorem get?_of_resolveFrom (hnames : (Dict.keys entries).Nodup)
    (hresolve : resolveFrom registry draws i entries params = (reached, none))
    (hname : hasOrdinary entries name = true) : ∃ v, Dict.get? name reached = some v := by
  obtain ⟨source, hmem, hordinary⟩ := hasOrdinary_iff.mp hname
  obtain ⟨before, after, rfl⟩ := List.append_of_mem hmem
  obtain ⟨seen, v, -, -, hafter⟩ := resolveFrom_split hordinary hresolve
  rw [Dict.keys, List.map_append, List.map_cons, List.nodup_middle] at hnames
  have hlater : name ∉ Dict.keys after := fun h =>
    (List.nodup_cons.mp hnames).1 (List.mem_append_right _ h)
  rw [get?_resolveFrom hafter (hasOrdinary_eq_false hlater)]
  exact ⟨_, Dict.get?_insert_self ..⟩

/-- What some entries leave is told by any bindings that keep the values of these entries. -/
theorem resolveFrom_eq_overlay {bound : Params} (hparams : Dict.Sorted params)
    (hbound : Dict.Sorted bound) (hnames : (Dict.keys entries).Nodup)
    (hresolve : resolveFrom registry draws i entries params = (reached, none))
    (hkept : ∀ name ∈ Dict.keys entries, Dict.get? name bound = Dict.get? name reached) :
    reached = params.overlay bound (hasOrdinary entries) := by
  refine Params.eq_overlay hparams hbound (sorted_resolveFrom hparams hresolve) (fun name hname => ?_)
    fun name hname => get?_resolveFrom hresolve hname
  obtain ⟨v, hv⟩ := get?_of_resolveFrom hnames hresolve hname
  exact ⟨v, hv, (hkept name (mem_keys_of_hasOrdinary hname)).trans hv⟩

/-- When all entries resolve, each ordinary one holds its value under the final bindings of those
    before it. -/
theorem exists_value_of_resolveFrom (hparams : Dict.Sorted params)
    (hnames : (Dict.keys (before ++ (name, source) :: after)).Nodup)
    (hordinary : isOrdinaryEntry name source = true)
    (hresolve : resolveFrom registry draws i (before ++ (name, source) :: after) params =
      (reached, none)) :
    ∃ v, registry.evaluate (params.overlay reached (hasOrdinary before))
        (draws.child (i + before.length)) source = .ok v ∧
      Dict.get? name reached = some (boundForm v) := by
  obtain ⟨seen, v, hbefore, hvalue, hafter⟩ := resolveFrom_split hordinary hresolve
  rw [Dict.keys, List.map_append, List.map_cons] at hnames
  obtain ⟨hnamesBefore, hnamesAfter, hdisjoint⟩ := List.nodup_append.mp hnames
  have hlater : name ∉ Dict.keys after := (List.nodup_cons.mp hnamesAfter).1
  have hseen : seen = params.overlay reached (hasOrdinary before) := by
    refine resolveFrom_eq_overlay hparams (sorted_resolveFrom hparams hresolve) hnamesBefore hbefore
      fun m hm => ?_
    have hne : m ≠ name := hdisjoint m hm name List.mem_cons_self
    have hm' : m ∉ Dict.keys after := fun h => hdisjoint m hm m (List.mem_cons_of_mem _ h) rfl
    rw [get?_resolveFrom hafter (hasOrdinary_eq_false hm'), Dict.get?_insert_of_ne hne]
  refine ⟨v, hseen ▸ hvalue, ?_⟩
  rw [get?_resolveFrom hafter (hasOrdinary_eq_false hlater), Dict.get?_insert_self]

/-- Entries resolve to the bindings of an overlay if each holds its value under the overlay by the
    entries before it. -/
theorem resolveFrom_of_values {bound : Params} (hparams : Dict.Sorted params)
    (hbound : Dict.Sorted bound)
    (hvalues : ∀ before name source after, entries = before ++ (name, source) :: after →
      isOrdinaryEntry name source = true →
        ∃ v, registry.evaluate (params.overlay bound (hasOrdinary before))
            (draws.child (i + before.length)) source = .ok v ∧
          Dict.get? name bound = some (boundForm v)) :
    resolveFrom registry draws i entries params =
      (params.overlay bound (hasOrdinary entries), none) := by
  induction entries using List.reverseRecOn with
  | nil =>
    rw [resolveFrom]
    exact congrArg (·, none) (Params.overlay_none params bound).symm
  | append_singleton entries entry ih =>
    obtain ⟨name, source⟩ := entry
    have hbefore := ih fun before n s after hsplit hordinary =>
      hvalues before n s (after ++ [(name, source)]) (by rw [hsplit]; simp) hordinary
    rw [resolveFrom_append hbefore, Option.isNone_none, if_pos rfl]
    cases hordinary : isOrdinaryEntry name source with
    | false =>
      have hsame : hasOrdinary (entries ++ [(name, source)]) = hasOrdinary entries := by
        funext m
        rw [hasOrdinary_append, hasOrdinary_singleton, hordinary, Bool.and_false, Bool.or_false]
      rw [resolveFrom_skip hordinary, hsame]
      rfl
    | true =>
      obtain ⟨v, hvalue, hv⟩ := hvalues entries name source [] rfl hordinary
      rw [resolveFrom_bind hordinary hvalue, resolveFrom]
      refine congrArg (·, none) (Params.overlay_insert hparams hbound hv fun m => ?_)
      rw [hasOrdinary_append, Bool.or_eq_true]
      rw [hasOrdinary_singleton, hordinary, Bool.and_true, beq_iff_eq]
      exact or_congr_right eq_comm

end ResolveFrom

end VulnProbe
