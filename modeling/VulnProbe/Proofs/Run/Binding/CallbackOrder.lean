import VulnProbe.Proofs.Run.Binding.Resolution

namespace VulnProbe

/-- The names of the entries that ask for a callback, in the order of the entries. -/
def callbackNames (entries : List (String × String)) : List String :=
  Dict.keys (entries.filter fun entry => asksCallback entry.2)

section Entries

variable {callbacks : Callbacks} {target : String} {k k' : Nat} {params prepared : Params}
  {entries : List (String × String)} {name source : String}

private theorem callbackNames_cons_of_asks (hasks : asksCallback source = true) :
    callbackNames ((name, source) :: entries) = name :: callbackNames entries := by
  have hfilter : ((name, source) :: entries).filter (fun entry => asksCallback entry.2) =
      (name, source) :: entries.filter fun entry => asksCallback entry.2 :=
    List.filter_cons_of_pos hasks
  rw [callbackNames, hfilter]
  rfl

private theorem callbackNames_cons_of_not (hasks : asksCallback source = false) :
    callbackNames ((name, source) :: entries) = callbackNames entries := by
  rw [callbackNames, List.filter_cons_of_neg (by simp [hasks])]
  rfl

private theorem mem_callbackNames_iff :
    name ∈ callbackNames entries ↔ (name, Expr.newReverseSource) ∈ entries := by
  simp only [callbackNames, Dict.keys, List.mem_map, List.mem_filter, asksCallback_iff, Prod.exists]
  constructor
  · rintro ⟨_, _, ⟨hmem, rfl⟩, rfl⟩
    exact hmem
  · intro hmem
    exact ⟨name, _, ⟨hmem, rfl⟩, rfl⟩

private theorem readsRequest_of_asksCallback (hasks : asksCallback source = true) :
    readsRequest source = false := by
  rw [asksCallback_iff.mp hasks]
  decide

/-- As many callbacks are handed out as entries ask for one. -/
theorem count_of_prepareFrom
    (hprepare : prepareFrom callbacks target entries k params = (.ok prepared, k')) :
    k' = k + (callbackNames entries).length := by
  induction entries generalizing k params with
  | nil =>
    cases hprepare
    rfl
  | cons entry entries ih =>
    obtain ⟨name, source⟩ := entry
    obtain ⟨next, l, hentry, hrest⟩ := prepareFrom_cons_eq_ok hprepare
    have hcount := ih hrest
    cases hentry with
    | callback hasks =>
      rw [callbackNames_cons_of_asks hasks, List.length_cons]
      omega
    | request hasks =>
      rw [callbackNames_cons_of_not hasks]
      exact hcount
    | nothing hasks =>
      rw [callbackNames_cons_of_not hasks]
      exact hcount

/-- What a name is bound to stays, unless its entry asks for a callback. -/
theorem get?_prepareFrom_of_bound (hnames : (Dict.keys entries).Nodup)
    (hprepare : prepareFrom callbacks target entries k params = (.ok prepared, k'))
    (hasks : (name, Expr.newReverseSource) ∉ entries) {v : Value}
    (hv : Dict.get? name params = some v) : Dict.get? name prepared = some v := by
  obtain ⟨hmem, -⟩ | ⟨-, hkept | ⟨-, hnone, -⟩⟩ := get?_prepareFrom hnames hprepare name
  · exact absurd hmem hasks
  · exact hkept.trans hv
  · rw [hv] at hnone
    cases hnone

/-- The names of the entries that ask for a callback are bound to those handed out, each to the next. -/
theorem get?_callback_of_prepareFrom (hnames : (Dict.keys entries).Nodup)
    (hprepare : prepareFrom callbacks target entries k params = (.ok prepared, k')) {j : Nat}
    (hj : (callbackNames entries)[j]? = some name) :
    ∃ text u, callbacks (k + j) = .ok text ∧ Url.parseTrimmed text = .ok u ∧
      Dict.get? name prepared = some (.reverse u) := by
  induction entries generalizing k params j with
  | nil => cases hj
  | cons entry entries ih =>
    obtain ⟨head, source⟩ := entry
    obtain ⟨hfresh, hnames⟩ := List.nodup_cons.mp hnames
    obtain ⟨next, l, hentry, hrest⟩ := prepareFrom_cons_eq_ok hprepare
    cases hentry with
    | @callback text u hasks htext hurl =>
      rw [callbackNames_cons_of_asks hasks] at hj
      cases j with
      | zero =>
        obtain rfl : head = name := Option.some.inj hj
        refine ⟨text, u, htext, hurl, ?_⟩
        apply get?_prepareFrom_of_bound hnames hrest
        · exact fun hmem => hfresh (List.mem_map.mpr ⟨_, hmem, rfl⟩)
        · exact Dict.get?_insert_self ..
      | succ j =>
        have hnext : k + 1 + j = k + (j + 1) := by omega
        have hlater := ih hnames hrest hj
        rwa [hnext] at hlater
    | request hasks =>
      rw [callbackNames_cons_of_not hasks] at hj
      exact ih hnames hrest hj
    | nothing hasks =>
      rw [callbackNames_cons_of_not hasks] at hj
      exact ih hnames hrest hj

/-- The name of the request comes to be bound, to the request to the target, exactly if an entry reads
    from it. -/
theorem get?_request_of_prepareFrom (hnames : (Dict.keys entries).Nodup)
    (hprepare : prepareFrom callbacks target entries k params = (.ok prepared, k'))
    (hasks : (requestName, Expr.newReverseSource) ∉ entries)
    (hfree : Dict.get? requestName params = none) :
    ((∃ entry ∈ entries, readsRequest entry.2 = true) ∧
        ∃ u, Url.parseTrimmed target = .ok u ∧ Dict.get? requestName prepared = some (.request u)) ∨
      (∀ entry ∈ entries, readsRequest entry.2 = false) ∧ Dict.get? requestName prepared = none := by
  induction entries generalizing k params with
  | nil =>
    cases hprepare
    exact .inr ⟨List.forall_mem_nil _, hfree⟩
  | cons entry entries ih =>
    obtain ⟨head, source⟩ := entry
    obtain ⟨hfresh, hnames⟩ := List.nodup_cons.mp hnames
    obtain ⟨next, l, hentry, hrest⟩ := prepareFrom_cons_eq_ok hprepare
    rw [List.mem_cons, not_or] at hasks
    obtain ⟨hhead, hasks⟩ := hasks
    rw [List.exists_mem_cons_iff, List.forall_mem_cons]
    cases hentry with
    | @callback text u hcallback =>
      have hne : requestName ≠ head := by
        rintro rfl
        exact hhead (congrArg (Prod.mk requestName) (asksCallback_iff.mp hcallback).symm)
      have hreads := readsRequest_of_asksCallback hcallback
      simp only [hreads, Bool.false_eq_true, false_or, true_and]
      apply ih hnames hrest hasks
      rw [Dict.get?_insert_of_ne hne, hfree]
    | @request u _ hreads _ hurl =>
      refine .inl ⟨.inl hreads, u, hurl, get?_prepareFrom_of_bound hnames hrest hasks ?_⟩
      exact Dict.get?_insert_self ..
    | nothing _ hbound =>
      have hreads : readsRequest source = false := by
        rw [Bool.eq_false_iff]
        intro hreads
        obtain ⟨v, hv⟩ := hbound hreads
        rw [hfree] at hv
        cases hv
      simp only [hreads, Bool.false_eq_true, false_or, true_and]
      exact ih hnames hrest hasks hfree

end Entries

namespace Poc

/-- The names of the entries that ask for a callback, in the order of the names. -/
def callbackNames (poc : Poc) : List String :=
  VulnProbe.callbackNames poc.sortedSet

/-- What preparation binds, with the callbacks handed out in order, and what resolution leaves of it. -/
structure AllocatesInOrder (poc : Poc) (callbacks : Callbacks) (k : Nat) (target : String)
    (prepared : Params) (k' : Nat) : Prop where
  /-- The entries that ask for a callback, in the order of the bytes of their names. -/
  ordered : poc.callbackNames.Pairwise (fun m n => Utf8.ofString m < Utf8.ofString n) ∧
    ∀ name, name ∈ poc.callbackNames ↔ poc.AsksCallbackFor name
  /-- One callback is handed out for each of them. -/
  count : k' = k + poc.callbackNames.length
  /-- Each of them is bound to the next callback. -/
  callback : ∀ j name, poc.callbackNames[j]? = some name →
    ∃ text u, callbacks (k + j) = .ok text ∧ Url.parseTrimmed text = .ok u ∧
      Dict.get? name prepared = some (.reverse u)
  /-- The request to the target is bound if an entry reads from it, unless its name is that of an entry
      that asks for a callback. -/
  request : (∃ entry ∈ poc.set, readsRequest entry.2 = true) → ¬ poc.AsksCallbackFor requestName →
    ∃ u, Url.parseTrimmed target = .ok u ∧ Dict.get? requestName prepared = some (.request u)
  /-- No other name is bound. -/
  nothing_else : ∀ name v, Dict.get? name prepared = some v →
    poc.AsksCallbackFor name ∨
      name = requestName ∧ ∃ entry ∈ poc.set, readsRequest entry.2 = true
  /-- Resolution leaves the callbacks alone, whether it fails or not. -/
  kept : ∀ name, poc.AsksCallbackFor name → ∀ registry draws,
    Dict.get? name (poc.resolve registry draws prepared).1 = Dict.get? name prepared

variable {poc : Poc} {callbacks : Callbacks} {target : String} {k k' : Nat} {prepared : Params}
  {name : String}

private theorem mem_callbackNames_iff (hnames : poc.NamesOnce) :
    name ∈ poc.callbackNames ↔ poc.AsksCallbackFor name := by
  rw [callbackNames, VulnProbe.mem_callbackNames_iff, mem_sortedSet_iff hnames]
  rfl

private theorem pairwise_callbackNames (poc : Poc) :
    poc.callbackNames.Pairwise fun m n => Utf8.ofString m < Utf8.ofString n := by
  have hsorted : Dict.Sorted (poc.sortedSet.filter fun entry => asksCallback entry.2) :=
    poc.sorted_sortedSet.filter _
  exact hsorted.imp Utf8.ofString_lt_ofString_iff.mpr

/-- Whenever preparation succeeds, it has handed out one callback for each entry that asks for one, in the
    order of the names, has bound nothing else but the request, and resolution leaves the callbacks alone. -/
theorem allocatesInOrder_of_prepare (poc : Poc) (callbacks : Callbacks) (k : Nat) (target : String)
    (prepared : Params) (k' : Nat) (hnames : poc.NamesOnce)
    (hprepare : poc.prepare callbacks k target = (.ok prepared, k')) :
    poc.AllocatesInOrder callbacks k target prepared k' := by
  have hsorted := poc.sorted_sortedSet.nodup
  have hmem {entry : String × String} : entry ∈ poc.sortedSet ↔ entry ∈ poc.set :=
    mem_sortedSet_iff hnames
  have hrequest (hasks : ¬ poc.AsksCallbackFor requestName) := by
    apply get?_request_of_prepareFrom hsorted hprepare
    · exact mt hmem.mp hasks
    · rfl
  constructor
  case ordered => exact ⟨poc.pairwise_callbackNames, fun _ => mem_callbackNames_iff hnames⟩
  case count => exact count_of_prepareFrom hprepare
  case callback =>
    intro j name hj
    exact get?_callback_of_prepareFrom hsorted hprepare hj
  case request =>
    rintro ⟨entry, hentry, hreads⟩ hasks
    obtain ⟨-, hbound⟩ | ⟨hnone, -⟩ := hrequest hasks
    · exact hbound
    · rw [hnone entry (hmem.mpr hentry)] at hreads
      cases hreads
  case nothing_else =>
    intro name v hv
    obtain ⟨hasks, -⟩ | ⟨hasks, hnone | ⟨rfl, -⟩⟩ := get?_prepare hnames hprepare name
    · exact .inl hasks
    · rw [hv] at hnone
      cases hnone
    · obtain ⟨⟨entry, hentry, hreads⟩, -⟩ | ⟨-, hfree⟩ := hrequest hasks
      · exact .inr ⟨rfl, entry, hmem.mp hentry, hreads⟩
      · rw [hv] at hfree
        cases hfree
  case kept =>
    intro name hasks registry draws
    exact get?_resolve_of_not_evaluates hnames (sorted_prepare hprepare) registry draws
      (evaluates_eq_false_of_asksCallback hnames hasks)

/-- Callbacks in the order of the names, one of them in place of the request that an entry before it reads
    from, and an entry that has no value. -/
theorem allocatesInOrder_of_prepare_sample :
    let poc : Poc :=
      { name := "sample"
        set := [("z", "newReverse()"), ("request", "newReverse()"), ("b", "request.url"),
          ("payload", "newReverse()"), ("c", "nope(")]
        rules := []
        detail := none }
    let url (path : String) : Url :=
      { scheme := "http", username := "", password := none
        host := some (.ipv6 [0, 0, 0, 0, 0, 0, 0, 1])
        port := none, path := path, query := none, fragment := none }
    let callbacks := Callbacks.ofList ["http://[::1]/1", "http://[::1]/2", "http://[::1]/3"]
    let prepared : Params :=
      [("payload", .reverse (url "/1")), ("request", .reverse (url "/2")), ("z", .reverse (url "/3"))]
    poc.NamesOnce ∧ poc.prepare callbacks 0 "http://[::1]" = (.ok prepared, 3) ∧
      poc.callbackNames = ["payload", "request", "z"] ∧
      poc.AllocatesInOrder callbacks 0 "http://[::1]" prepared 3 := by
  intro poc url callbacks prepared
  have hnames : poc.NamesOnce := by
    rw [NamesOnce]
    decide
  have hprepare : poc.prepare callbacks 0 "http://[::1]" = (.ok prepared, 3) := rfl
  exact ⟨hnames, hprepare, by decide,
    allocatesInOrder_of_prepare poc callbacks 0 "http://[::1]" prepared 3 hnames hprepare⟩

end Poc

end VulnProbe
