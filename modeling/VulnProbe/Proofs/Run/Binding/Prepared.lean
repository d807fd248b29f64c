import VulnProbe.Proofs.Dict
import VulnProbe.Run.Binding

namespace VulnProbe

/-- An entry asks for a callback exactly if its source is the one word for that, without blanks around
    it. -/
theorem asksCallback_iff {source : String} :
    asksCallback source = true ↔ source = Expr.newReverseSource := by
  rw [asksCallback, beq_iff_eq]

/-- The names of the entries differ. -/
def Poc.NamesOnce (poc : Poc) : Prop :=
  (Dict.keys poc.set).Nodup

/-- The entry of a name asks for a callback. -/
def Poc.AsksCallbackFor (poc : Poc) (name : String) : Prop :=
  (name, Expr.newReverseSource) ∈ poc.set

/-- Entries with one name are the same. -/
theorem Poc.NamesOnce.eq_of_name {poc : Poc} (hnames : poc.NamesOnce) {a b : String × String}
    (ha : a ∈ poc.set) (hb : b ∈ poc.set) (hname : a.1 = b.1) : a = b :=
  List.inj_on_of_nodup_map hnames ha hb hname

/-- An entry has one source. -/
theorem Poc.NamesOnce.source_unique {poc : Poc} (hnames : poc.NamesOnce) {name source source' : String}
    (hmem : (name, source) ∈ poc.set) (hmem' : (name, source') ∈ poc.set) : source = source' :=
  congrArg Prod.snd (hnames.eq_of_name hmem hmem' rfl)

/-- Sorting loses no entry and adds none. -/
theorem Poc.mem_sortedSet_iff {poc : Poc} (hnames : poc.NamesOnce) {name source : String} :
    (name, source) ∈ poc.sortedSet ↔ (name, source) ∈ poc.set :=
  Dict.mem_ofList_iff hnames

/-- The sorted entries are in the order of their names, each once. -/
theorem Poc.sorted_sortedSet (poc : Poc) : Dict.Sorted poc.sortedSet :=
  Dict.sorted_ofList poc.set

section Steps

variable {callbacks : Callbacks} {target : String} {params prepared : Params}

/-- What preparation does at an entry after which it goes on: it binds the next callback to the name of
    the entry, or the request to its own name, or nothing. -/
inductive PreparesEntry (callbacks : Callbacks) (target : String) (k : Nat) (params : Params) :
    String → String → Nat → Params → Prop where
  | callback {name source text : String} {u : Url} (hasks : asksCallback source = true)
      (htext : callbacks k = .ok text) (hurl : Url.parseTrimmed text = .ok u) :
      PreparesEntry callbacks target k params name source (k + 1) (params.insert name (.reverse u))
  | request {name source : String} {u : Url} (hasks : asksCallback source = false)
      (hreads : readsRequest source = true) (hfree : Dict.get? requestName params = none)
      (hurl : Url.parseTrimmed target = .ok u) :
      PreparesEntry callbacks target k params name source k (params.insert requestName (.request u))
  | nothing {name source : String} (hasks : asksCallback source = false)
      (hbound : readsRequest source = true → ∃ v, Dict.get? requestName params = some v) :
      PreparesEntry callbacks target k params name source k params

private theorem bindCallback_eq_ok {k : Nat} {name : String}
    (hbind : bindCallback callbacks k name params = .ok prepared) :
    ∃ text u, callbacks k = .ok text ∧ Url.parseTrimmed text = .ok u ∧
      prepared = params.insert name (.reverse u) := by
  rw [bindCallback] at hbind
  cases hcallback : callbacks k with
  | error issue => simp only [hcallback, reduceCtorEq] at hbind
  | ok text =>
    cases hurl : Url.parseTrimmed text with
    | error issue => simp only [hcallback, hurl, reduceCtorEq] at hbind
    | ok u =>
      simp only [hcallback, hurl, Except.ok.injEq] at hbind
      exact ⟨text, u, rfl, hurl, hbind.symm⟩

/-- The request is bound unless its name is. -/
theorem bindRequest_eq_ok (hbind : bindRequest target params = .ok prepared) :
    (prepared = params ∧ ∃ v, Dict.get? requestName params = some v) ∨
      Dict.get? requestName params = none ∧
        ∃ u, Url.parseTrimmed target = .ok u ∧ prepared = params.insert requestName (.request u) := by
  rw [bindRequest] at hbind
  by_cases hbound : params.contains requestName = true
  · rw [if_pos hbound, Except.ok.injEq] at hbind
    rw [Dict.contains, Option.isSome_iff_exists] at hbound
    exact .inl ⟨hbind.symm, hbound⟩
  · rw [if_neg hbound] at hbind
    cases hurl : Url.parseTrimmed target with
    | error issue => simp only [hurl, reduceCtorEq] at hbind
    | ok u =>
      simp only [hurl, Except.ok.injEq] at hbind
      rw [Dict.contains, Option.isSome_iff_ne_none, not_not] at hbound
      exact .inr ⟨hbound, u, rfl, hbind.symm⟩

/-- Preparation of an entry and of those after it, when it succeeds. -/
theorem prepareFrom_cons_eq_ok {name source : String} {entries : List (String × String)} {k k' : Nat}
    (hprepare : prepareFrom callbacks target ((name, source) :: entries) k params =
      (.ok prepared, k')) :
    ∃ next l, PreparesEntry callbacks target k params name source l next ∧
      prepareFrom callbacks target entries l next = (.ok prepared, k') := by
  rw [prepareFrom] at hprepare
  cases hasks : asksCallback source with
  | true =>
    rw [hasks, if_pos rfl] at hprepare
    cases hbind : bindCallback callbacks k name params with
    | error f => simp only [hbind, Prod.mk.injEq, reduceCtorEq, false_and] at hprepare
    | ok next =>
      simp only [hbind] at hprepare
      obtain ⟨text, u, htext, hurl, rfl⟩ := bindCallback_eq_ok hbind
      exact ⟨_, k + 1, .callback hasks htext hurl, hprepare⟩
  | false =>
    rw [hasks, if_neg Bool.false_ne_true] at hprepare
    by_cases hreads : readsRequest source = true
    · rw [if_pos hreads] at hprepare
      cases hbind : bindRequest target params with
      | error f => simp only [hbind, Prod.mk.injEq, reduceCtorEq, false_and] at hprepare
      | ok next =>
        simp only [hbind] at hprepare
        obtain ⟨rfl, hbound⟩ | ⟨hfree, u, hurl, rfl⟩ := bindRequest_eq_ok hbind
        · exact ⟨_, k, .nothing hasks fun _ => hbound, hprepare⟩
        · exact ⟨_, k, .request hasks hreads hfree hurl, hprepare⟩
    · rw [if_neg hreads] at hprepare
      exact ⟨params, k, .nothing hasks fun h => absurd h hreads, hprepare⟩

private theorem sorted_prepareFrom {entries : List (String × String)} {k k' : Nat}
    (hparams : Dict.Sorted params)
    (hprepare : prepareFrom callbacks target entries k params = (.ok prepared, k')) :
    Dict.Sorted prepared := by
  induction entries generalizing params k with
  | nil =>
    cases hprepare
    exact hparams
  | cons entry entries ih =>
    obtain ⟨next, l, hentry, hrest⟩ := prepareFrom_cons_eq_ok hprepare
    refine ih ?_ hrest
    cases hentry with
    | callback => exact Dict.sorted_insert _ _ hparams
    | request => exact Dict.sorted_insert _ _ hparams
    | nothing => exact hparams

/-- A name whose entry asks for a callback ends bound to one, whatever it was bound to before; any
    other name keeps what it was bound to, save that the request may come to be bound. -/
theorem get?_prepareFrom {entries : List (String × String)} {k k' : Nat}
    (hnames : (Dict.keys entries).Nodup)
    (hprepare : prepareFrom callbacks target entries k params = (.ok prepared, k')) (name : String) :
    ((name, Expr.newReverseSource) ∈ entries ∧ ∃ u, Dict.get? name prepared = some (.reverse u)) ∨
      ((name, Expr.newReverseSource) ∉ entries ∧
        (Dict.get? name prepared = Dict.get? name params ∨
          name = requestName ∧ Dict.get? name params = none ∧
            ∃ u, Dict.get? name prepared = some (.request u))) := by
  induction entries generalizing params k with
  | nil =>
    cases hprepare
    exact .inr ⟨List.not_mem_nil, .inl rfl⟩
  | cons entry entries ih =>
    obtain ⟨head, source⟩ := entry
    obtain ⟨hfresh, hnames⟩ := List.nodup_cons.mp hnames
    obtain ⟨next, l, hentry, hrest⟩ := prepareFrom_cons_eq_ok hprepare
    obtain ⟨hmem, u, hu⟩ | ⟨hmem, hkept⟩ := ih hnames hrest
    · exact .inl ⟨List.mem_cons_of_mem _ hmem, u, hu⟩
    have hnot (hasks : asksCallback source = false) :
        (name, Expr.newReverseSource) ∉ (head, source) :: entries := by
      intro hmem'
      rcases List.mem_cons.mp hmem' with heq | hmem'
      · rw [asksCallback_iff.mpr (congrArg Prod.snd heq).symm] at hasks
        cases hasks
      · exact hmem hmem'
    cases hentry with
    | @callback text u hasks htext hurl =>
      rw [asksCallback_iff] at hasks
      by_cases hname : name = head
      · rw [hname, Dict.get?_insert_self] at hkept
        rcases hkept with hkept | ⟨-, hnone, -⟩
        · exact .inl ⟨hname ▸ hasks ▸ List.mem_cons_self, u, hname ▸ hkept⟩
        · cases hnone
      · rw [Dict.get?_insert_of_ne hname] at hkept
        refine .inr ⟨fun hmem' => ?_, hkept⟩
        rcases List.mem_cons.mp hmem' with heq | hmem'
        · exact hname (congrArg Prod.fst heq)
        · exact hmem hmem'
    | @request u hasks hreads hfree hurl =>
      refine .inr ⟨hnot hasks, ?_⟩
      by_cases hname : name = requestName
      · rw [hname, Dict.get?_insert_self] at hkept
        rcases hkept with hkept | ⟨-, hnone, -⟩
        · exact .inr ⟨hname, hname ▸ hfree, u, hname ▸ hkept⟩
        · cases hnone
      · rw [Dict.get?_insert_of_ne hname] at hkept
        exact hkept
    | nothing hasks => exact .inr ⟨hnot hasks, hkept⟩

end Steps

namespace Poc

variable {poc : Poc} {callbacks : Callbacks} {target : String} {k k' : Nat} {prepared : Params}

/-- The prepared bindings are in order. -/
theorem sorted_prepare (hprepare : poc.prepare callbacks k target = (.ok prepared, k')) :
    Dict.Sorted prepared :=
  sorted_prepareFrom Dict.sorted_nil hprepare

/-- Preparation binds the names whose entries ask for a callback, and otherwise at most the request. -/
theorem get?_prepare (hnames : poc.NamesOnce)
    (hprepare : poc.prepare callbacks k target = (.ok prepared, k')) (name : String) :
    (poc.AsksCallbackFor name ∧ ∃ u, Dict.get? name prepared = some (.reverse u)) ∨
      (¬ poc.AsksCallbackFor name ∧ (Dict.get? name prepared = none ∨
        name = requestName ∧ ∃ u, Dict.get? name prepared = some (.request u))) := by
  have hsorted := (poc.sorted_sortedSet).nodup
  rw [AsksCallbackFor, ← mem_sortedSet_iff hnames]
  rcases get?_prepareFrom hsorted hprepare name with hcallback | ⟨hnot, hkept | ⟨hname, -, hrequest⟩⟩
  · exact .inl hcallback
  · exact .inr ⟨hnot, .inl hkept⟩
  · exact .inr ⟨hnot, .inr ⟨hname, hrequest⟩⟩

end Poc

end VulnProbe
