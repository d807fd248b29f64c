import VulnProbe.Proofs.Run.StaticAgreement

namespace VulnProbe

/-- An entry that neither asks for a callback nor reads from the request does not count for preparation. -/
theorem prepareFrom_append_cons {callbacks : Callbacks} {target : String}
    {before after : List (String × String)} {name source : String}
    (hasks : asksCallback source = false) (hreads : readsRequest source = false) (k : Nat)
    (params : Params) :
    prepareFrom callbacks target (before ++ (name, source) :: after) k params =
      prepareFrom callbacks target (before ++ after) k params := by
  induction before generalizing k params with
  | nil => simp only [List.nil_append, prepareFrom, hasks, hreads, Bool.false_eq_true, if_false]
  | cons entry before ih => simp only [List.cons_append, prepareFrom, ih]

section ResolveFrom

variable {registry registry' : Registry} {draws : Expr.Draws} {i : Nat} {params seen seen' : Params}
  {entries : List (String × String)}

/-- Entries that all resolve under two registries leave the same bindings. -/
theorem resolveFrom_unique (hseen : resolveFrom registry draws i entries params = (seen, none))
    (hseen' : resolveFrom registry' draws i entries params = (seen', none)) : seen = seen' := by
  induction entries generalizing i params with
  | nil =>
    cases hseen
    cases hseen'
    rfl
  | cons entry entries ih =>
    obtain ⟨name, source⟩ := entry
    cases hordinary : isOrdinaryEntry name source with
    | false =>
      rw [resolveFrom_skip hordinary] at hseen hseen'
      exact ih hseen hseen'
    | true =>
      obtain ⟨v, hv, hrest⟩ := resolveFrom_cons_eq_ok hordinary hseen
      obtain ⟨w, hw, hrest'⟩ := resolveFrom_cons_eq_ok hordinary hseen'
      rw [Registry.evaluate_unique hv hw] at hrest
      exact ih hrest hrest'

/-- Entries resolve alike under registries that evaluate them alike. -/
theorem resolveFrom_congr
    (hsame : ∀ name source, (name, source) ∈ entries → isOrdinaryEntry name source = true →
      ∀ params draws, registry.evaluate params draws source = registry'.evaluate params draws source) :
    resolveFrom registry draws i entries params = resolveFrom registry' draws i entries params := by
  induction entries generalizing i params with
  | nil => rfl
  | cons entry entries ih =>
    obtain ⟨name, source⟩ := entry
    have hrest {j : Nat} {next : Params} :=
      @ih j next fun m s hmem => hsame m s (List.mem_cons_of_mem _ hmem)
    cases hordinary : isOrdinaryEntry name source with
    | false => rw [resolveFrom_skip hordinary, resolveFrom_skip hordinary, hrest]
    | true =>
      have hhead := hsame name source List.mem_cons_self hordinary params (draws.child i)
      cases hvalue : registry.evaluate params (draws.child i) source with
      | error cause =>
        rw [resolveFrom_stop hordinary hvalue, resolveFrom_stop hordinary (hhead.symm.trans hvalue)]
      | ok v =>
        rw [resolveFrom_bind hordinary hvalue, resolveFrom_bind hordinary (hhead.symm.trans hvalue),
          hrest]

end ResolveFrom

namespace Poc

section Changes

/-- Two definitions have the same entries, but for the source of one, and this one neither asks for a
    callback nor reads from the request in either. -/
structure ChangesEntry (poc other : Poc) (changed s s' : String) : Prop where
  mem : (changed, s) ∈ poc.set
  mem' : (changed, s') ∈ other.set
  others : ∀ name source, name ≠ changed → ((name, source) ∈ poc.set ↔ (name, source) ∈ other.set)
  idle : asksCallback s = false ∧ readsRequest s = false
  idle' : asksCallback s' = false ∧ readsRequest s' = false

/-- A definition comes to be resolved: its entries are declared and prepared. -/
def ReachesResolution (poc : Poc) (callbacks : Callbacks) (k : Nat) (target : String)
    (registry : Registry) (prepared : Params) (k' : Nat) : Prop :=
  ∃ declared, Registry.ofPoc poc = .ok declared ∧
    poc.prepare callbacks k target = (.ok prepared, k') ∧
    declared.declareValues prepared = .ok registry

variable {poc other : Poc} {callbacks : Callbacks} {k k' l : Nat} {target changed s s' : String}
  {registry registry' : Registry} {draws : Expr.Draws} {prepared prepared' : Params}
  {name source : String} {w : Value} {before after : List (String × String)}

/-- A change of one entry can be taken back by another one. -/
theorem ChangesEntry.symm (hchanges : poc.ChangesEntry other changed s s') :
    other.ChangesEntry poc changed s' s where
  mem := hchanges.mem'
  mem' := hchanges.mem
  others := fun name source hname => (hchanges.others name source hname).symm
  idle := hchanges.idle'
  idle' := hchanges.idle

/-- The sorted entries are those of a definition that differs at one name, with the entry of this name
    replaced. -/
theorem sortedSet_eq_insert (hnames : poc.NamesOnce) (hnames' : other.NamesOnce)
    (hmem : (changed, s') ∈ other.set)
    (hothers : ∀ name source, name ≠ changed → ((name, source) ∈ poc.set ↔ (name, source) ∈ other.set)) :
    other.sortedSet = Dict.insert changed s' poc.sortedSet := by
  apply Dict.ext other.sorted_sortedSet (Dict.sorted_insert _ _ poc.sorted_sortedSet)
  intro name
  rw [Dict.get?_insert]
  by_cases hname : name = changed
  · rw [if_pos hname, hname, Dict.get?_eq_some_iff other.sorted_sortedSet.nodup, mem_sortedSet_iff hnames']
    exact hmem
  · rw [if_neg hname]
    apply Option.ext
    intro source
    rw [Dict.get?_eq_some_iff other.sorted_sortedSet.nodup, Dict.get?_eq_some_iff
      poc.sorted_sortedSet.nodup, mem_sortedSet_iff hnames, mem_sortedSet_iff hnames',
      hothers name source hname]

/-- The entries before the changed one are the same, and so are those after it. -/
theorem ChangesEntry.exists_split (hchanges : poc.ChangesEntry other changed s s')
    (hnames : poc.NamesOnce) (hnames' : other.NamesOnce) :
    ∃ before after, poc.sortedSet = before ++ (changed, s) :: after ∧
      other.sortedSet = before ++ (changed, s') :: after := by
  have hsame := sortedSet_eq_insert hnames hnames hchanges.mem fun _ _ _ => Iff.rfl
  have hother := sortedSet_eq_insert hnames hnames' hchanges.mem' hchanges.others
  rw [Dict.insert_eq_append poc.sorted_sortedSet] at hsame hother
  exact ⟨_, _, hsame, hother⟩

private theorem ChangesEntry.prepare_eq (hchanges : poc.ChangesEntry other changed s s')
    (hnames : poc.NamesOnce) (hnames' : other.NamesOnce) (callbacks : Callbacks) (k : Nat)
    (target : String) : poc.prepare callbacks k target = other.prepare callbacks k target := by
  obtain ⟨before, after, hsplit, hsplit'⟩ := hchanges.exists_split hnames hnames'
  obtain ⟨hasks, hreads⟩ := hchanges.idle
  obtain ⟨hasks', hreads'⟩ := hchanges.idle'
  rw [prepare, prepare, hsplit, hsplit', prepareFrom_append_cons hasks hreads,
    prepareFrom_append_cons hasks' hreads']

/-- A name stands at one place among the sorted entries. -/
theorem split_unique {before' after' : List (String × String)} {source' : String}
    (hsplit : poc.sortedSet = before ++ (name, source) :: after)
    (hsplit' : poc.sortedSet = before' ++ (name, source') :: after') :
    before = before' ∧ source = source' := by
  obtain ⟨hbefore, hafter⟩ := keys_of_split hsplit
  have hfresh {entries : List (String × String)} (hentries : name ∉ Dict.keys entries) :
      (name, source') ∉ entries :=
    fun hmem => hentries (List.mem_map.mpr ⟨_, hmem, rfl⟩)
  obtain ⟨hsame, hentry, -⟩ := (List.append_cons_inj_of_notMem
    (hfresh fun hmem => lt_irrefl name (hbefore name hmem))
    (hfresh fun hmem => lt_irrefl name (hafter name hmem))).mp (hsplit.symm.trans hsplit')
  exact ⟨hsame, congrArg Prod.snd hentry⟩

/-- An entry before the changed one has the same entries before it. -/
theorem ChangesEntry.split (hchanges : poc.ChangesEntry other changed s s')
    (hnames : poc.NamesOnce) (hnames' : other.NamesOnce)
    (hsplit : poc.sortedSet = before ++ (name, source) :: after) (hlt : name < changed) :
    ∃ after', other.sortedSet = before ++ (name, source) :: after' := by
  obtain ⟨front, back, hfront, hfront'⟩ := hchanges.exists_split hnames hnames'
  have hmem : (name, source) ∈ poc.sortedSet := by
    rw [hsplit]
    exact List.mem_append_right _ List.mem_cons_self
  rw [hfront, List.mem_append, List.mem_cons] at hmem
  obtain hmem | heq | hmem := hmem
  · obtain ⟨start, middle, rfl⟩ := List.append_of_mem hmem
    rw [List.append_assoc, List.cons_append] at hfront hfront'
    obtain ⟨rfl, -⟩ := split_unique hsplit hfront
    exact ⟨_, hfront'⟩
  · exact absurd (congrArg Prod.fst heq) (ne_of_lt hlt)
  · exact absurd hlt (lt_asymm ((keys_of_split hfront).2 name (List.mem_map.mpr ⟨_, hmem, rfl⟩)))

/-- Entries before the one whose source is changed are bound to the same values, wherever they are bound in
    both runs, and keep them to the end, whatever the runs come to. -/
theorem bindsTo_unique_of_changesEntry (poc other : Poc) (callbacks : Callbacks) (k : Nat)
    (target : String) (draws : Expr.Draws) (changed s s' : String) (registry registry' : Registry)
    (prepared prepared' : Params) (k' l' : Nat) (hnames : poc.NamesOnce) (hnames' : other.NamesOnce)
    (hchanges : poc.ChangesEntry other changed s s') (hpayload : changed ≠ payloadName)
    (hruns : poc.ReachesResolution callbacks k target registry prepared k')
    (hruns' : other.ReachesResolution callbacks k target registry' prepared' l') (name : String)
    (hbefore : ComesBefore name changed) (w w' : Value)
    (hbinds : poc.BindsTo registry draws prepared name w)
    (hbinds' : other.BindsTo registry' draws prepared' name w') :
    w = w' ∧ Dict.get? name (poc.resolve registry draws prepared).1 = some w ∧
      Dict.get? name (other.resolve registry' draws prepared').1 = some w := by
  have hsame : w = w' := by
    obtain ⟨declared, -, hprepare, -⟩ := hruns
    obtain ⟨declared', -, hprepare', -⟩ := hruns'
    obtain ⟨hname, hlt⟩ := hbefore
    have hlt := Utf8.ofString_lt_ofString_iff.mp (hlt.resolve_left hpayload)
    obtain ⟨source, seen, ownDraws, v, hcomes, hvalue, hform⟩ := hbinds
    obtain ⟨source', seen', ownDraws', v', hcomes', hvalue', hform'⟩ := hbinds'
    obtain ⟨front, back, hsplit, -, hfront, rfl⟩ := hcomes.of_ne hname
    obtain ⟨front', back', hsplit', -, hfront', rfl⟩ := hcomes'.of_ne hname
    obtain ⟨rest, hother⟩ := hchanges.split hnames hnames' hsplit hlt
    obtain ⟨rfl, rfl⟩ := split_unique hother hsplit'
    rw [hchanges.prepare_eq hnames hnames', hprepare'] at hprepare
    cases hprepare
    obtain rfl := resolveFrom_unique hfront hfront'
    rw [(boundAs_iff hname).mp hform, (boundAs_iff hname).mp hform',
      Registry.evaluate_unique hvalue hvalue']
  exact ⟨hsame, hbinds.get?_resolve, hsame ▸ hbinds'.get?_resolve⟩

/-- A later entry that is a number in one definition and a text in the other. -/
theorem bindsTo_unique_of_changesEntry_sample :
    let poc : Poc :=
      { name := "sample", set := [("k", "1"), ("a", "true || k == 1")], rules := [], detail := none }
    let other : Poc := { poc with set := [("a", "true || k == 1"), ("k", "\"x\"")] }
    let registry : Registry :=
      [("a", .string), ("k", .int), ("request", .request), ("response", .response)]
    let registry' : Registry :=
      [("a", .string), ("k", .string), ("request", .request), ("response", .response)]
    let callbacks : Callbacks := fun _ => .error .notConfigured
    let draws : Expr.Draws := .ofSeed 0
    poc.NamesOnce ∧ other.NamesOnce ∧ poc.ChangesEntry other "k" "1" "\"x\"" ∧
      poc.ReachesResolution callbacks 0 "http://t" registry [] 0 ∧
      other.ReachesResolution callbacks 0 "http://t" registry' [] 0 ∧
      poc.BindsTo registry draws [] "a" (.bool true) ∧
      other.BindsTo registry' draws [] "a" (.bool true) ∧
      Dict.get? "a" (poc.resolve registry draws []).1 = some (.bool true) ∧
      Dict.get? "a" (other.resolve registry' draws []).1 = some (.bool true) := by
  intro poc other registry registry' callbacks draws
  have hnames : poc.NamesOnce := by
    rw [NamesOnce]
    decide
  have hnames' : other.NamesOnce := by
    rw [NamesOnce]
    decide
  have hchanges : poc.ChangesEntry other "k" "1" "\"x\"" := by
    constructor
    case others =>
      intro name source hname
      simp [poc, other, hname]
    all_goals decide
  have htokens : Expr.tokenize "true || k == 1" =
      .ok [⟨.ident "true", 0⟩, ⟨.orOr, 5⟩, ⟨.ident "k", 8⟩, ⟨.eqEq, 10⟩, ⟨.int 1, 13⟩,
        ⟨.endOfInput, 14⟩] := by
    with_unfolding_all decide
  have hruns : poc.ReachesResolution callbacks 0 "http://t" registry [] 0 :=
    ⟨registry, by decide, rfl, rfl⟩
  have hruns' : other.ReachesResolution callbacks 0 "http://t" registry' [] 0 :=
    ⟨registry', by decide, rfl, rfl⟩
  have hvalue : registry.evaluate [] ((draws.child 0).child 0) "true || k == 1" = .ok (.bool true) := by
    rw [Registry.evaluate, Registry.compile, Expr.parse, htokens]
    rfl
  have hvalue' : registry'.evaluate [] ((draws.child 0).child 0) "true || k == 1" = .ok (.bool true) := by
    rw [Registry.evaluate, Registry.compile, Expr.parse, htokens]
    rfl
  have hsplit : poc.sortedSet = [] ++ ("a", "true || k == 1") :: [("k", "1")] := by decide
  have hsplit' : other.sortedSet = [] ++ ("a", "true || k == 1") :: [("k", "\"x\"")] := by decide
  have hbinds : poc.BindsTo registry draws [] "a" (.bool true) :=
    ⟨_, _, _, _, .ordinary hsplit (by decide) rfl, hvalue, (boundAs_iff (by decide)).mpr rfl⟩
  have hbinds' : other.BindsTo registry' draws [] "a" (.bool true) :=
    ⟨_, _, _, _, .ordinary hsplit' (by decide) rfl, hvalue', (boundAs_iff (by decide)).mpr rfl⟩
  obtain ⟨-, hget, hget'⟩ := bindsTo_unique_of_changesEntry poc other callbacks 0 "http://t" draws "k" "1"
    "\"x\"" registry registry' [] [] 0 0 hnames hnames' hchanges (by decide) hruns hruns' "a" (by decide)
    _ _ hbinds hbinds'
  exact ⟨hnames, hnames', hchanges, hruns, hruns', hbinds, hbinds', hget, hget'⟩

/-- The registries of the two runs know the same names, under the same types but for the changed one. -/
theorem ChangesEntry.get?_registry (hchanges : poc.ChangesEntry other changed s s')
    (hnames : poc.NamesOnce) (hnames' : other.NamesOnce)
    (hruns : poc.ReachesResolution callbacks k target registry prepared k')
    (hruns' : other.ReachesResolution callbacks k target registry' prepared' l) (m : String) :
    (Dict.get? m registry).isSome = (Dict.get? m registry').isSome ∧
      (m ≠ changed → Dict.get? m registry = Dict.get? m registry') := by
  obtain ⟨declared, hdeclared, hprepare, hvalues⟩ := hruns
  obtain ⟨declared', hdeclared', hprepare', hvalues'⟩ := hruns'
  rw [← hchanges.prepare_eq hnames hnames', hprepare] at hprepare'
  cases hprepare'
  have hsorted := sorted_prepare hprepare
  rw [Registry.get?_declareValues hsorted.nodup hvalues, Registry.get?_declareValues hsorted.nodup hvalues']
  by_cases hm : m = changed
  · have hsome := isSome_get?_declared hnames hdeclared
      (.inl (hm ▸ List.mem_map.mpr ⟨_, hchanges.mem, rfl⟩))
    have hsome' := isSome_get?_declared hnames' hdeclared'
      (.inl (hm ▸ List.mem_map.mpr ⟨_, hchanges.mem', rfl⟩))
    rw [Option.isSome_or, Option.isSome_or, hsome, hsome']
    exact ⟨rfl, fun hne => absurd hm hne⟩
  · have hentry : Dict.get? m poc.set = Dict.get? m other.set := by
      apply Option.ext
      intro source
      rw [Dict.get?_eq_some_iff hnames, Dict.get?_eq_some_iff hnames', hchanges.others m source hm]
    rw [Registry.get?_ofPoc hnames hdeclared, Registry.get?_ofPoc hnames' hdeclared', hentry]
    exact ⟨rfl, fun _ => rfl⟩

/-- A source is evaluated alike in the two runs, unless it selects from the changed name. -/
theorem ChangesEntry.evaluate_eq (hchanges : poc.ChangesEntry other changed s s')
    (hnames : poc.NamesOnce) (hnames' : other.NamesOnce)
    (hruns : poc.ReachesResolution callbacks k target registry prepared k')
    (hruns' : other.ReachesResolution callbacks k target registry' prepared' l)
    (hselects : ∀ e, Expr.parse source = .ok e → ¬ e.SelectsFrom changed) (params : Params)
    (draws : Expr.Draws) :
    registry.evaluate params draws source = registry'.evaluate params draws source := by
  have hregistry := hchanges.get?_registry hnames hnames' hruns hruns'
  have hcompile : registry.compile params source = registry'.compile params source := by
    refine Registry.compile_congr fun e hparse => Expr.failAlike_check (fun m => ?_) e fun m hm => ?_
    · rw [Registry.typeOf?_eq_or, Registry.typeOf?_eq_or, Option.isSome_or, Option.isSome_or,
        (hregistry m).1]
    · have hne : m ≠ changed := by
        rintro rfl
        exact hselects e hparse hm
      rw [Registry.typeOf?_eq_or, Registry.typeOf?_eq_or, (hregistry m).2 hne]
  rw [Registry.evaluate, Registry.evaluate, hcompile]

/-- What an entry is bound to in one run it is bound to in the other, as long as no entry up to it selects
    from the changed name. -/
theorem BindsTo.of_changesEntry (hchanges : poc.ChangesEntry other changed s s')
    (hnames : poc.NamesOnce) (hnames' : other.NamesOnce) (hpayload : changed ≠ payloadName)
    (hruns : poc.ReachesResolution callbacks k target registry prepared k')
    (hruns' : other.ReachesResolution callbacks k target registry' prepared' l)
    (hbefore : ComesBefore name changed)
    (hselects : ∀ m source e, (m, source) ∈ poc.set → m = name ∨ ComesBefore m name →
      Expr.parse source = .ok e → ¬ e.SelectsFrom changed)
    (hbinds : poc.BindsTo registry draws prepared name w) :
    other.BindsTo registry' draws prepared' name w := by
  have hevaluate {m source : String} (hmem : (m, source) ∈ poc.set)
      (hm : m = name ∨ ComesBefore m name) :=
    hchanges.evaluate_eq hnames hnames' hruns hruns' (hselects m source · hmem hm)
  obtain ⟨declared, -, hprepare, -⟩ := hruns
  obtain ⟨declared', -, hprepare', -⟩ := hruns'
  rw [hchanges.prepare_eq hnames hnames', hprepare'] at hprepare
  cases hprepare
  obtain ⟨hname, hlt⟩ := hbefore
  have hlt := Utf8.ofString_lt_ofString_iff.mp (hlt.resolve_left hpayload)
  obtain ⟨source, seen, ownDraws, v, hcomes, hvalue, hw⟩ := hbinds
  have hmem := hcomes.mem
  obtain ⟨front, back, hsplit, hordinary, hfront, rfl⟩ := hcomes.of_ne hname
  obtain ⟨rest, hother⟩ := hchanges.split hnames hnames' hsplit hlt
  rw [resolveFrom_congr fun m s hmem hm => ?_] at hfront
  · rw [hevaluate hmem (.inl rfl)] at hvalue
    exact ⟨source, seen, _, v, .ordinary hother hordinary hfront, hvalue, hw⟩
  · have hentry : (m, s) ∈ poc.sortedSet := hsplit ▸ List.mem_append_left _ hmem
    have hfirst := (keys_of_split hsplit).1 m (List.mem_map.mpr ⟨_, hmem, rfl⟩)
    exact hevaluate ((mem_sortedSet_iff hnames).mp hentry)
      (.inr ⟨(isOrdinaryEntry_iff.mp hm).2, .inr (Utf8.ofString_lt_ofString_iff.mpr hfirst)⟩)

/-- As long as no entry up to one selects from the changed name, this one is bound in one run exactly if it
    is bound in the other. -/
theorem bindsTo_iff_of_changesEntry (hchanges : poc.ChangesEntry other changed s s')
    (hnames : poc.NamesOnce) (hnames' : other.NamesOnce) (hpayload : changed ≠ payloadName)
    (hruns : poc.ReachesResolution callbacks k target registry prepared k')
    (hruns' : other.ReachesResolution callbacks k target registry' prepared' l)
    (hbefore : ComesBefore name changed)
    (hselects : ∀ m source e, (m, source) ∈ poc.set → m = name ∨ ComesBefore m name →
      Expr.parse source = .ok e → ¬ e.SelectsFrom changed) :
    poc.BindsTo registry draws prepared name w ↔ other.BindsTo registry' draws prepared' name w := by
  refine ⟨.of_changesEntry hchanges hnames hnames' hpayload hruns hruns' hbefore hselects,
    .of_changesEntry hchanges.symm hnames' hnames hpayload hruns' hruns hbefore ?_⟩
  intro m source e hmem hm
  have hfirst : ComesBefore m changed := by
    obtain rfl | hm := hm
    · exact hbefore
    · exact hm.trans hbefore
  have hne : m ≠ changed := by
    rintro rfl
    exact not_comesBefore_self m hfirst
  exact hselects m source e ((hchanges.others m source hne).mpr hmem) hm

/-- An entry that selects from a later one is bound or not by the type that the look of the later source
    declares, although it does not come to the value. -/
theorem bindsTo_selects_from_changed :
    let poc : Poc :=
      { name := "sample", set := [("a", "true || k.url"), ("k", "request")], rules := [], detail := none }
    let other : Poc := { poc with set := [("a", "true || k.url"), ("k", "1")] }
    let registry : Registry :=
      [("a", .string), ("k", .request), ("request", .request), ("response", .response)]
    let registry' : Registry :=
      [("a", .string), ("k", .int), ("request", .request), ("response", .response)]
    let callbacks : Callbacks := fun _ => .error .notConfigured
    let draws : Expr.Draws := .ofSeed 0
    poc.ReachesResolution callbacks 0 "http://t" registry [] 0 ∧
      other.ReachesResolution callbacks 0 "http://t" registry' [] 0 ∧
      poc.BindsTo registry draws [] "a" (.bool true) ∧
      ∀ w, ¬ other.BindsTo registry' draws [] "a" w := by
  intro poc other registry registry' callbacks draws
  have htokens : Expr.tokenize "true || k.url" =
      .ok [⟨.ident "true", 0⟩, ⟨.orOr, 5⟩, ⟨.ident "k", 8⟩, ⟨.dot, 9⟩, ⟨.ident "url", 10⟩,
        ⟨.endOfInput, 13⟩] := by
    with_unfolding_all decide
  have hvalue : registry.evaluate [] ((draws.child 0).child 0) "true || k.url" = .ok (.bool true) := by
    rw [Registry.evaluate, Registry.compile, Expr.parse, htokens]
    rfl
  have hfault : registry'.evaluate [] ((draws.child 0).child 0) "true || k.url" =
      .error (.checkError (.field (.notSelectable .int))) := by
    rw [Registry.evaluate, Registry.compile, Expr.parse, htokens]
    rfl
  have hsplit : poc.sortedSet = [] ++ ("a", "true || k.url") :: [("k", "request")] := by decide
  have hsorted : other.sortedSet = [("a", "true || k.url"), ("k", "1")] := by decide
  refine ⟨⟨registry, by decide, rfl, rfl⟩,
    ⟨registry', by decide, rfl, rfl⟩,
    ⟨_, _, _, _, .ordinary hsplit (by decide) rfl, hvalue, (boundAs_iff (by decide)).mpr rfl⟩,
    fun w hbinds => ?_⟩
  have hordinary : isOrdinaryEntry "a" "true || k.url" = true := by decide
  obtain ⟨f, hstop⟩ : ∃ f, resolveFrom registry' (draws.child 0) 0 other.sortedSet [] = ([], some f) := by
    rw [hsorted]
    exact ⟨_, resolveFrom_stop hordinary hfault⟩
  have hget := hbinds.get?_resolve
  rw [resolve_of_stop hstop] at hget
  cases hget

end Changes

end Poc

end VulnProbe
