import VulnProbe.Proofs.Run.Binding.Entries
import VulnProbe.Proofs.Text.Utf8

namespace VulnProbe

/-- An entry that has to be evaluated: it asks for no callback, and its name is not that of the
    response. -/
def isEvaluatedEntry (name source : String) : Bool :=
  !asksCallback source && name != responseName

/-- Entries come in the order of the bytes of their names, but the payload after all others. -/
def ComesBefore (m n : String) : Prop :=
  m ≠ payloadName ∧ (n = payloadName ∨ Utf8.ofString m < Utf8.ofString n)

instance (m n : String) : Decidable (ComesBefore m n) :=
  inferInstanceAs (Decidable (_ ∧ (_ ∨ _)))

/-- What comes before an entry comes before those after it. -/
theorem ComesBefore.trans {l m n : String} (hlm : ComesBefore l m) (hmn : ComesBefore m n) :
    ComesBefore l n := by
  refine ⟨hlm.1, hmn.2.imp_right fun hmn' => ?_⟩
  have hlm' := hlm.2.resolve_left hmn.1
  rw [Utf8.ofString_lt_ofString_iff] at hlm' hmn' ⊢
  exact lt_trans hlm' hmn'

/-- No entry comes before itself. -/
theorem not_comesBefore_self (n : String) : ¬ ComesBefore n n := by
  rintro ⟨hpayload, heq | hlt⟩
  · exact hpayload heq
  · rw [Utf8.ofString_lt_ofString_iff] at hlt
    exact lt_irrefl n hlt

namespace Poc

/-- Whether the entry of a name has to be evaluated. -/
def evaluates (poc : Poc) (name : String) : Bool :=
  poc.set.any fun entry => entry.1 == name && isEvaluatedEntry entry.1 entry.2

/-- The bindings that the entry of a name sees: the prepared ones, and over them what the evaluated
    entries before it are bound to. -/
def bindingsBefore (poc : Poc) (prepared bound : Params) (name : String) : Params :=
  prepared.overlay bound fun m => poc.evaluates m && decide (ComesBefore m name)

/-- The draws of the entry of a name. Those of the payload are apart from those of the others, which
    are numbered in the order of the names. -/
def drawsFor (poc : Poc) (draws : Expr.Draws) (name : String) : Expr.Draws :=
  if name = payloadName then draws.child 1
  else (draws.child 0).child
    ((Dict.keys poc.set).countP fun m => decide (Utf8.ofString m < Utf8.ofString name))

section Order

variable {poc : Poc} {before after : List (String × String)} {name source m : String}

/-- A name is evaluated exactly if some entry of it is. -/
theorem evaluates_iff :
    poc.evaluates m = true ↔ ∃ s, (m, s) ∈ poc.set ∧ isEvaluatedEntry m s = true := by
  simp only [evaluates, List.any_eq_true, Bool.and_eq_true, beq_iff_eq, Prod.exists]
  constructor
  · rintro ⟨_, s, hmem, rfl, hevaluated⟩
    exact ⟨s, hmem, hevaluated⟩
  · rintro ⟨s, hmem, hevaluated⟩
    exact ⟨m, s, hmem, rfl, hevaluated⟩

/-- The entry of a callback is not evaluated. This needs each name once, since another entry of it might
    be. -/
theorem evaluates_eq_false_of_asksCallback (hnames : poc.NamesOnce) (hasks : poc.AsksCallbackFor m) :
    poc.evaluates m = false := by
  rw [Bool.eq_false_iff]
  intro hevaluates
  obtain ⟨s, hmem, hs⟩ := evaluates_iff.mp hevaluates
  rw [hnames.source_unique hmem hasks, isEvaluatedEntry, asksCallback_iff.mpr rfl] at hs
  cases hs

/-- The entries bound in order are those that are evaluated, without the payload. -/
theorem isOrdinaryEntry_iff {s : String} :
    isOrdinaryEntry m s = true ↔ isEvaluatedEntry m s = true ∧ m ≠ payloadName := by
  simp only [isOrdinaryEntry, isEvaluatedEntry, Bool.and_eq_true, bne_iff_ne]
  exact and_right_comm

/-- The ordinary entries are the evaluated ones before the payload. -/
theorem hasOrdinary_sortedSet (hnames : poc.NamesOnce) :
    hasOrdinary poc.sortedSet m = true ↔ poc.evaluates m = true ∧ m ≠ payloadName := by
  rw [hasOrdinary_iff, evaluates_iff]
  simp only [mem_sortedSet_iff hnames, isOrdinaryEntry_iff]
  constructor
  · rintro ⟨s, hmem, hevaluated, hpayload⟩
    exact ⟨⟨s, hmem, hevaluated⟩, hpayload⟩
  · rintro ⟨⟨s, hmem, hevaluated⟩, hpayload⟩
    exact ⟨s, hmem, hevaluated, hpayload⟩

/-- Where the sorted entries are split, the names before are smaller and those behind are greater. -/
theorem keys_of_split (hsplit : poc.sortedSet = before ++ (name, source) :: after) :
    (∀ m ∈ Dict.keys before, m < name) ∧ (∀ m ∈ Dict.keys after, name < m) := by
  have hsorted := poc.sorted_sortedSet
  rw [hsplit, Dict.Sorted, Dict.keys, List.map_append, List.map_cons, List.pairwise_append] at hsorted
  obtain ⟨-, hafter, hbefore⟩ := hsorted
  exact ⟨fun m hm => hbefore m hm name List.mem_cons_self, (List.pairwise_cons.mp hafter).1⟩

/-- The entries before a name are, of those bound in order, the ones with smaller names. -/
theorem hasOrdinary_before (hsplit : poc.sortedSet = before ++ (name, source) :: after) :
    hasOrdinary before m = true ↔ hasOrdinary poc.sortedSet m = true ∧ m < name := by
  obtain ⟨hbefore, hafter⟩ := keys_of_split hsplit
  rw [hsplit, hasOrdinary_append, Bool.or_eq_true]
  constructor
  · intro hm
    exact ⟨.inl hm, hbefore m (mem_keys_of_hasOrdinary hm)⟩
  · rintro ⟨hm | hm, hlt⟩
    · exact hm
    · rcases List.mem_cons.mp (mem_keys_of_hasOrdinary hm) with rfl | hm
      · exact absurd hlt (lt_irrefl _)
      · exact absurd hlt (lt_asymm (hafter m hm))

/-- What an ordinary entry sees are the ordinary entries before it in the order of the names. -/
theorem bindingsBefore_eq_overlay (hnames : poc.NamesOnce)
    (hsplit : poc.sortedSet = before ++ (name, source) :: after) (hpayload : name ≠ payloadName)
    (prepared bound : Params) :
    poc.bindingsBefore prepared bound name = prepared.overlay bound (hasOrdinary before) := by
  refine congrArg (prepared.overlay bound) (funext fun m => Bool.eq_iff_iff.mpr ?_)
  rw [hasOrdinary_before hsplit, hasOrdinary_sortedSet hnames, Bool.and_eq_true, decide_eq_true_eq,
    ComesBefore, Utf8.ofString_lt_ofString_iff, or_iff_right hpayload, and_assoc]

/-- The payload sees all entries that are bound in order. -/
theorem bindingsBefore_payload_eq_overlay (hnames : poc.NamesOnce) (prepared bound : Params) :
    poc.bindingsBefore prepared bound payloadName =
      prepared.overlay bound (hasOrdinary poc.sortedSet) := by
  refine congrArg (prepared.overlay bound) (funext fun m => Bool.eq_iff_iff.mpr ?_)
  rw [hasOrdinary_sortedSet hnames, Bool.and_eq_true, decide_eq_true_eq, ComesBefore]
  exact and_congr_right fun _ => and_iff_left (.inl rfl)

/-- The draws of an entry are told by its place among the sorted ones. -/
theorem drawsFor_eq_child (hnames : poc.NamesOnce)
    (hsplit : poc.sortedSet = before ++ (name, source) :: after) (hpayload : name ≠ payloadName)
    (draws : Expr.Draws) : poc.drawsFor draws name = (draws.child 0).child before.length := by
  have hperm : (Dict.keys poc.sortedSet).Perm (Dict.keys poc.set) := (Dict.perm_ofList hnames).map _
  obtain ⟨hbefore, hafter⟩ := keys_of_split hsplit
  have hcount : (Dict.keys before).countP (fun m => decide (Utf8.ofString m < Utf8.ofString name)) =
      before.length := by
    have hlength : before.length = (Dict.keys before).length := (List.length_map _).symm
    rw [hlength, List.countP_eq_length]
    intro m hm
    exact decide_eq_true (Utf8.ofString_lt_ofString_iff.mpr (hbefore m hm))
  have hrest : (name :: Dict.keys after).countP
      (fun m => decide (Utf8.ofString m < Utf8.ofString name)) = 0 := by
    refine List.countP_eq_zero.mpr fun m hm => ?_
    rw [decide_eq_true_eq, Utf8.ofString_lt_ofString_iff]
    rcases List.mem_cons.mp hm with rfl | hm
    · exact lt_irrefl _
    · exact lt_asymm (hafter m hm)
  have hkeys : Dict.keys poc.sortedSet = Dict.keys before ++ name :: Dict.keys after := by
    rw [hsplit, Dict.keys, List.map_append, List.map_cons]
    rfl
  rw [drawsFor, if_neg hpayload, ← hperm.countP_eq, hkeys, List.countP_append, hcount, hrest,
    Nat.add_zero]

/-- An entry that comes before another one stands before it among the sorted ones. The payload comes
    after all and is left out. -/
theorem mem_before (hnames : poc.NamesOnce)
    (hsplit : poc.sortedSet = before ++ (name, source) :: after) (hpayload : name ≠ payloadName)
    {s : String} (hmem : (m, s) ∈ poc.set) (hbefore : ComesBefore m name) : (m, s) ∈ before := by
  have hlt : m < name := Utf8.ofString_lt_ofString_iff.mp (hbefore.2.resolve_left hpayload)
  rw [← mem_sortedSet_iff hnames, hsplit, List.mem_append, List.mem_cons] at hmem
  rcases hmem with hmem | heq | hmem
  · exact hmem
  · obtain ⟨rfl, -⟩ := Prod.mk.inj heq
    exact absurd hlt (lt_irrefl m)
  · exact absurd hlt (lt_asymm ((keys_of_split hsplit).2 m (List.mem_map.mpr ⟨_, hmem, rfl⟩)))

/-- The sorted entries up to some place have each name once. -/
theorem nodup_keys_of_append (hsplit : poc.sortedSet = before ++ after) :
    (Dict.keys before).Nodup := by
  have hnodup := poc.sorted_sortedSet.nodup
  rw [hsplit, Dict.keys, List.map_append] at hnodup
  exact (List.nodup_append.mp hnodup).1

/-- The payload to be evaluated is looked up by its name. -/
theorem payloadSource_eq_some_iff (hnames : poc.NamesOnce) :
    (Dict.get? payloadName poc.sortedSet).filter (fun s => !asksCallback s) = some source ↔
      (payloadName, source) ∈ poc.set ∧ isEvaluatedEntry payloadName source = true := by
  have hname : (payloadName != responseName) = true := by decide
  rw [Option.filter_eq_some_iff, Dict.get?_eq_some_iff poc.sorted_sortedSet.nodup,
    mem_sortedSet_iff hnames, isEvaluatedEntry, hname, Bool.and_true]

end Order

end Poc

end VulnProbe
