import Mathlib.Data.List.Sort
import Mathlib.Data.String.Basic
import VulnProbe.Dict

namespace VulnProbe.Dict

variable {α : Type} {d e : Dict α} {pairs : List (String × α)}

/-- A look-up compares with the first key and goes on behind it. -/
theorem get?_cons (k key : String) (v : α) (d : Dict α) :
    get? k ((key, v) :: d) = if key = k then some v else get? k d :=
  rfl

/-- What a look-up finds is an entry. The keys need not be in order. -/
theorem mem_of_get? {k : String} {v : α} (hget : get? k d = some v) : (k, v) ∈ d := by
  induction d with
  | nil => cases hget
  | cons entry d ih =>
    obtain ⟨key, w⟩ := entry
    rw [get?_cons] at hget
    by_cases hkey : key = k
    · rw [if_pos hkey, Option.some_inj] at hget
      rw [hkey, hget]
      exact List.mem_cons_self
    · rw [if_neg hkey] at hget
      exact List.mem_cons_of_mem _ (ih hget)

/-- A look-up fails exactly for what is no key. -/
theorem get?_eq_none_iff {k : String} : get? k d = none ↔ k ∉ keys d := by
  induction d with
  | nil => exact ⟨fun _ => List.not_mem_nil, fun _ => rfl⟩
  | cons entry d ih =>
    obtain ⟨key, w⟩ := entry
    rw [get?_cons, keys, List.map_cons, List.mem_cons, ← keys, not_or, ← ih]
    by_cases hkey : key = k
    · rw [if_pos hkey]
      exact iff_of_false (Option.some_ne_none w) fun h => h.1 hkey.symm
    · rw [if_neg hkey]
      exact ⟨fun h => ⟨Ne.symm hkey, h⟩, fun h => h.2⟩

/-- If no key is there twice, a look-up finds exactly the entries. -/
theorem get?_eq_some_iff {k : String} {v : α} (hkeys : (keys d).Nodup) :
    get? k d = some v ↔ (k, v) ∈ d := by
  refine ⟨mem_of_get?, fun hmem => ?_⟩
  induction d with
  | nil => cases hmem
  | cons entry d ih =>
    obtain ⟨key, w⟩ := entry
    obtain ⟨hfresh, hkeys⟩ := List.nodup_cons.mp hkeys
    rw [get?_cons]
    rcases List.mem_cons.mp hmem with heq | hmem
    · cases heq
      exact if_pos rfl
    · have hne : key ≠ k := by
        rintro rfl
        exact hfresh (List.mem_map.mpr ⟨_, hmem, rfl⟩)
      rw [if_neg hne]
      exact ih hkeys hmem

/-- If no key is there twice, the order of the pairs does not matter to a look-up. -/
theorem get?_perm {pairs others : List (String × α)} (hperm : pairs.Perm others)
    (hpairs : (keys pairs).Nodup) (k : String) : get? k pairs = get? k others := by
  have hothers : (keys others).Nodup := (hperm.map _).nodup hpairs
  refine Option.ext fun v => ?_
  rw [get?_eq_some_iff hpairs, get?_eq_some_iff hothers, hperm.mem_iff]

/-- Looking up a mapped value is mapping the value that is looked up. -/
theorem get?_mapValues {β : Type} (f : α → β) (k : String) (d : Dict α) :
    get? k (mapValues f d) = (get? k d).map f := by
  induction d with
  | nil => rfl
  | cons entry d ih =>
    rw [mapValues, List.map_cons, ← mapValues, get?_cons, get?_cons, ih]
    by_cases hk : entry.1 = k
    · rw [if_pos hk, if_pos hk]
      rfl
    · rw [if_neg hk, if_neg hk]

/-- Mapping values keeps the keys and their order. -/
theorem keys_mapValues {β : Type} (f : α → β) (d : Dict α) : keys (mapValues f d) = keys d := by
  rw [keys, mapValues, List.map_map]
  rfl

section Insert

/-- Insertion changes what one key is bound to, in any list of pairs. -/
theorem get?_insert (k key : String) (v : α) (d : Dict α) :
    get? k (insert key v d) = if k = key then some v else get? k d := by
  induction d with
  | nil =>
    rw [insert, get?_cons]
    simp only [eq_comm]
  | cons entry d ih =>
    obtain ⟨other, w⟩ := entry
    rw [insert]
    by_cases hlt : key < other
    · rw [if_pos hlt, get?_cons]
      simp only [eq_comm]
    · rw [if_neg hlt]
      by_cases hsame : key = other
      · rw [if_pos hsame, get?_cons, get?_cons, ← hsame]
        by_cases hk : k = key
        · rw [if_pos hk, if_pos hk.symm]
        · rw [if_neg hk, if_neg (Ne.symm hk), if_neg (Ne.symm hk)]
      · rw [if_neg hsame, get?_cons, get?_cons, ih]
        by_cases hother : other = k
        · rw [if_pos hother, if_pos hother, if_neg (fun hk => hsame (hk.symm.trans hother.symm))]
        · rw [if_neg hother, if_neg hother]

/-- An inserted key is bound to the inserted value, whatever it was bound to before. -/
theorem get?_insert_self (key : String) (v : α) (d : Dict α) :
    get? key (insert key v d) = some v := by
  rw [get?_insert, if_pos rfl]

/-- Insertion leaves what the other keys are bound to. -/
theorem get?_insert_of_ne {k key : String} (hne : k ≠ key) (v : α) (d : Dict α) :
    get? k (insert key v d) = get? k d := by
  rw [get?_insert, if_neg hne]

private theorem mapValues_insert {β : Type} (f : α → β) (key : String) (v : α) (d : Dict α) :
    mapValues f (insert key v d) = insert key (f v) (mapValues f d) := by
  induction d with
  | nil => rfl
  | cons entry d ih =>
    obtain ⟨other, w⟩ := entry
    simp only [mapValues, insert, List.map_cons] at ih ⊢
    split
    · rfl
    split
    · rfl
    · rw [List.map_cons, ih]

/-- Values may be mapped before or after the pairs are put in order. -/
theorem mapValues_ofList {β : Type} (f : α → β) (pairs : List (String × α)) :
    mapValues f (ofList pairs) = ofList (mapValues f pairs) := by
  have hall (d : Dict α) : mapValues f (insertAll pairs d) =
      insertAll (mapValues f pairs) (mapValues f d) := by
    induction pairs generalizing d with
    | nil => rfl
    | cons entry pairs ih =>
      rw [insertAll, List.foldl_cons, ← insertAll, ih, mapValues_insert]
      rfl
  exact hall []

/-- Insertion adds one key and takes none away. -/
theorem mem_keys_insert {k key : String} {v : α} :
    k ∈ keys (insert key v d) ↔ k = key ∨ k ∈ keys d := by
  rw [← not_iff_not, ← get?_eq_none_iff, get?_insert, not_or, ← get?_eq_none_iff]
  by_cases hk : k = key
  · rw [if_pos hk]
    exact iff_of_false (Option.some_ne_none v) fun h => h.1 hk
  · rw [if_neg hk]
    exact ⟨fun h => ⟨hk, h⟩, fun h => h.2⟩

/-- The entries after an insertion are the inserted one and entries from before. -/
theorem mem_of_mem_insert {entry : String × α} {key : String} {v : α}
    (hentry : entry ∈ insert key v d) : entry = (key, v) ∨ entry ∈ d := by
  induction d with
  | nil => exact .inl (List.mem_singleton.mp hentry)
  | cons head d ih =>
    obtain ⟨other, w⟩ := head
    rw [insert] at hentry
    split at hentry
    · exact List.mem_cons.mp hentry
    split at hentry
    · rcases List.mem_cons.mp hentry with hnew | hold
      · exact .inl hnew
      · exact .inr (List.mem_cons_of_mem _ hold)
    · rcases List.mem_cons.mp hentry with rfl | hrest
      · exact .inr List.mem_cons_self
      · exact (ih hrest).imp_right (List.mem_cons_of_mem _)

private theorem mem_of_mem_insertAll {entry : String × α} (hentry : entry ∈ insertAll pairs d) :
    entry ∈ pairs ∨ entry ∈ d := by
  induction pairs generalizing d with
  | nil => exact .inr hentry
  | cons head pairs ih =>
    rcases ih hentry with hpairs | hinsert
    · exact .inl (List.mem_cons_of_mem _ hpairs)
    · rcases mem_of_mem_insert hinsert with rfl | hd
      · exact .inl List.mem_cons_self
      · exact .inr hd

/-- The keys after the insertion of several pairs are theirs and those from before. -/
theorem mem_keys_insertAll {k : String} :
    k ∈ keys (insertAll pairs d) ↔ k ∈ keys pairs ∨ k ∈ keys d := by
  induction pairs generalizing d with
  | nil => exact ⟨.inr, fun h => h.resolve_left List.not_mem_nil⟩
  | cons entry pairs ih =>
    have hkeys : k ∈ keys (entry :: pairs) ↔ k = entry.1 ∨ k ∈ keys pairs := List.mem_cons
    rw [insertAll, List.foldl_cons, ← insertAll, ih, mem_keys_insert, hkeys, or_left_comm, or_assoc]

/-- The insertion of several pairs leaves what is bound to other keys. -/
theorem get?_insertAll_of_not_mem {k : String} (hk : k ∉ keys pairs) :
    get? k (insertAll pairs d) = get? k d := by
  induction pairs generalizing d with
  | nil => rfl
  | cons entry pairs ih =>
    obtain ⟨hne, hk⟩ := List.ne_and_not_mem_of_not_mem_cons hk
    rw [insertAll, List.foldl_cons, ← insertAll, ih hk, get?_insert_of_ne hne]

/-- Where a list of pairs gives each key once, its pairs count before those of the dictionary. -/
theorem get?_insertAll (hpairs : (keys pairs).Nodup) (k : String) (d : Dict α) :
    get? k (insertAll pairs d) = (get? k pairs).or (get? k d) := by
  induction pairs generalizing d with
  | nil => rfl
  | cons entry pairs ih =>
    obtain ⟨key, v⟩ := entry
    obtain ⟨hfresh, hpairs⟩ := List.nodup_cons.mp hpairs
    rw [insertAll, List.foldl_cons, ← insertAll, ih hpairs, get?_insert, get?_cons]
    by_cases hk : k = key
    · subst hk
      have hnone : get? k pairs = none := get?_eq_none_iff.mpr hfresh
      rw [if_pos rfl, if_pos rfl, hnone]
      rfl
    · rw [if_neg hk, if_neg (Ne.symm hk)]

end Insert

section Sorted

/-- The keys increase, so that each key is there once. -/
def Sorted (d : Dict α) : Prop :=
  (keys d).Pairwise (· < ·)

/-- The empty dictionary is in order. -/
theorem sorted_nil : Sorted ([] : Dict α) :=
  List.Pairwise.nil

/-- A dictionary is in order if its first key comes before the others and these are in order. -/
theorem sorted_cons {key : String} {v : α} :
    Sorted ((key, v) :: d) ↔ (∀ k ∈ keys d, key < k) ∧ Sorted d :=
  List.pairwise_cons

/-- A dictionary in order has each key once. -/
theorem Sorted.nodup (hd : Sorted d) : (keys d).Nodup :=
  List.Pairwise.imp (fun hlt => ne_of_lt hlt) hd

/-- Leaving entries out keeps the order. -/
theorem Sorted.filter (hd : Sorted d) (p : String × α → Bool) : Sorted (d.filter p) :=
  List.Pairwise.sublist (List.filter_sublist.map _) hd

/-- Insertion keeps a dictionary in order. -/
theorem sorted_insert (key : String) (v : α) (hd : Sorted d) : Sorted (insert key v d) := by
  induction d with
  | nil => exact sorted_cons.mpr ⟨List.forall_mem_nil _, sorted_nil⟩
  | cons entry d ih =>
    obtain ⟨other, w⟩ := entry
    obtain ⟨hother, hd⟩ := sorted_cons.mp hd
    rw [insert]
    by_cases hlt : key < other
    · rw [if_pos hlt]
      refine sorted_cons.mpr ⟨fun k hk => ?_, sorted_cons.mpr ⟨hother, hd⟩⟩
      rcases List.mem_cons.mp hk with rfl | hk
      · exact hlt
      · exact lt_trans hlt (hother k hk)
    · rw [if_neg hlt]
      by_cases hsame : key = other
      · rw [if_pos hsame]
        exact sorted_cons.mpr ⟨hsame ▸ hother, hd⟩
      · rw [if_neg hsame]
        refine sorted_cons.mpr ⟨fun k hk => ?_, ih hd⟩
        rcases mem_keys_insert.mp hk with rfl | hk
        · exact lt_of_le_of_ne (not_lt.mp hlt) (Ne.symm hsame)
        · exact hother k hk

/-- The insertion of several pairs keeps a dictionary in order. The pairs themselves may come in any
    order. -/
theorem sorted_insertAll (pairs : List (String × α)) (hd : Sorted d) :
    Sorted (insertAll pairs d) := by
  induction pairs generalizing d with
  | nil => exact hd
  | cons entry pairs ih => exact ih (sorted_insert entry.1 entry.2 hd)

/-- Dictionaries in order that bind the same keys to the same values are equal. -/
theorem ext (hd : Sorted d) (he : Sorted e) (hget : ∀ k, get? k d = get? k e) : d = e := by
  have hbefore {d : Dict α} (hd : Sorted d) : d.Pairwise (fun a b => a.1 < b.1) :=
    List.pairwise_map.mp hd
  have : Std.Antisymm (fun a b : String × α => a.1 < b.1) :=
    ⟨fun _ _ hab hba => absurd hba (lt_asymm hab)⟩
  have : Std.Irrefl (fun a b : String × α => a.1 < b.1) := ⟨fun _ => lt_irrefl _⟩
  refine List.Pairwise.eq_of_mem_iff (hbefore hd) (hbefore he) ?_
  rintro ⟨k, v⟩
  rw [← get?_eq_some_iff hd.nodup, ← get?_eq_some_iff he.nodup, hget]

end Sorted

section Before

variable {name key : String} {v : α}

/-- A name comes before all keys of a dictionary. -/
def Before (name : String) (d : Dict α) : Prop :=
  ∀ key ∈ keys d, name < key

/-- Every name comes before the keys of the empty dictionary. -/
theorem before_nil : Before name ([] : Dict α) :=
  List.forall_mem_nil _

/-- To come before all keys is to come before the first and before the rest. -/
theorem before_cons : Before name ((key, v) :: d) ↔ name < key ∧ Before name d :=
  List.forall_mem_cons

/-- What is not greater than a name before all keys comes before them, too. -/
theorem Before.of_le (hbefore : Before key d) (hle : name ≤ key) : Before name d :=
  fun k hk => lt_of_le_of_lt hle (hbefore k hk)

/-- A name before all keys is not bound. -/
theorem Before.get? (hbefore : Before name d) : Dict.get? name d = none :=
  get?_eq_none_iff.mpr fun hmem => lt_irrefl _ (hbefore name hmem)

/-- No entry comes before a name that comes before all keys. -/
theorem Before.filter (hbefore : Before name d) : d.filter (fun entry => entry.1 < name) = [] := by
  rw [List.filter_eq_nil_iff]
  intro entry hentry
  rw [decide_eq_true_eq]
  exact lt_asymm (hbefore entry.1 (List.mem_map_of_mem hentry))

private theorem Before.filter_behind (hbefore : Before name d) :
    d.filter (fun entry => name < entry.1) = d := by
  rw [List.filter_eq_self]
  intro entry hentry
  rw [decide_eq_true_eq]
  exact hbefore entry.1 (List.mem_map_of_mem hentry)

/-- Insertion into a dictionary in order parts the keys before the new one from those behind it. -/
theorem insert_eq_append (hd : Sorted d) :
    insert key v d =
      (d.filter fun entry => entry.1 < key) ++ (key, v) :: d.filter fun entry => key < entry.1 := by
  induction d with
  | nil => rfl
  | cons entry d ih =>
    obtain ⟨k, w⟩ := entry
    obtain ⟨hk, hd⟩ := sorted_cons.mp hd
    have hk : Before k d := hk
    rw [insert]
    rcases lt_trichotomy key k with hlt | rfl | hgt
    · have hfirst : Before key ((k, w) :: d) := before_cons.mpr ⟨hlt, hk.of_le (le_of_lt hlt)⟩
      rw [if_pos hlt, hfirst.filter, hfirst.filter_behind, List.nil_append]
    · rw [if_neg (lt_irrefl key), if_pos rfl, List.filter_cons_of_neg (by simp), hk.filter,
        List.filter_cons_of_neg (by simp), hk.filter_behind, List.nil_append]
    · have hpos : decide (k < key) = true := decide_eq_true hgt
      have hneg : ¬ decide (key < k) = true := mt of_decide_eq_true (lt_asymm hgt)
      rw [if_neg (lt_asymm hgt), if_neg (ne_of_gt hgt), List.filter_cons_of_pos (by exact hpos),
        List.filter_cons_of_neg (by exact hneg), ih hd, List.cons_append]

end Before

section OfList

/-- Any pairs make a dictionary in order. -/
theorem sorted_ofList (pairs : List (String × α)) : Sorted (ofList pairs) :=
  sorted_insertAll pairs sorted_nil

/-- The keys of the dictionary of some pairs are those of the pairs. -/
theorem mem_keys_ofList {k : String} : k ∈ keys (ofList pairs) ↔ k ∈ keys pairs := by
  rw [ofList, mem_keys_insertAll]
  exact or_iff_left List.not_mem_nil

/-- The dictionary of some pairs has no entry that is not among them. -/
theorem mem_of_mem_ofList {entry : String × α} (hentry : entry ∈ ofList pairs) : entry ∈ pairs :=
  (mem_of_mem_insertAll hentry).resolve_right List.not_mem_nil

/-- If no key is there twice, looking up in the pairs and in their dictionary is the same. -/
theorem get?_ofList (hpairs : (keys pairs).Nodup) (k : String) :
    get? k (ofList pairs) = get? k pairs := by
  rw [ofList, get?_insertAll hpairs]
  exact Option.or_none

/-- If no key is there twice, the entries of the dictionary are the pairs. -/
theorem mem_ofList_iff (hpairs : (keys pairs).Nodup) {k : String} {v : α} :
    (k, v) ∈ ofList pairs ↔ (k, v) ∈ pairs := by
  rw [← get?_eq_some_iff (sorted_ofList pairs).nodup, get?_ofList hpairs, get?_eq_some_iff hpairs]

/-- Pairs in increasing order of their keys are their own dictionary. -/
theorem ofList_of_sorted (hd : Sorted d) : ofList d = d :=
  ext (sorted_ofList d) hd (get?_ofList hd.nodup)

/-- If no key is there twice, the dictionary is the pairs in another order. -/
theorem perm_ofList (hpairs : (keys pairs).Nodup) : (ofList pairs).Perm pairs := by
  have hsorted : (ofList pairs).Nodup := (sorted_ofList pairs).nodup.of_map _
  exact (List.perm_ext_iff_of_nodup hsorted (hpairs.of_map _)).mpr fun _ => mem_ofList_iff hpairs

/-- The order of the pairs does not count, as long as each key is there once. -/
theorem ofList_perm {others : List (String × α)} (hperm : pairs.Perm others)
    (hpairs : (keys pairs).Nodup) : ofList pairs = ofList others := by
  have hothers : (keys others).Nodup := (hperm.map _).nodup hpairs
  refine ext (sorted_ofList pairs) (sorted_ofList others) fun k => ?_
  rw [get?_ofList hpairs, get?_ofList hothers, get?_perm hperm hpairs]

end OfList

/-- Leaving entries out by their keys unbinds these keys and no others. -/
theorem get?_filter (p : String → Bool) (k : String) (d : Dict α) :
    get? k (d.filter fun entry => p entry.1) = if p k then get? k d else none := by
  induction d with
  | nil => exact (ite_self none).symm
  | cons entry d ih =>
    obtain ⟨key, v⟩ := entry
    rw [List.filter_cons, get?_cons]
    by_cases hp : p key = true
    · rw [if_pos hp, get?_cons, ih]
      by_cases hkey : key = k
      · rw [if_pos hkey, if_pos hkey, if_pos (hkey ▸ hp)]
      · rw [if_neg hkey, if_neg hkey]
    · rw [if_neg hp, ih]
      by_cases hkey : key = k
      · rw [if_neg (hkey ▸ hp), if_neg (hkey ▸ hp)]
      · rw [if_neg hkey]

end VulnProbe.Dict
