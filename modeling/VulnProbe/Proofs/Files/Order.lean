import Mathlib.Data.String.Basic
import VulnProbe.Files.Path

namespace VulnProbe.Files

variable {front : List PathPart} {f : String → String} {names : List String}

/-- What stands before the last names of paths is the same. -/
def EndsWithNames (f : String → String) (front : List PathPart) (names : List String) : Prop :=
  ∀ name ∈ names, parts (f name) = front ++ [.name name]

/-- Names in order, each once. -/
structure IsOrderOf (ordered names : List String) : Prop where
  increasing : ordered.Pairwise (· < ·)
  mem_iff : ∀ name, name ∈ ordered ↔ name ∈ names

private theorem isBefore_append_names (front : List PathPart) (a b : String) :
    isBefore (front ++ [PathPart.name a]) (front ++ [PathPart.name b]) = decide (a < b) := by
  induction front with
  | nil =>
    rw [List.nil_append, List.nil_append, isBefore]
    split
    · rename_i hsame
      cases hsame
      rw [isBefore, decide_eq_false (lt_irrefl a)]
    · rfl
  | cons part front ih => rw [List.cons_append, List.cons_append, isBefore, if_pos rfl, ih]

private theorem EndsWithNames.eq_iff (hparts : EndsWithNames f front names) {a b : String} (ha : a ∈ names)
    (hb : b ∈ names) : parts (f a) = parts (f b) ↔ a = b := by
  rw [hparts a ha, hparts b hb, List.append_cancel_left_eq, List.cons.injEq, PathPart.name.injEq]
  exact and_iff_left rfl

/-- Paths that differ in their last names only are in the order of these names. -/
theorem EndsWithNames.pairwise_isBefore (hparts : EndsWithNames f front names)
    (hnames : names.Pairwise (· < ·)) :
    (names.map f).Pairwise fun a b => isBefore (parts a) (parts b) = true := by
  rw [List.pairwise_map]
  refine hnames.imp_of_mem fun {a b} ha hb hlt => ?_
  rw [hparts a ha, hparts b hb, isBefore_append_names, decide_eq_true hlt]

/-- Names in order, of which equal ones follow each other, are left once each. -/
theorem exists_dedup_map_eq (hparts : EndsWithNames f front names)
    (hsorted : names.Pairwise (· ≤ ·)) :
    ∃ ordered, sorted.dedup (names.map f) = List.map f ordered ∧ IsOrderOf ordered names := by
  cases names with
  | nil => exact ⟨[], by rw [List.map_nil, sorted.dedup]; simp, List.Pairwise.nil, fun _ => Iff.rfl⟩
  | cons a rest =>
    induction rest generalizing a with
    | nil =>
      exact ⟨[a], by rw [List.map_singleton, sorted.dedup]; simp, List.pairwise_singleton _ a,
        fun _ => Iff.rfl⟩
    | cons b rest ih =>
      have hrest := List.pairwise_cons.mp hsorted
      obtain ⟨ordered, hordered, hincreasing, hmem⟩ :=
        ih b (fun name hname => hparts name (List.mem_cons_of_mem a hname)) hrest.2
      rw [List.map_cons, List.map_cons, sorted.dedup]
      simp only [hparts.eq_iff List.mem_cons_self (List.mem_cons_of_mem a List.mem_cons_self)]
      split
      · rename_i hsame
        subst hsame
        refine ⟨ordered, hordered, hincreasing, fun name => ?_⟩
        rw [hmem]
        refine ⟨List.mem_cons_of_mem a, fun hname => ?_⟩
        obtain rfl | hname := List.mem_cons.mp hname
        · exact List.mem_cons_self
        · exact hname
      · rename_i hne
        refine ⟨a :: ordered, ?_, ?_, fun name => ?_⟩
        · rw [List.map_cons, ← hordered, List.map_cons]
        · refine List.pairwise_cons.mpr ⟨fun name hname => ?_, hincreasing⟩
          have hab : a < b := lt_of_le_of_ne (hrest.1 b List.mem_cons_self) hne
          obtain rfl | hname := List.mem_cons.mp ((hmem name).mp hname)
          · exact hab
          · exact lt_of_lt_of_le hab ((List.pairwise_cons.mp hrest.2).1 name hname)
        · rw [List.mem_cons, hmem, List.mem_cons (b := a)]

/-- Sorting paths that differ in their last names only is sorting the names. -/
theorem exists_sorted_map_eq (hparts : EndsWithNames f front names) :
    ∃ ordered, sorted (names.map f) = List.map f ordered ∧ IsOrderOf ordered names := by
  let le (a b : String) : Bool := !decide (b < a)
  have hle : ∀ a ∈ names, ∀ b ∈ names, le a b = !isBefore (parts (f b)) (parts (f a)) := by
    intro a ha b hb
    rw [hparts a ha, hparts b hb, isBefore_append_names]
  have hle_iff : ∀ a b, le a b = true ↔ a ≤ b := by
    intro a b
    rw [Bool.not_eq_true', decide_eq_false_iff_not, not_lt]
  have hsorted : (names.mergeSort le).Pairwise (· ≤ ·) := by
    refine (List.pairwise_mergeSort ?_ ?_ names).imp fun {a b} => (hle_iff a b).mp
    · intro a b c hab hbc
      rw [hle_iff] at hab hbc ⊢
      exact le_trans hab hbc
    · intro a b
      rw [Bool.or_eq_true, hle_iff, hle_iff]
      exact le_total a b
  obtain ⟨ordered, hordered, hincreasing, hmem⟩ := exists_dedup_map_eq
    (fun name hname => hparts name (List.mem_mergeSort.mp hname)) hsorted
  refine ⟨ordered, ?_, hincreasing, fun name => (hmem name).trans List.mem_mergeSort⟩
  rw [sorted, ← List.map_mergeSort hle, hordered]

end VulnProbe.Files
