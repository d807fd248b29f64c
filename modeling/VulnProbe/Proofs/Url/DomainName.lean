import Mathlib.Tactic.Common
import VulnProbe.Proofs.Text.Controls
import VulnProbe.Url.DomainName

namespace VulnProbe

variable {c d : Char} {cs : List Char}

/-- A list is what stands after the last occurrence of a character, or goes on with it after the first
    members that make up its length. -/
theorem eq_after_last_or_append {α : Type} [BEq α] [LawfulBEq α] (x : α) (xs : List α) :
    let after := (xs.reverse.takeWhile (· != x)).reverse
    after = xs ∨ xs = xs.take (xs.length - after.length - 1) ++ x :: after := by
  intro after
  have hsplit : xs = (xs.reverse.dropWhile (· != x)).reverse ++ after := by
    rw [← List.reverse_append, List.takeWhile_append_dropWhile, List.reverse_reverse]
  cases hbefore : xs.reverse.dropWhile (· != x) with
  | nil =>
    rw [hbefore] at hsplit
    exact .inl hsplit.symm
  | cons y before =>
    have hy : y = x := by
      have hnot := List.head_dropWhile_not (p := (· != x)) (l := xs.reverse) (by simp [hbefore])
      simpa [hbefore] using hnot
    rw [hbefore, hy, List.reverse_cons, List.append_assoc, List.singleton_append] at hsplit
    have hlength : xs.length - after.length - 1 = before.reverse.length := by
      have hsum := congrArg List.length hsplit
      rw [List.length_append, List.length_cons] at hsum
      omega
    refine .inr ?_
    rw [hlength]
    generalize after = tail at hsplit
    rw [hsplit, List.take_left]

private theorem exists_mem_of_mapM {α β : Type} {f : α → Option β} {xs : List α} {ys : List β} {x : α}
    (hmap : xs.mapM f = some ys) (hx : x ∈ xs) : ∃ y ∈ ys, f x = some y := by
  induction xs generalizing ys with
  | nil => cases hx
  | cons a rest ih =>
    rw [List.mapM_cons] at hmap
    obtain ⟨y, hy, hrest⟩ := Option.bind_eq_some_iff.mp hmap
    obtain ⟨ys', hys', hcons⟩ := Option.bind_eq_some_iff.mp hrest
    cases hcons
    obtain rfl | hx := List.mem_cons.mp hx
    · exact ⟨y, List.mem_cons_self, hy⟩
    · obtain ⟨z, hz, hfz⟩ := ih hys' hx
      exact ⟨z, List.mem_cons_of_mem _ hz, hfz⟩

namespace Punycode

/-- Neither a control character nor the space is a digit of a label. -/
theorem digitValue?_of_le (hc : c.toNat ≤ 32) : digitValue? c = none :=
  forall_of_le (P := fun c => digitValue? c = none) (by decide) hc

/-- A difference is written with letters and digits only. -/
theorem mem_of_decodeDelta {bias place weight sum value : Nat} {text rest : List Char}
    (hc : c.toNat ≤ 32) (hdecode : decodeDelta bias place weight sum text = some (value, rest))
    (hmem : c ∈ text) : c ∈ rest := by
  induction text generalizing place weight sum with
  | nil => cases hmem
  | cons d text ih =>
    rw [decodeDelta] at hdecode
    obtain ⟨digit, hdigit, hdecode⟩ := Option.bind_eq_some_iff.mp hdecode
    have hne : c ≠ d := by
      rintro rfl
      cases (digitValue?_of_le hc).symm.trans hdigit
    have htail : c ∈ text := (List.mem_cons.mp hmem).resolve_left hne
    simp only at hdecode
    split at hdecode
    · cases hdecode
    · split at hdecode
      · cases hdecode
        exact htail
      · exact ih hdecode htail

private theorem mem_of_decodeAfter {fuel n i bias : Nat} {label text out : List Char} (hc : c.toNat ≤ 32)
    (hdecode : decodeAfter fuel n i bias label text = some out) (hmem : c ∈ label ∨ c ∈ text) :
    c ∈ out := by
  induction fuel generalizing n i bias label text with
  | zero =>
    cases text with
    | nil =>
      cases hdecode
      exact hmem.resolve_right List.not_mem_nil
    | cons d text => cases hdecode
  | succ fuel ih =>
    cases text with
    | nil =>
      cases hdecode
      exact hmem.resolve_right List.not_mem_nil
    | cons d text =>
      obtain ⟨⟨delta, rest⟩, hdelta, hdecode⟩ := Option.bind_eq_some_iff.mp hdecode
      dsimp only at hdecode
      by_cases hvalid : (n + (i + delta) / (label.length + 1)).isValidChar
      · rw [dif_pos hvalid] at hdecode
        refine ih hdecode (hmem.imp (fun hlabel => ?_) (mem_of_decodeDelta hc hdelta))
        rw [← List.take_append_drop ((i + delta) % (label.length + 1)) label, List.mem_append] at hlabel
        exact List.mem_append.mpr (hlabel.imp_left (List.mem_append_left _))
      · rw [dif_neg hvalid] at hdecode
        cases hdecode

private theorem mem_of_decode? {out : List Char} (hc : c.toNat ≤ 32) (hdecode : decode? cs = some out)
    (hmem : c ∈ cs) : c ∈ out := by
  have hne : c ≠ '-' := by
    rintro rfl
    exact absurd hc (by decide)
  rw [decode?] at hdecode
  simp only at hdecode
  split at hdecode
  · exact mem_of_decodeAfter hc hdecode (.inr hmem)
  · rename_i hlength
    obtain hall | hcut := eq_after_last_or_append '-' cs
    · rw [hall] at hlength
      exact absurd (beq_self_eq_true _) hlength
    · split at hdecode
      · cases hdecode
      · rw [hcut, List.mem_append, List.mem_cons, or_iff_right hne] at hmem
        exact mem_of_decodeAfter hc hdecode hmem

end Punycode

namespace DomainName

private theorem mapChar?_of_le (hc : c.toNat ≤ 32) : mapChar? c = some [c] := by
  have hlower : c.toLower = c := forall_of_le (P := fun c => c.toLower = c) (by decide) hc
  rw [mapChar?, if_pos (Nat.lt_of_le_of_lt hc (by decide)), hlower]

private theorem mem_of_mapped? {out : List Char} (hc : c.toNat ≤ 32) (hmapped : mapped? cs = some out)
    (hmem : c ∈ cs) : c ∈ out := by
  obtain ⟨pieces, hpieces, hout⟩ := Option.bind_eq_some_iff.mp hmapped
  cases hout
  obtain ⟨piece, hpiece, hc'⟩ := exists_mem_of_mapM hpieces hmem
  cases (mapChar?_of_le hc).symm.trans hc'
  refine Text.mem_normalize (Nat.lt_of_le_of_lt hc (by decide)) ?_
  exact List.mem_flatten.mpr ⟨_, hpiece, List.mem_singleton_self c⟩

private theorem exists_mem_labels (hc : c ≠ '.') (hmem : c ∈ cs) : ∃ label ∈ labels cs, c ∈ label := by
  fun_induction labels cs with
  | case1 => cases hmem
  | case2 d rest hd ih =>
    have hne : c ≠ d := by
      rintro rfl
      exact hc (beq_iff_eq.mp hd)
    obtain ⟨label, hlabel, hin⟩ := ih ((List.mem_cons.mp hmem).resolve_left hne)
    exact ⟨label, List.mem_cons_of_mem _ hlabel, hin⟩
  | case3 d rest hd l ls hlabels ih =>
    obtain rfl | hrest := List.mem_cons.mp hmem
    · exact ⟨_, List.mem_cons_self, List.mem_cons_self⟩
    · obtain ⟨label, hlabel, hin⟩ := ih hrest
      rw [hlabels] at hlabel
      obtain rfl | hlater := List.mem_cons.mp hlabel
      · exact ⟨_, List.mem_cons_self, List.mem_cons_of_mem _ hin⟩
      · exact ⟨label, List.mem_cons_of_mem _ hlater, hin⟩
  | case4 d rest hd hlabels ih =>
    obtain rfl | hrest := List.mem_cons.mp hmem
    · exact ⟨_, List.mem_cons_self, List.mem_cons_self⟩
    · obtain ⟨label, hlabel, -⟩ := ih hrest
      rw [hlabels] at hlabel
      cases hlabel

private theorem mem_of_unicodeLabel? {label plain : List Char} (hc : c.toNat ≤ 32)
    (hplain : unicodeLabel? label = some plain) (hmem : c ∈ label) : c ∈ plain := by
  rw [unicodeLabel?.eq_def] at hplain
  split at hplain
  · rename_i rest
    have hne : c ∉ ['x', 'n', '-', '-'] := by
      intro h
      have hgreater : ∀ d ∈ ['x', 'n', '-', '-'], 32 < d.toNat := by simp
      exact Nat.not_le_of_lt (hgreater c h) hc
    have hrest : c ∈ rest := (List.mem_append (s := ['x', 'n', '-', '-']).mp hmem).resolve_left hne
    split at hplain
    · rename_i decoded hdecode
      split at hplain
      · cases hplain
      · split at hplain
        · cases hplain
          exact Punycode.mem_of_decode? hc hdecode hrest
        · cases hplain
    · cases hplain
  · cases hplain
    exact hmem

private theorem isValidLabel_of_mem {label : List Char} (hc : c.toNat ≤ 32) (hmem : c ∈ label) :
    isValidLabel label = false := by
  have hforbidden : label.all (fun d => !(d.toNat < 128 && isForbidden d)) = false := by
    rw [List.all_eq_false]
    refine ⟨c, hmem, ?_⟩
    simp [isForbidden, hc, Nat.lt_of_le_of_lt hc]
  rw [isValidLabel.eq_def, hforbidden, Bool.and_false, Bool.false_and]

/-- A name with a control character or a space has no ASCII form. -/
theorem toAscii?_of_mem (hc : c.toNat ≤ 32) (hmem : c ∈ cs) :
    toAscii? (Percent.decodeBytes (Utf8.encode cs)) = none := by
  rw [Option.eq_none_iff_forall_ne_some]
  intro ascii hascii
  obtain ⟨read, hread, hascii⟩ := Option.bind_eq_some_iff.mp hascii
  obtain ⟨name, hname, hascii⟩ := Option.bind_eq_some_iff.mp hascii
  obtain ⟨plain, hplain, hascii⟩ := Option.bind_eq_some_iff.mp hascii
  have hdot : c ≠ '.' := by
    rintro rfl
    exact absurd hc (by decide)
  have hin := mem_of_mapped? hc hname (mem_of_decodeChars?_decodeBytes hc hread hmem)
  obtain ⟨label, hlabel, hin⟩ := exists_mem_labels hdot hin
  obtain ⟨form, hform, hunicode⟩ := exists_mem_of_mapM hplain hlabel
  have hinvalid : plain.all isValidLabel = false := by
    rw [List.all_eq_false]
    refine ⟨form, hform, ?_⟩
    rw [isValidLabel_of_mem hc (mem_of_unicodeLabel? hc hunicode hin)]
    exact Bool.false_ne_true
  rw [hinvalid, Bool.false_and] at hascii
  cases hascii

end DomainName

end VulnProbe
