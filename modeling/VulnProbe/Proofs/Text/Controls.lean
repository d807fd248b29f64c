import VulnProbe.Proofs.Text.Percent
import VulnProbe.Text.Normal

namespace VulnProbe

variable {c d : Char} {cs : List Char}

/-- What holds of the first characters one by one. -/
theorem forall_of_le {P : Char → Prop} (h : ∀ n ≤ 32, P (Char.ofNat n)) (hc : c.toNat ≤ 32) : P c := by
  have hn := h c.toNat hc
  rwa [Char.ofNat_toNat] at hn

/-- A text keeps its control characters and spaces when the percent signs in it are read. -/
theorem mem_of_decodeChars?_decodeBytes {read : List Char} (hc : c.toNat ≤ 32)
    (hread : Utf8.decodeChars? (Percent.decodeBytes (Utf8.encode cs)) = some read) (hmem : c ∈ cs) :
    c ∈ read := by
  have hbyte : (UInt8.ofNat c.toNat).toNat = c.toNat :=
    UInt8.toNat_ofNat_of_lt (Nat.lt_of_le_of_lt hc (by decide))
  have hbytes := Percent.mem_decodeBytes (by rwa [hbyte]) (Utf8.mem_encode (by omega) hmem)
  have hchar := Utf8.mem_of_decodeChars? (by rw [hbyte]; omega) hread hbytes
  rwa [hbyte, Char.ofNat_toNat] at hchar

namespace Text

private theorem parts_of_lt (hc : c.toNat < 0xC0) : parts c = [c] := by
  rw [parts, if_pos hc]

private theorem compose?_of_lt_left (hc : c.toNat < 0x3C) : compose? c d = none := by
  simp [compose?, hc]

private theorem compose?_of_lt_right (hc : c.toNat < 0x300) : compose? d c = none := by
  simp [compose?, hc]

private theorem mem_composeAfter (hc : c.toNat < 0x3C) {done kept : List Char} {starter : Char}
    (hmem : c ∈ done ∨ c = starter ∨ c ∈ kept ∨ c ∈ cs) :
    c ∈ composeAfter done starter kept cs := by
  fun_induction composeAfter done starter kept cs with
  | case1 done starter kept => simpa [or_comm, or_assoc, or_left_comm] using hmem
  | case2 done starter kept d rest order isBlocked composed hcompose ih =>
    have hsome : compose? starter d = some composed := by
      split at hcompose
      · cases hcompose
      · exact hcompose
    have hstarter : c ≠ starter := by
      rintro rfl
      cases (compose?_of_lt_left hc).symm.trans hsome
    have hd : c ≠ d := by
      rintro rfl
      cases (compose?_of_lt_right (Nat.lt_trans hc (by decide))).symm.trans hsome
    simp only [List.mem_cons, hstarter, hd, false_or] at hmem
    exact ih (hmem.imp_right .inr)
  | case3 done starter kept d rest order isBlocked hcompose horder ih =>
    refine ih ?_
    simp only [List.mem_append, List.mem_cons, List.not_mem_nil, false_or] at hmem ⊢
    grind
  | case4 done starter kept d rest order isBlocked hcompose horder ih =>
    refine ih ?_
    simp only [List.mem_cons] at hmem ⊢
    grind

private theorem mem_composeAll (hc : c.toNat < 0x3C) {done : List Char} (hmem : c ∈ done ∨ c ∈ cs) :
    c ∈ composeAll done cs := by
  fun_induction composeAll done cs with
  | case1 done => simpa using hmem
  | case2 done d rest hclass =>
    refine mem_composeAfter hc ?_
    simpa [List.mem_cons] using hmem
  | case3 done d rest hclass ih =>
    refine ih ?_
    simp only [List.mem_cons] at hmem ⊢
    grind

/-- Putting marks in order loses none and adds none. -/
@[simp] theorem mem_flushMarks {marks done : List Char} :
    c ∈ flushMarks marks done ↔ c ∈ marks ∨ c ∈ done := by
  simp [flushMarks]

private theorem mem_foldl_orderStep {state : List Char × List Char}
    (hmem : c ∈ state.1 ∨ c ∈ state.2 ∨ c ∈ cs) :
    c ∈ (cs.foldl orderStep state).1 ∨ c ∈ (cs.foldl orderStep state).2 := by
  induction cs generalizing state with
  | nil => simpa using hmem
  | cons d rest ih =>
    rw [List.foldl_cons]
    apply ih
    rw [List.mem_cons] at hmem
    rw [orderStep]
    split
    · simp only [List.not_mem_nil, List.mem_cons, mem_flushMarks, false_or]
      grind
    · simp only [List.mem_cons]
      grind

private theorem mem_orderMarks (hmem : c ∈ cs) : c ∈ orderMarks cs := by
  rw [orderMarks, List.mem_reverse, mem_flushMarks]
  exact mem_foldl_orderStep (.inr (.inr hmem))

/-- The normal form keeps control characters and the space, and all others below `<`. -/
theorem mem_normalize (hc : c.toNat < 0x3C) (hmem : c ∈ cs) : c ∈ normalize cs := by
  have hparts : c ∈ cs.flatMap parts :=
    List.mem_flatMap.mpr ⟨c, hmem, by
      rw [parts_of_lt (Nat.lt_trans hc (by decide))]
      exact List.mem_singleton_self c⟩
  exact mem_composeAll hc (.inr (mem_orderMarks hparts))

end Text

end VulnProbe
