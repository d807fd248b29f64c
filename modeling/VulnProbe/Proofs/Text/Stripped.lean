import VulnProbe.Proofs.Text.Blank

namespace VulnProbe.Text

variable {p : Char → Bool} {cs : List Char} {c : Char} {s : String}

/-- What is left after a property was taken away from the start does not start with it. -/
theorem eq_false_of_head?_dropWhile (hc : c ∈ (cs.dropWhile p).head?) : p c = false := by
  have hhead := List.head?_dropWhile_not p cs
  rwa [hc] at hhead

/-- Nothing is taken from the start of a list that does not start with the property. -/
theorem dropWhile_eq_self (hcs : ∀ c ∈ cs.head?, p c = false) : cs.dropWhile p = cs := by
  cases cs with
  | nil => rfl
  | cons c cs => exact List.dropWhile_cons_of_neg (by simp [hcs c rfl])

/-- What is left after a property was taken away from the end does not end with it. -/
theorem eq_false_of_getLast?_dropEnd (hc : c ∈ (dropEnd p cs).getLast?) : p c = false := by
  rw [dropEnd, List.getLast?_reverse] at hc
  exact eq_false_of_head?_dropWhile hc

/-- Nothing is taken from the end of a list that does not end with the property. -/
theorem dropEnd_eq_self (hcs : ∀ c ∈ cs.getLast?, p c = false) : dropEnd p cs = cs := by
  rw [dropEnd, dropWhile_eq_self (by rwa [List.head?_reverse]), List.reverse_reverse]

/-- What is taken away at the end of a list is all that has the property there. -/
theorem dropEnd_append_of_pos (hcs : ∀ c ∈ cs.getLast?, p c = false) {back : List Char}
    (hback : ∀ c ∈ back, p c = true) : dropEnd p (cs ++ back) = cs := by
  rw [dropEnd, List.reverse_append,
    List.dropWhile_append_of_pos fun c hc => hback c (List.mem_reverse.mp hc)]
  exact dropEnd_eq_self hcs

/-- The ends of a list are taken away alike in either order. -/
theorem dropEnd_dropWhile (p : Char → Bool) (cs : List Char) :
    dropEnd p (cs.dropWhile p) = (dropEnd p cs).dropWhile p := by
  obtain ⟨back, hback, hpos⟩ := exists_eq_dropEnd_append p cs
  conv => lhs; rw [hback, List.dropWhile_append]
  split
  · rename_i hempty
    rw [List.isEmpty_iff.mp hempty, List.dropWhile_eq_nil_iff.mpr hpos]
    rfl
  · refine dropEnd_append_of_pos (fun c hc => ?_) hpos
    obtain ⟨first, hfirst⟩ := List.dropWhile_suffix p (l := dropEnd p cs)
    have hlast : c ∈ (dropEnd p cs).getLast? := by
      rw [← hfirst, List.getLast?_append, hc]
      rfl
    exact eq_false_of_getLast?_dropEnd hlast

private theorem mem_head?_mono {ds : List Char} (hstart : ds <+: cs) (hc : c ∈ ds.head?) :
    c ∈ cs.head? := by
  obtain ⟨rest, rfl⟩ := hstart
  rw [List.head?_append, hc]
  rfl

private theorem isBlank_of_head?_trimChars (hc : c ∈ (trimChars cs).head?) : isBlank c = false :=
  eq_false_of_head?_dropWhile (mem_head?_mono dropEnd_prefix hc)

/-- A text without blanks at its ends stays as it is. -/
theorem trimChars_eq_self (hhead : ∀ c ∈ cs.head?, isBlank c = false)
    (hlast : ∀ c ∈ cs.getLast?, isBlank c = false) : trimChars cs = cs := by
  rw [trimChars, dropWhile_eq_self hhead, dropEnd_eq_self hlast]

/-- Blanks are taken away on both sides, as far as they go. -/
theorem trimChars_between {front back : List Char} (hfront : ∀ c ∈ front, isBlank c = true)
    (hback : ∀ c ∈ back, isBlank c = true) (hhead : ∀ c ∈ cs.head?, isBlank c = false)
    (hlast : ∀ c ∈ cs.getLast?, isBlank c = false) : trimChars (front ++ (cs ++ back)) = cs := by
  rw [trimChars, List.dropWhile_append_of_pos hfront, dropEnd_dropWhile, dropEnd_append_of_pos hlast hback,
    dropWhile_eq_self hhead]

/-- The characters of a text without its outer blanks, and without the slashes that then close it. -/
def stripped (s : String) : List Char :=
  dropEnd (· == '/') (trimChars s.toList)

/-- Between the removal of blanks and that of closing slashes only slashes are lost. -/
theorem exists_trimChars_eq_stripped (s : String) :
    ∃ count, trimChars s.toList = stripped s ++ List.replicate count '/' := by
  obtain ⟨back, hback, hslashes⟩ := exists_eq_dropEnd_append (· == '/') (trimChars s.toList)
  refine ⟨back.length, ?_⟩
  rw [List.eq_replicate_of_mem fun c hc => beq_iff_eq.mp (hslashes c hc)] at hback
  simpa [stripped] using hback

/-- A stripped text does not start with a blank. -/
theorem isBlank_of_head?_stripped (hc : c ∈ (stripped s).head?) : isBlank c = false :=
  isBlank_of_head?_trimChars (mem_head?_mono dropEnd_prefix hc)

/-- A stripped text does not end with a slash. -/
theorem ne_slash_of_getLast?_stripped (hc : c ∈ (stripped s).getLast?) : c ≠ '/' := by
  have hnot := eq_false_of_getLast?_dropEnd hc
  rintro rfl
  cases hnot

/-- A text that ends, blanks apart, with slashes behind a blank. -/
def HasBlankBeforeSlashes (s : String) : Prop :=
  ∃ front blank count, trimChars s.toList = front ++ blank :: List.replicate (count + 1) '/' ∧
    isBlank blank = true

/-- The removal of the slashes uncovers a blank exactly where one stands before them. -/
theorem stripped_endsPlain_iff :
    (∀ c ∈ (stripped s).getLast?, isBlank c = false) ↔ ¬ HasBlankBeforeSlashes s := by
  constructor
  · rintro hplain ⟨front, blank, count, htrim, hblank⟩
    have hslash : (blank == '/') = false := by
      refine beq_false_of_ne ?_
      rintro rfl
      cases hblank
    have hstripped : stripped s = front ++ [blank] := by
      rw [stripped, htrim, ← List.singleton_append, ← List.append_assoc]
      refine dropEnd_append_of_pos ?_ fun c hc => beq_iff_eq.mpr (List.eq_of_mem_replicate hc)
      rw [List.getLast?_concat]
      rintro _ ⟨⟩
      exact hslash
    cases hblank.symm.trans (hplain blank (by rw [hstripped, List.getLast?_concat]; rfl))
  · intro hnot c hc
    by_contra hblank
    rw [Bool.not_eq_false] at hblank
    obtain ⟨front, hfront⟩ := List.getLast?_eq_some_iff.mp hc
    obtain ⟨count, htrim⟩ := exists_trimChars_eq_stripped s
    rw [hfront, List.append_assoc, List.singleton_append] at htrim
    cases count with
    | zero =>
      have hlast : c ∈ (trimChars s.toList).getLast? := by
        rw [htrim, List.replicate_zero, List.getLast?_concat]
        rfl
      cases hblank.symm.trans (eq_false_of_getLast?_dropEnd hlast)
    | succ count => exact hnot ⟨front, c, count, htrim, hblank⟩

end VulnProbe.Text
