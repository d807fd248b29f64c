import Mathlib.Data.List.TakeWhile
import VulnProbe.Text.Basic

namespace VulnProbe.Text

variable {cs : List Char} {p : Char → Bool}

/-- What is left is a beginning of the list. -/
theorem dropEnd_prefix : dropEnd p cs <+: cs := by
  rw [dropEnd, ← List.reverse_suffix, List.reverse_reverse]
  exact List.dropWhile_suffix p

/-- What is taken away at the end of a list has the property. -/
theorem exists_eq_dropEnd_append (p : Char → Bool) (cs : List Char) :
    ∃ back, cs = dropEnd p cs ++ back ∧ ∀ c ∈ back, p c = true := by
  refine ⟨(cs.reverse.takeWhile p).reverse, ?_, fun c hc => ?_⟩
  · rw [dropEnd, ← List.reverse_append, List.takeWhile_append_dropWhile, List.reverse_reverse]
  · exact List.mem_takeWhile_imp (List.mem_reverse.mp hc)

/-- The end is taken from the second part, and from the first one only if nothing of the second is left.
    -/
theorem dropEnd_append (p : Char → Bool) (cs more : List Char) :
    dropEnd p (cs ++ more) =
      if (dropEnd p more).isEmpty then dropEnd p cs else cs ++ dropEnd p more := by
  simp only [dropEnd, List.reverse_append, List.dropWhile_append, List.isEmpty_reverse]
  split
  · rfl
  · rw [List.reverse_append, List.reverse_reverse]

/-- A member without the property stays, and so does all before it. -/
theorem dropEnd_cons_of_neg {c : Char} (hc : p c = false) (cs : List Char) :
    dropEnd p (c :: cs) = c :: dropEnd p cs := by
  have hsingle : dropEnd p [c] = [c] := by simp [dropEnd, hc]
  rw [← List.singleton_append, dropEnd_append, hsingle]
  split
  · rename_i hempty
    rw [List.isEmpty_iff.mp hempty]
  · rfl

/-- What is kept of a list is kept of every longer one. -/
theorem dropEnd_prefix_append (p : Char → Bool) (cs more : List Char) :
    dropEnd p cs <+: dropEnd p (cs ++ more) := by
  rw [dropEnd_append]
  split
  · exact List.prefix_rfl
  · exact dropEnd_prefix.trans (List.prefix_append _ _)

/-- Removing blanks takes from the ends only. -/
theorem trim_infix (s : String) : (trim s).toList <:+: s.toList := by
  rw [trim, String.toList_ofList]
  exact dropEnd_prefix.isInfix.trans (List.dropWhile_suffix isBlank).isInfix

/-- What stands before and behind a trimmed text are blanks. -/
theorem exists_blanks_of_trim (s : String) : ∃ front back : List Char,
    s.toList = front ++ ((trim s).toList ++ back) ∧ (∀ c ∈ front, isBlank c = true) ∧
      ∀ c ∈ back, isBlank c = true := by
  obtain ⟨back, hback, hblank⟩ := exists_eq_dropEnd_append isBlank (s.toList.dropWhile isBlank)
  refine ⟨s.toList.takeWhile isBlank, back, ?_, fun c hc => List.mem_takeWhile_imp hc, hblank⟩
  rw [trim, String.toList_ofList, trimChars, ← hback, List.takeWhile_append_dropWhile]

private theorem dropWhile_isBlank (hcs : ∀ c ∈ cs, isBlank c = false) :
    cs.dropWhile isBlank = cs := by
  cases cs with
  | nil => rfl
  | cons c cs => exact List.dropWhile_cons_of_neg (by simp [hcs c List.mem_cons_self])

/-- A text without blanks is left as it is. -/
theorem trim_of_forall {s : String} (hs : ∀ c ∈ s.toList, isBlank c = false) : trim s = s := by
  have hreverse : ∀ c ∈ s.toList.reverse, isBlank c = false := fun c hc =>
    hs c (List.mem_reverse.mp hc)
  rw [trim, trimChars, dropEnd, dropWhile_isBlank hs, dropWhile_isBlank hreverse, List.reverse_reverse,
    String.ofList_toList]

end VulnProbe.Text
