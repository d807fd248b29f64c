import VulnProbe.Text.Basic

namespace VulnProbe.Text

variable {p : Char → Bool} {cs ds : List Char} {c : Char}

private theorem pieces_eq_splitOnP (p : Char → Bool) (cs : List Char) : pieces p cs = cs.splitOnP p := by
  induction cs with
  | nil => rfl
  | cons c cs ih =>
    rw [List.splitOnP_cons_eq_if_modifyHead, ← ih]
    rw [pieces, List.foldr_cons, ← pieces]
    split
    · rfl
    · cases hpieces : pieces p cs with
      | nil => exact absurd (ih.symm.trans hpieces) (List.splitOnP_ne_nil p cs)
      | cons piece rest => rfl

/-- Every text has a piece, if only an empty one. -/
theorem pieces_ne_nil (p : Char → Bool) (cs : List Char) : pieces p cs ≠ [] := by
  rw [pieces_eq_splitOnP]
  exact List.splitOnP_ne_nil p cs

private theorem pieces_beq (c : Char) (cs : List Char) : pieces (· == c) cs = cs.splitOn c := by
  rw [pieces_eq_splitOnP, List.splitOn_eq_splitOnP]

/-- A separator parts the pieces before it from those behind it. -/
theorem pieces_append_cons (hc : p c = true) (cs ds : List Char) :
    pieces p (cs ++ c :: ds) = pieces p cs ++ pieces p ds := by
  simp only [pieces_eq_splitOnP, List.splitOnP_append_cons cs ds hc]

/-- A text without separators is one piece. -/
theorem pieces_of_forall (hcs : ∀ c ∈ cs, p c = false) : pieces p cs = [cs] := by
  rw [pieces_eq_splitOnP, List.splitOnP_eq_singleton hcs]

/-- Separators alone have an empty piece before each of them and one behind all. -/
theorem pieces_replicate (hc : p c = true) (count : Nat) :
    pieces p (List.replicate count c) = List.replicate (count + 1) [] := by
  induction count with
  | zero => rfl
  | succ count ih =>
    rw [List.replicate_succ, pieces, List.foldr_cons, ← pieces, if_pos hc, ih]
    rfl

/-- A text that does not start with a separator starts within its first piece. -/
theorem exists_pieces_cons (hc : p c = false) (cs : List Char) :
    ∃ first rest, pieces p (c :: cs) = (c :: first) :: rest := by
  rw [pieces, List.foldr_cons, ← pieces, hc, if_neg Bool.false_ne_true]
  cases pieces p cs with
  | nil => exact ⟨[], [], rfl⟩
  | cons first rest => exact ⟨first, rest, rfl⟩

/-- A text that does not end with a separator ends within its last piece. -/
theorem exists_pieces_concat (hc : p c = false) (cs : List Char) :
    ∃ front last, pieces p (cs ++ [c]) = front ++ [last ++ [c]] := by
  induction cs with
  | nil => exact ⟨[], [], pieces_of_forall fun d hd => List.mem_singleton.mp hd ▸ hc⟩
  | cons d cs ih =>
    obtain ⟨front, last, hpieces⟩ := ih
    rw [List.cons_append, pieces, List.foldr_cons, ← pieces, hpieces]
    split
    · exact ⟨[] :: front, last, rfl⟩
    · cases front with
      | nil => exact ⟨[], d :: last, rfl⟩
      | cons first front => exact ⟨(d :: first) :: front, last, rfl⟩

/-- The last piece of a text that does not end with a separator is not empty. -/
theorem getLast?_pieces_ne_nil (hc : c ∈ cs.getLast?) (hp : p c = false) :
    (pieces p cs).getLast? ≠ some [] := by
  obtain ⟨front, rfl⟩ := List.getLast?_eq_some_iff.mp hc
  obtain ⟨front', last, hpieces⟩ := exists_pieces_concat hp front
  rw [hpieces, List.getLast?_concat]
  intro hnil
  exact List.concat_ne_nil c last (Option.some.inj hnil)

/-- The pieces hold what is in the text and separates nothing. -/
theorem mem_of_mem_pieces {piece : List Char} (hpiece : piece ∈ pieces p cs) (hc : c ∈ piece) :
    c ∈ cs ∧ p c = false := by
  induction cs generalizing piece with
  | nil =>
    cases List.mem_singleton.mp hpiece
    cases hc
  | cons d cs ih =>
    rw [pieces, List.foldr_cons, ← pieces] at hpiece
    have hrest : ∀ piece ∈ pieces p cs, c ∈ piece → c ∈ d :: cs ∧ p c = false :=
      fun piece hpiece hc => (ih hpiece hc).imp_left (List.mem_cons_of_mem d)
    split at hpiece
    · obtain rfl | hpiece := List.mem_cons.mp hpiece
      · cases hc
      · exact hrest piece hpiece hc
    · rename_i hd
      rw [Bool.not_eq_true] at hd
      split at hpiece
      · rename_i first rest hpieces
        rw [hpieces] at hrest
        obtain rfl | hpiece := List.mem_cons.mp hpiece
        · obtain rfl | hc := List.mem_cons.mp hc
          · exact ⟨List.mem_cons_self, hd⟩
          · exact hrest first List.mem_cons_self hc
        · exact hrest piece (List.mem_cons_of_mem _ hpiece) hc
      · cases List.mem_singleton.mp hpiece
        cases List.mem_singleton.mp hc
        exact ⟨List.mem_cons_self, hd⟩

/-- The lines of a text make it up, and no line holds a line break. -/
theorem lines_join (s : String) :
    s.toList = ['\n'].intercalate ((lines s).map String.toList) ∧
      ∀ line ∈ lines s, '\n' ∉ line.toList := by
  constructor
  · rw [lines, List.map_map, pieces_beq]
    have hid : String.toList ∘ String.ofList = id := funext fun cs => String.toList_ofList
    rw [hid, List.map_id, List.intercalate_splitOn]
  · intro line hline hbreak
    obtain ⟨piece, hpiece, rfl⟩ := List.mem_map.mp hline
    rw [String.toList_ofList] at hbreak
    cases (mem_of_mem_pieces hpiece hbreak).2

end VulnProbe.Text
