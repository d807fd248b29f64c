import Mathlib.Data.List.Infix
import Mathlib.Data.String.Basic
import VulnProbe.Run.Template

namespace VulnProbe

/-- The placeholder of a name. -/
def placeholder (name : String) : List Char :=
  '\x7b' :: placeholderTail name

/-- The placeholder of a name occurs in a text. -/
def Mentions (s : List Char) (name : String) : Prop :=
  placeholder name <:+: s

/-- A text with the placeholder of a name replaced. -/
def fill (name : String) (put s : List Char) : List Char :=
  replaceFrom '\x7b' (placeholderTail name) put 0 s

variable {name other : String} {put s rest : List Char} {c : Char}

/-- The characters of a text in which the placeholder of one name is filled. -/
theorem toList_fillPlaceholder (name : String) (v : Value) (s : String) :
    (fillPlaceholder name v s).toList = fill name v.text.toList s.toList :=
  String.toList_ofList

section Reading

private theorem replaceFrom_length (first : Char) (needle put passed rest : List Char) :
    replaceFrom first needle put passed.length (passed ++ rest) =
      replaceFrom first needle put 0 rest := by
  induction passed with
  | nil => rfl
  | cons c passed ih => exact ih

/-- A placeholder starts with a brace. -/
theorem placeholder_prefix_cons :
    placeholder name <+: c :: rest ↔ c = '\x7b' ∧ placeholderTail name <+: rest := by
  rw [placeholder, List.cons_prefix_cons, eq_comm]

/-- A placeholder at the start is filled, and reading goes on behind it, not in what was put in. -/
theorem fill_placeholder : fill name put (placeholder name ++ rest) = put ++ fill name put rest := by
  have hstarts : (placeholderTail name).isPrefixOf (placeholderTail name ++ rest) = true :=
    List.isPrefixOf_iff_prefix.mpr (List.prefix_append _ _)
  rw [fill, placeholder, List.cons_append, replaceFrom, hstarts, beq_self_eq_true, Bool.true_and,
    if_pos rfl, replaceFrom_length]
  rfl

/-- A character that starts no placeholder stays. -/
theorem fill_cons (hnot : ¬ placeholder name <+: c :: rest) :
    fill name put (c :: rest) = c :: fill name put rest := by
  rw [fill, replaceFrom, if_neg]
  · rfl
  · rintro hboth
    rw [Bool.and_eq_true, beq_iff_eq, List.isPrefixOf_iff_prefix] at hboth
    exact hnot (placeholder_prefix_cons.mpr hboth)

/-- A text is read from left to right, by whole placeholders of a name and by other characters. -/
@[elab_as_elim]
theorem fill_induct (name : String) {P : List Char → Prop} (nil : P [])
    (found : ∀ rest, P rest → P (placeholder name ++ rest))
    (char : ∀ c rest, ¬ placeholder name <+: c :: rest → P rest → P (c :: rest)) (s : List Char) :
    P s := by
  induction hlength : s.length using Nat.strong_induction_on generalizing s with
  | _ n ih =>
    subst hlength
    by_cases hstarts : placeholder name <+: s
    · obtain ⟨rest, rfl⟩ := hstarts
      have hshorter : rest.length < (placeholder name ++ rest).length := by
        rw [placeholder, List.cons_append, List.length_cons, List.length_append]
        omega
      exact found rest (ih _ hshorter rest rfl)
    · cases s with
      | nil => exact nil
      | cons c rest => exact char c rest hstarts (ih _ (by simp) rest rfl)

end Reading

/-- Nothing occurs in the empty text. -/
theorem not_mentions_nil : ¬ Mentions [] name := by
  simp [Mentions, placeholder]

/-- A placeholder occurs at the start of a text or behind its first character. -/
theorem mentions_cons :
    Mentions (c :: rest) name ↔ placeholder name <+: c :: rest ∨ Mentions rest name :=
  List.infix_cons_iff

/-- Where the placeholder does not occur there is nothing to fill. -/
theorem fill_of_not_mentions (hnot : ¬ Mentions s name) : fill name put s = s := by
  induction s with
  | nil => rfl
  | cons c rest ih =>
    rw [mentions_cons, not_or] at hnot
    rw [fill_cons hnot.1, ih hnot.2]

/-- What is put in stands in the filled text. -/
theorem put_infix_fill (hmentions : Mentions s name) : put <:+: fill name put s := by
  induction s using fill_induct name with
  | nil => exact absurd hmentions not_mentions_nil
  | found rest _ =>
    rw [fill_placeholder]
    exact (List.prefix_append _ _).isInfix
  | char c rest hnot ih =>
    rw [fill_cons hnot]
    exact List.infix_cons (ih ((mentions_cons.mp hmentions).resolve_left hnot))

/-- Characters that open no placeholder stay at the front of a text. -/
theorem fill_append (hput : '\x7b' ∉ s) : fill name put (s ++ rest) = s ++ fill name put rest := by
  induction s with
  | nil => rfl
  | cons c s ih =>
    rw [List.mem_cons, not_or] at hput
    have hnot : ¬ placeholder name <+: c :: (s ++ rest) := by
      rw [placeholder_prefix_cons]
      exact fun h => hput.1 h.1.symm
    rw [List.cons_append, fill_cons hnot, ih hput.2, List.cons_append]

section BraceFree

/-- A text without braces. -/
def BraceFree (cs : List Char) : Prop :=
  '\x7b' ∉ cs ∧ '\x7d' ∉ cs

variable {w x y : List Char} {b : Char}

private theorem prefix_of_append_cons (hb : b ∉ w) (hstarts : w <+: x ++ b :: y) : w <+: x := by
  rcases List.prefix_or_prefix_of_prefix hstarts (List.prefix_append x (b :: y)) with hwx | ⟨u, rfl⟩
  · exact hwx
  · rw [List.prefix_append_right_inj] at hstarts
    cases u with
    | nil =>
      rw [List.append_nil]
    | cons c u =>
      rw [List.cons_prefix_cons] at hstarts
      rw [hstarts.1] at hb
      exact absurd (List.mem_append_right x List.mem_cons_self) hb

/-- A text that occurs around a character it does not have occurs on one side of it. -/
theorem infix_or_of_append_cons (hb : b ∉ w) (hoccurs : w <:+: x ++ b :: y) :
    w <:+: x ∨ w <:+: y := by
  induction x with
  | nil =>
    rcases List.infix_cons_iff.mp hoccurs with hstarts | hrest
    · exact .inl (prefix_of_append_cons (x := []) hb hstarts).isInfix
    · exact .inr hrest
  | cons c x ih =>
    rcases List.infix_cons_iff.mp hoccurs with hstarts | hrest
    · exact .inl (prefix_of_append_cons (x := c :: x) hb hstarts).isInfix
    · rcases ih hrest with hx | hy
      · exact .inl (List.infix_cons hx)
      · exact .inr hy

/-- If the text of one placeholder starts with another one, the name in the former is a beginning of the
    name in the latter. The name in the former must not have closing braces. -/
theorem toList_of_starts (hother : '\x7d' ∉ other.toList)
    (hstarts : placeholder name <+: placeholder other ++ rest) : other.toList <+: name.toList := by
  have hnames : name.toList ++ ['\x7d', '\x7d'] <+: other.toList ++ '\x7d' :: '\x7d' :: rest := by
    simpa [placeholder, placeholderTail, List.cons_prefix_cons] using hstarts
  have hfirst := List.prefix_append other.toList ('\x7d' :: '\x7d' :: rest)
  rcases List.prefix_or_prefix_of_prefix hnames hfirst with hinside | hbehind
  · exact absurd (hinside.subset (by simp)) hother
  · exact prefix_of_append_cons hother hbehind

/-- Where the placeholders of two names without braces start alike, the names are the same. -/
theorem eq_of_starts (hname : '\x7d' ∉ name.toList) (hother : '\x7d' ∉ other.toList)
    (hstarts : placeholder name <+: placeholder other ++ rest) : name = other := by
  obtain ⟨behind, hbehind⟩ := toList_of_starts hother hstarts
  cases behind with
  | nil =>
    rw [List.append_nil] at hbehind
    exact String.toList_inj.mp hbehind.symm
  | cons c behind =>
    have hnext : c = '\x7d' := by
      have hnames : other.toList ++ c :: (behind ++ ['\x7d', '\x7d']) <+:
          other.toList ++ '\x7d' :: '\x7d' :: rest := by
        simpa [placeholder, placeholderTail, List.cons_prefix_cons, ← hbehind] using hstarts
      rw [List.prefix_append_right_inj, List.cons_prefix_cons] at hnames
      exact hnames.1
    rw [← hbehind, hnext] at hname
    exact absurd (List.mem_append_right _ List.mem_cons_self) hname

/-- No other placeholder occurs in that of a name without braces. -/
theorem eq_of_mentions_placeholder (hother : BraceFree other.toList)
    (hmentions : Mentions (placeholder other) name) : name = other := by
  have hlater : '\x7b' ∉ other.toList ++ ['\x7d', '\x7d'] := by
    simpa using hother.1
  rw [placeholder, mentions_cons] at hmentions
  rcases hmentions with hstarts | hoccurs
  · have hnames : other.toList <+: name.toList :=
      toList_of_starts hother.2 (by rwa [placeholder, List.append_nil])
    have hlength := hstarts.length_le
    simp only [placeholder, placeholderTail, List.length_cons, List.length_append] at hlength
    exact String.toList_inj.mp (hnames.eq_of_length_le (by omega)).symm
  · rw [placeholderTail, List.cons_append, mentions_cons, placeholder_prefix_cons] at hoccurs
    rcases hoccurs with ⟨-, htail⟩ | hinside
    · exact absurd (htail.subset List.mem_cons_self) hlater
    · exact absurd (hinside.subset List.mem_cons_self) hlater

/-- A text without braces that does not fit into a placeholder is left by the filling of it. -/
theorem infix_fill_of_braceFree (hw : BraceFree w) (hlength : name.length < w.length)
    (hoccurs : w <:+: s) : w <:+: fill name put s := by
  have hnonempty : ¬ w <:+: [] := by
    rw [List.infix_nil]
    rintro rfl
    exact Nat.not_lt_zero _ hlength
  induction s using fill_induct name with
  | nil => exact absurd hoccurs hnonempty
  | found rest ih =>
    have hname : ¬ w <:+: name.toList := by
      intro hfits
      have hle := hfits.length_le
      rw [String.length_toList] at hle
      omega
    have hsplit : placeholder name ++ rest =
        [] ++ '\x7b' :: ([] ++ '\x7b' :: (name.toList ++ '\x7d' :: ([] ++ '\x7d' :: rest))) := by
      simp [placeholder, placeholderTail]
    rw [hsplit] at hoccurs
    have hafter := (infix_or_of_append_cons hw.1 hoccurs).resolve_left hnonempty
    have hafter := (infix_or_of_append_cons hw.1 hafter).resolve_left hnonempty
    have hafter := (infix_or_of_append_cons hw.2 hafter).resolve_left hname
    have hrest := (infix_or_of_append_cons hw.2 hafter).resolve_left hnonempty
    rw [fill_placeholder]
    exact (ih hrest).trans (List.suffix_append put _).isInfix
  | char c rest hnot ih =>
    rw [fill_cons hnot]
    rcases List.infix_cons_iff.mp hoccurs with hstarts | hrest
    · cases w with
      | nil => exact List.nil_infix
      | cons d w =>
        obtain ⟨rfl, after, rfl⟩ := List.cons_prefix_cons.mp hstarts
        have hopens : '\x7b' ∉ w := fun hmem => hw.1 (List.mem_cons_of_mem _ hmem)
        rw [fill_append hopens, ← List.cons_append]
        exact (List.prefix_append _ _).isInfix
    · exact List.infix_cons (ih hrest)

end BraceFree

end VulnProbe
