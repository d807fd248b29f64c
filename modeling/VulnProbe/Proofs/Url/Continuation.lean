import VulnProbe.Proofs.Text.Blank
import VulnProbe.Proofs.Url.Authority

namespace VulnProbe.Url

variable {scheme : String} {authority rest gap cs tail : List Char} {c : Char} {s t : String}
  {u v : Url}

/-- A text in its parts: the scheme and what stands between it and the authority, the authority, and what
    goes on behind it. -/
structure Spells (cs : List Char) (scheme : String) (authority rest : List Char) : Prop where
  splitScheme : ∃ after, splitScheme? cs = some (scheme, after) ∧
    after.dropWhile (isSlash true) = authority ++ rest
  not_ends : ∀ c ∈ authority, endsAuthority true c = false
  ends : ∀ c ∈ rest.head?, endsAuthority true c = true

/-- A text with a scheme has all its parts, though some may be empty. -/
theorem exists_spells {after : List Char} (hscheme : splitScheme? cs = some (scheme, after)) :
    ∃ authority rest, Spells cs scheme authority rest := by
  let isInside (c : Char) : Bool := !(endsAuthority true c)
  refine ⟨(after.dropWhile (isSlash true)).takeWhile isInside,
    (after.dropWhile (isSlash true)).dropWhile isInside,
    ⟨after, hscheme, List.takeWhile_append_dropWhile.symm⟩, fun c hc => ?_, fun c hc => ?_⟩
  · simpa [isInside] using List.mem_takeWhile_imp hc
  · have hstop := List.head?_dropWhile_not isInside (after.dropWhile (isSlash true))
    rw [hc] at hstop
    simpa [isInside] using hstop

/-- The URL of a text with a special scheme, by its parts. Its authority is read apart from what goes on
    behind it. -/
theorem Spells.parse (hspells : Spells (cleaned s) scheme authority rest)
    (hspecial : SchemeKind.of scheme = .special) :
    Url.parse s = (readAuthority scheme authority).map fun (credentials, host, port) =>
      withTail scheme .special credentials (some host) port
        (pathAfterHost .special (splitTail rest).path) (splitTail rest) := by
  obtain ⟨after, hscheme, hafter⟩ := hspells.splitScheme
  rw [Url.parse, hscheme]
  simp only [hspecial, hafter]
  exact ofAuthority_append hspells.not_ends hspells.ends

/-- What follows a text does not change its scheme. -/
theorem splitScheme?_append {after : List Char} (hscheme : splitScheme? cs = some (scheme, after))
    (more : List Char) : splitScheme? (cs ++ more) = some (scheme, after ++ more) := by
  cases cs with
  | nil => cases hscheme
  | cons c cs =>
    rw [splitScheme?] at hscheme
    rw [List.cons_append, splitScheme?, ← List.cons_append]
    split at hscheme
    · rename_i halpha
      rw [if_pos halpha]
      split at hscheme
      · rename_i after' hdrop
        cases hscheme
        have htake : ((c :: cs).takeWhile isSchemeTail).length ≠ (c :: cs).length := by
          intro hlength
          have hsplit := congrArg List.length
            (List.takeWhile_append_dropWhile (p := isSchemeTail) (l := c :: cs))
          simp only [List.length_append, hlength, hdrop, List.length_cons] at hsplit
          omega
        rw [List.dropWhile_append, hdrop, List.takeWhile_append, if_neg htake]
        rfl
      · cases hscheme
    · cases hscheme

/-- Where a text goes on behind the authority, whatever follows it goes on there too. -/
theorem Spells.append (hspells : Spells cs scheme authority rest) (hrest : rest ≠ [])
    (more : List Char) : Spells (cs ++ more) scheme authority (rest ++ more) := by
  obtain ⟨after, hscheme, hafter⟩ := hspells.splitScheme
  refine ⟨⟨_, splitScheme?_append hscheme more, ?_⟩, hspells.not_ends, ?_⟩
  · rw [List.dropWhile_append, hafter, if_neg (by simp [hrest]), List.append_assoc]
  · obtain ⟨c, rest, rfl⟩ := List.exists_cons_of_ne_nil hrest
    exact hspells.ends

/-- Where a text ends with the authority, control characters and spaces between it and what follows
    belong to the authority. -/
theorem Spells.append_gap (hspells : Spells cs scheme authority []) (hne : authority ≠ [])
    (hgap : ∀ c ∈ gap, isEdge c = true) (hc : endsAuthority true c = true) (tail : List Char) :
    Spells (cs ++ (gap ++ c :: tail)) scheme (authority ++ gap) (c :: tail) := by
  obtain ⟨after, hscheme, hafter⟩ := hspells.splitScheme
  refine ⟨⟨_, splitScheme?_append hscheme _, ?_⟩, fun d hd => ?_, ?_⟩
  · rw [List.dropWhile_append, hafter, if_neg (by simp [hne]), List.append_nil, List.append_assoc]
  · obtain hd | hd := List.mem_append.mp hd
    · exact hspells.not_ends d hd
    · exact endsAuthority_of_isEdge (hgap d hd)
  · rintro d ⟨⟩
    exact hc

/-- If anything is left to read, something other than controls and spaces is there. -/
theorem dropWhile_ne_nil_of_cleaned (hs : cleaned s ≠ []) : s.toList.dropWhile isEdge ≠ [] := by
  intro hnil
  rw [cleaned, hnil] at hs
  exact hs rfl

private theorem cleaned_append (hs : cleaned s ≠ []) (t : String) :
    cleaned (s ++ t) =
      (Text.dropEnd isEdge (s.toList.dropWhile isEdge ++ t.toList)).filter fun c => !isDropped c := by
  have hfront := dropWhile_ne_nil_of_cleaned hs
  rw [cleaned, String.toList_append, List.dropWhile_append, if_neg (by simpa using hfront)]

/-- What is read of a text is read of every longer one. -/
theorem cleaned_prefix_append (hs : cleaned s ≠ []) (t : String) : cleaned s <+: cleaned (s ++ t) := by
  rw [cleaned_append hs]
  exact (Text.dropEnd_prefix_append _ _ _).filter _

/-- Between what is read of a text and a character behind it that is no blank, there are the characters at
    the end of the text that would not be read otherwise. -/
theorem exists_cleaned_append (hs : cleaned s ≠ []) (hc : endsAuthority true c = true)
    (ht : t.toList = c :: tail) :
    ∃ gap tail', cleaned (s ++ t) = cleaned s ++ (gap ++ c :: tail') ∧
      (∀ d ∈ gap, isEdge d = true) ∧ ((∀ d ∈ s.toList.getLast?, isEdge d = false) → gap = []) := by
  have hedge : isEdge c = false := by
    by_contra hnot
    rw [Bool.not_eq_false] at hnot
    cases (endsAuthority_of_isEdge hnot).symm.trans hc
  have hkept : (!isDropped c) = true := by
    simp only [endsAuthority, isSlash, Bool.or_eq_true, Bool.and_eq_true, beq_iff_eq, true_and] at hc
    obtain ((rfl | rfl) | rfl) | rfl := hc <;> rfl
  obtain ⟨back, hback, hedges⟩ := Text.exists_eq_dropEnd_append isEdge (s.toList.dropWhile isEdge)
  refine ⟨back.filter fun c => !isDropped c,
    (Text.dropEnd isEdge tail).filter fun c => !isDropped c, ?_, ?_, ?_⟩
  · have hlonger : Text.dropEnd isEdge (s.toList.dropWhile isEdge ++ c :: tail) =
        s.toList.dropWhile isEdge ++ c :: Text.dropEnd isEdge tail := by
      rw [Text.dropEnd_append, Text.dropEnd_cons_of_neg hedge]
      rfl
    rw [cleaned_append hs, ht, hlonger, cleaned]
    conv_lhs => rw [hback]
    rw [List.filter_append, List.filter_append, List.filter_cons, if_pos hkept, List.append_assoc]
  · intro d hd
    exact hedges d (List.mem_filter.mp hd).1
  · intro hlast
    rw [List.filter_eq_nil_iff]
    intro d hd
    have hne : back ≠ [] := List.ne_nil_of_mem hd
    have hend : s.toList.getLast? = some (back.getLast hne) := by
      rw [← List.takeWhile_append_dropWhile (p := isEdge) (l := s.toList), hback]
      simp [List.getLast?_append, List.getLast?_eq_some_getLast hne]
    cases (hlast _ hend).symm.trans (hedges _ (List.getLast_mem hne))

/-- Two URLs with the same scheme, credentials, host and port. -/
structure SameAuthority (u v : Url) : Prop where
  scheme : u.scheme = v.scheme
  username : u.username = v.username
  password : u.password = v.password
  host : u.host = v.host
  port : u.port = v.port

private theorem scheme_of_ofAuthority {kind : SchemeKind} (hread : ofAuthority scheme kind cs = .ok u) :
    u.scheme = scheme := by
  simp only [ofAuthority, bind, Except.bind, pure, Except.pure] at hread
  repeat' split at hread
  all_goals cases hread
  all_goals rfl

private theorem scheme_of_ofOther (hread : ofOther scheme cs = .ok u) : u.scheme = scheme := by
  rw [ofOther.eq_def] at hread
  split at hread
  · exact scheme_of_ofAuthority hread
  · cases hread
    rfl
  · cases hread
    rfl

private theorem scheme_of_ofFile (hread : ofFile cs = .ok u) : u.scheme = "file" := by
  simp only [ofFile, bind, Except.bind, pure, Except.pure] at hread
  repeat' split at hread
  all_goals cases hread
  all_goals rfl

/-- The scheme of a text that is read as a URL. -/
theorem exists_splitScheme (hparse : parse s = .ok u) :
    ∃ after, splitScheme? (cleaned s) = some (u.scheme, after) := by
  rw [parse] at hparse
  split at hparse
  · cases hparse
  · rename_i scheme after hscheme
    have hsame : u.scheme = scheme := by
      split at hparse
      · rename_i hkind
        have hfile : scheme = "file" := by
          by_contra hne
          have hbeq : (scheme == "file") = false := beq_false_of_ne hne
          rw [SchemeKind.of, hbeq] at hkind
          simp only [Bool.false_eq_true, if_false] at hkind
          split at hkind <;> cases hkind
        rw [scheme_of_ofFile hparse, hfile]
      · exact scheme_of_ofAuthority hparse
      · exact scheme_of_ofOther hparse
    rw [hsame]
    exact ⟨after, hscheme⟩

/-- URLs built from the same scheme, credentials, host and port have the same authority, whatever their
    paths, queries and fragments are. -/
theorem SameAuthority.of_withTail {parts : (String × Option String) × Host × Option Nat}
    {path path' : String} {rest rest' : Tail}
    (hu : withTail scheme .special parts.1 (some parts.2.1) parts.2.2 path rest = u)
    (hv : withTail scheme .special parts.1 (some parts.2.1) parts.2.2 path' rest' = v) :
    SameAuthority u v := by
  subst hu hv
  exact ⟨rfl, rfl, rfl, rfl, rfl⟩

/-- A URL has its own authority. -/
theorem SameAuthority.refl (u : Url) : SameAuthority u u :=
  ⟨rfl, rfl, rfl, rfl, rfl⟩

/-- A mapped result succeeds exactly as the result does. -/
theorem map_eq_ok_iff {ε α β : Type} {x : Except ε α} {f : α → β} {b : β} :
    x.map f = .ok b ↔ ∃ a, x = .ok a ∧ f a = b := by
  cases x <;> simp [Except.map]

/-- A text that is read as a URL is not empty. -/
theorem cleaned_ne_nil (hparse : parse s = .ok u) : cleaned s ≠ [] := by
  intro hnil
  obtain ⟨after, hscheme⟩ := exists_splitScheme hparse
  rw [hnil] at hscheme
  cases hscheme

/-- A text that goes on behind its authority: with a path, a query or a fragment. -/
def GoesOn (s : String) : Prop :=
  ∃ scheme authority rest, Spells (cleaned s) scheme authority rest ∧ rest ≠ []

/-- Nothing that follows a text with a path, a query or a fragment comes to its authority. -/
theorem parse_append_of_goesOn (hparse : parse s = .ok u)
    (hspecial : SchemeKind.of u.scheme = .special) (hgoes : GoesOn s) (t : String) :
    ∃ v, parse (s ++ t) = .ok v ∧ SameAuthority u v := by
  obtain ⟨scheme, authority, rest, hspells, hrest⟩ := hgoes
  obtain ⟨after, hscheme⟩ := exists_splitScheme hparse
  obtain ⟨after', hscheme', -⟩ := hspells.splitScheme
  cases hscheme.symm.trans hscheme'
  obtain ⟨more, hmore⟩ := cleaned_prefix_append (cleaned_ne_nil hparse) t
  have hspells' := hspells.append hrest more
  rw [hmore] at hspells'
  obtain ⟨parts, hparts, hu⟩ := map_eq_ok_iff.mp ((hspells.parse hspecial).symm.trans hparse)
  have hv := (hspells'.parse hspecial).trans (map_eq_ok_iff.mpr ⟨parts, hparts, rfl⟩)
  exact ⟨_, hv, .of_withTail hu rfl⟩

/-- A text that ends with its authority can be followed by a path, a query or a fragment. If there are
    control characters or spaces at its end, they would belong to the authority and the URL is refused. -/
theorem parse_append_of_not_goesOn (hparse : parse s = .ok u)
    (hspecial : SchemeKind.of u.scheme = .special) (hgoes : ¬ GoesOn s)
    (ht : ∀ c ∈ t.toList.head?, endsAuthority true c = true) :
    (∀ v, parse (s ++ t) = .ok v → SameAuthority u v) ∧
      ((∀ c ∈ s.toList.getLast?, isEdge c = false) → ∃ v, parse (s ++ t) = .ok v) := by
  cases htext : t.toList with
  | nil =>
    rw [String.toList_eq_nil_iff.mp htext, String.append_empty, hparse]
    exact ⟨fun v hv => by cases hv; exact .refl u, fun _ => ⟨u, rfl⟩⟩
  | cons c tail =>
    rw [htext] at ht
    obtain ⟨after, hscheme⟩ := exists_splitScheme hparse
    obtain ⟨authority, rest, hspells⟩ := exists_spells hscheme
    obtain rfl : rest = [] := by
      by_contra hrest
      exact hgoes ⟨_, _, _, hspells, hrest⟩
    obtain ⟨parts, hparts, hu⟩ := map_eq_ok_iff.mp ((hspells.parse hspecial).symm.trans hparse)
    have hauthority : authority ≠ [] := by
      rintro rfl
      cases hparts
    obtain ⟨gap, tail', hlonger, hgap, hclosed⟩ :=
      exists_cleaned_append (cleaned_ne_nil hparse) (ht c rfl) htext
    have hspells' := hspells.append_gap hauthority hgap (ht c rfl) tail'
    rw [← hlonger] at hspells'
    rw [hspells'.parse hspecial]
    by_cases hnil : gap = []
    · rw [hnil, List.append_nil]
      refine ⟨fun v hv => ?_, fun _ => ⟨_, map_eq_ok_iff.mpr ⟨parts, hparts, rfl⟩⟩⟩
      obtain ⟨parts', hparts', hv⟩ := map_eq_ok_iff.mp hv
      cases hparts.symm.trans hparts'
      exact .of_withTail hu hv
    · refine ⟨fun v hv => ?_, fun hend => absurd (hclosed hend) hnil⟩
      obtain ⟨parts', hparts', -⟩ := map_eq_ok_iff.mp hv
      exact absurd hparts' (readAuthority_append_ne_ok hspells.not_ends hgap hnil parts')

/-- What follows the text of a URL leaves scheme, credentials, host and port as they are if it starts
    behind the authority, or if the text has gone on there before. The longer text is refused only if
    there are control characters or spaces at the end of the first. -/
theorem parse_append (hparse : parse s = .ok u) (hspecial : SchemeKind.of u.scheme = .special)
    (ht : (∀ c ∈ t.toList.head?, endsAuthority true c = true) ∨ GoesOn s) :
    (∀ v, parse (s ++ t) = .ok v → SameAuthority u v) ∧
      ((∀ c ∈ s.toList.getLast?, isEdge c = false) → ∃ v, parse (s ++ t) = .ok v) := by
  by_cases hgoes : GoesOn s
  · obtain ⟨v, hv, hsame⟩ := parse_append_of_goesOn hparse hspecial hgoes t
    refine ⟨fun w hw => ?_, fun _ => ⟨v, hv⟩⟩
    cases hv.symm.trans hw
    exact hsame
  · exact parse_append_of_not_goesOn hparse hspecial hgoes (ht.resolve_right hgoes)

end VulnProbe.Url
