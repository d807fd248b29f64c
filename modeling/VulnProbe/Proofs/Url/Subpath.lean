import VulnProbe.Proofs.Url.Continuation
import VulnProbe.Proofs.Url.Directory

namespace VulnProbe.Url

variable {scheme : String} {front authority rest tail cs name : List Char} {count : Nat} {s t : String}
  {u : Url}

private theorem Spells.append_of_ends (hspells : Spells cs scheme authority rest) (hne : authority ≠ [])
    (htail : ∀ c ∈ tail.head?, endsAuthority true c = true) :
    Spells (cs ++ tail) scheme authority (rest ++ tail) := by
  obtain ⟨after, hscheme, hafter⟩ := hspells.splitScheme
  refine ⟨⟨_, splitScheme?_append hscheme tail, ?_⟩, hspells.not_ends, ?_⟩
  · rw [List.dropWhile_append, hafter, if_neg (by simp [hne]), List.append_assoc]
  · cases rest with
    | nil => exact htail
    | cons c rest => exact hspells.ends

/-- The colon behind a scheme does not come from slashes. -/
theorem exists_splitScheme_of_append_slashes {after : List Char}
    (hscheme : splitScheme? (cs ++ List.replicate count '/') = some (scheme, after)) :
    ∃ after', splitScheme? cs = some (scheme, after') := by
  suffices hfound : ∃ found, splitScheme? cs = some found by
    obtain ⟨⟨scheme', after'⟩, hfound⟩ := hfound
    cases (splitScheme?_append hfound _).symm.trans hscheme
    exact ⟨after', hfound⟩
  have hslashes : ∀ rest, List.replicate count '/' ≠ ':' :: rest := by
    intro rest hrest
    have hmem : ':' ∈ List.replicate count '/' := hrest ▸ List.mem_cons_self
    cases List.eq_of_mem_replicate hmem
  have hstop : (List.replicate count '/').dropWhile isSchemeTail = List.replicate count '/' := by
    cases count <;> rfl
  cases cs with
  | nil =>
    cases count <;> cases hscheme
  | cons c cs =>
    rw [List.cons_append, splitScheme?, ← List.cons_append] at hscheme
    rw [splitScheme?]
    split at hscheme
    · rename_i halpha
      rw [if_pos halpha]
      split at hscheme
      · rename_i after' hdrop
        rw [List.dropWhile_append, hstop] at hdrop
        split at hdrop
        · exact absurd hdrop (hslashes after')
        · rename_i hmore
          obtain ⟨d, ds, hds⟩ := List.exists_cons_of_ne_nil (mt List.isEmpty_iff.mpr hmore)
          rw [hds, List.cons_append, List.cons.injEq] at hdrop
          rw [hds, hdrop.1]
          exact ⟨_, rfl⟩
      · cases hscheme
    · cases hscheme

private theorem not_spells_nil (hparse : parse s = .ok u) (hspecial : SchemeKind.of u.scheme = .special) :
    ¬ Spells (cleaned s) u.scheme [] rest := by
  intro hspells
  cases hparse.symm.trans (hspells.parse hspecial)

/-- A text that slashes follow has its authority before them. -/
theorem exists_spells_of_slashes (hparse : parse s = .ok u) (hspecial : SchemeKind.of u.scheme = .special)
    (hs : cleaned s = front ++ List.replicate count '/') :
    ∃ authority rest, Spells front u.scheme authority rest ∧ authority ≠ [] := by
  obtain ⟨after, hscheme⟩ := exists_splitScheme hparse
  rw [hs] at hscheme
  obtain ⟨after', hfront⟩ := exists_splitScheme_of_append_slashes hscheme
  obtain ⟨authority, rest, hspells⟩ := exists_spells hfront
  refine ⟨authority, rest, hspells, ?_⟩
  rintro rfl
  cases rest with
  | cons c rest => exact not_spells_nil hparse hspecial (hs ▸ hspells.append (List.cons_ne_nil c rest) _)
  | nil =>
    -- the front is a scheme with slashes behind it, and more slashes follow
    obtain ⟨after'', hscheme', hafter⟩ := hspells.splitScheme
    have hslashes : Spells (front ++ List.replicate count '/') u.scheme [] [] := by
      refine ⟨⟨_, splitScheme?_append hscheme' _, ?_⟩, ?_, ?_⟩
      · rw [List.dropWhile_append, hafter]
        simp [isSlash]
      · exact fun c hc => absurd hc List.not_mem_nil
      · rintro c ⟨⟩
    exact not_spells_nil hparse hspecial (hs ▸ hslashes)

private theorem forall_unmarked_slashes : ∀ c ∈ List.replicate count '/', c ≠ '?' ∧ c ≠ '#' := by
  intro c hc
  rw [List.eq_of_mem_replicate hc]
  decide

private theorem splitTail_append_slashes_iff :
    (splitTail (rest ++ List.replicate count '/')).query = none ∧
      (splitTail (rest ++ List.replicate count '/')).fragment = none ↔
        ∀ c ∈ rest, c ≠ '?' ∧ c ≠ '#' := by
  rw [splitTail_eq_none_iff, List.forall_mem_append]
  exact and_iff_left forall_unmarked_slashes

/-- A text with slashes at its end, and every text that puts something behind a slash in their place, are
    read alike up to the end of the authority. -/
theorem exists_rest_of_slashes (hparse : parse s = .ok u) (hspecial : SchemeKind.of u.scheme = .special)
    (hs : cleaned s = front ++ List.replicate count '/') :
    ∃ rest, (∀ c ∈ rest.head?, endsAuthority true c = true) ∧
      (u.query = none ∧ u.fragment = none ↔ ∀ c ∈ rest, c ≠ '?' ∧ c ≠ '#') ∧
      u.path = pathAfterHost .special (splitTail (rest ++ List.replicate count '/')).path ∧
      ∀ t tail, cleaned t = front ++ '/' :: tail → ∃ v, parse t = .ok v ∧ SameAuthority u v ∧
        v.path = pathAfterHost .special (splitTail (rest ++ '/' :: tail)).path := by
  obtain ⟨authority, rest, hspells, hne⟩ := exists_spells_of_slashes hparse hspecial hs
  have hslashes : ∀ c ∈ (List.replicate count '/').head?, endsAuthority true c = true := by
    intro c hc
    rw [List.eq_of_mem_replicate (List.mem_of_head? hc)]
    rfl
  have hspells' := hspells.append_of_ends hne hslashes
  rw [← hs] at hspells'
  obtain ⟨parts, hparts, hu⟩ := map_eq_ok_iff.mp ((hspells'.parse hspecial).symm.trans hparse)
  refine ⟨rest, hspells.ends, ?_, ?_, fun t tail ht => ?_⟩
  · rw [← hu]
    exact (and_congr Option.map_eq_none_iff Option.map_eq_none_iff).trans splitTail_append_slashes_iff
  · rw [← hu]
    rfl
  · have hspells'' : Spells (front ++ '/' :: tail) u.scheme authority (rest ++ '/' :: tail) :=
      hspells.append_of_ends hne (by rintro c ⟨⟩; rfl)
    rw [← ht] at hspells''
    exact ⟨_, (hspells''.parse hspecial).trans (map_eq_ok_iff.mpr ⟨parts, hparts, rfl⟩),
      .of_withTail hu rfl, rfl⟩

/-- A URL without query and fragment has its path in a directory, and what follows it behind a slash is
    put there. -/
theorem exists_directory_of_parse (hparse : parse s = .ok u)
    (hspecial : SchemeKind.of u.scheme = .special)
    (hs : cleaned s = front ++ List.replicate count '/') (hplain : u.query = none ∧ u.fragment = none) :
    ∃ dir closing, u.path.toList = dir ++ List.replicate closing '/' ∧
      ∀ t name, IsPathName name → cleaned t = front ++ '/' :: name →
        ∃ v, parse t = .ok v ∧ SameAuthority u v ∧ v.path.toList = dir ++ '/' :: name := by
  obtain ⟨rest, hends, hmarks, hpath, hlonger⟩ := exists_rest_of_slashes hparse hspecial hs
  have hrest := hmarks.mp hplain
  have hslash : ∀ c ∈ rest.head?, isSlash true c = true := by
    intro c hc
    have hc' := hrest c (List.mem_of_head? hc)
    simpa [endsAuthority, hc'.1, hc'.2] using hends c hc
  obtain ⟨dir, hdir, hname⟩ := exists_directory hslash
  obtain ⟨closing, hclosing⟩ := hdir count
  refine ⟨dir, closing, ?_, fun t name hpathName ht => ?_⟩
  · rw [hpath, splitTail_path_of_unmarked, hclosing]
    exact List.forall_mem_append.mpr ⟨hrest, forall_unmarked_slashes⟩
  · obtain ⟨v, hv, hsame, hvpath⟩ := hlonger t name ht
    refine ⟨v, hv, hsame, ?_⟩
    rw [hvpath, splitTail_path_of_unmarked, hname name hpathName]
    refine List.forall_mem_append.mpr ⟨hrest, List.forall_mem_cons.mpr ⟨by decide, ?_⟩⟩
    exact hpathName.unmarked

/-- What follows a URL with a query or a fragment leaves its path as it is. -/
theorem exists_same_path_of_parse (hparse : parse s = .ok u)
    (hspecial : SchemeKind.of u.scheme = .special)
    (hs : cleaned s = front ++ List.replicate count '/')
    (hmarked : ¬ (u.query = none ∧ u.fragment = none)) (ht : cleaned t = front ++ '/' :: tail) :
    ∃ v, parse t = .ok v ∧ SameAuthority u v ∧ v.path = u.path := by
  obtain ⟨rest, -, hmarks, hpath, hlonger⟩ := exists_rest_of_slashes hparse hspecial hs
  obtain ⟨v, hv, hsame, hvpath⟩ := hlonger t tail ht
  refine ⟨v, hv, hsame, ?_⟩
  rw [hvpath, hpath, splitTail_path_append_of_marked (mt hmarks.mpr hmarked),
    splitTail_path_append_of_marked (mt hmarks.mpr hmarked)]

end VulnProbe.Url
