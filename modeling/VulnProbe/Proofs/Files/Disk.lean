import VulnProbe.Proofs.Files.Path

namespace VulnProbe.Files

namespace Disk

variable {disk : Disk} {path s : String} {place place' names : List String}
  {entries inner : List (String × Entry)}

/-- A name below the place of a directory leads to what the directory has under it. -/
theorem entryAt?_concat {root : Dict Entry} (hplace : entryAt? place root = some (.directory inner))
    (s : String) : entryAt? (place ++ [s]) root = Dict.get? s inner := by
  induction place generalizing root with
  | nil =>
    cases hplace
    rfl
  | cons name place ih =>
    cases place with
    | nil =>
      rw [entryAt?] at hplace
      rw [List.cons_append, List.nil_append, entryAt?, hplace]
      · rfl
      · simp
    | cons second place =>
      rw [entryAt?] at hplace
      · rw [List.cons_append, entryAt?]
        · split at hplace
          · exact ih hplace
          · cases hplace
        · simp
      · simp

/-- Without names one stays where one is. -/
theorem follow_nil : disk.follow place [] = .ok place := by
  rw [follow]

/-- A path leads on only from a directory. -/
theorem exists_of_follow_cons {rest : List String} (hfollow : disk.follow place (s :: rest) = .ok place') :
    ∃ entries, entryAt? place disk.entries = some (.directory entries) := by
  rw [follow] at hfollow
  split at hfollow
  · rename_i entries hentry
    exact ⟨entries, hentry⟩
  · cases hfollow
  · cases hfollow

private theorem follow_append (disk : Disk) (place names rest : List String) :
    disk.follow place (names ++ rest) = (disk.follow place names).bind fun p => disk.follow p rest := by
  induction names generalizing place with
  | nil => rw [follow_nil]; rfl
  | cons s names ih =>
    rw [List.cons_append, follow, follow]
    split
    · split
      · exact ih place
      · split
        · exact ih _
        · split
          · exact ih _
          · rfl
    · rfl
    · rfl

/-- Names that lead somewhere do so one after another. -/
theorem exists_follow_of_cons (hfollow : disk.follow place (s :: names) = .ok place') :
    ∃ next, disk.follow place [s] = .ok next ∧ disk.follow next names = .ok place' := by
  rw [← List.singleton_append, follow_append] at hfollow
  cases hnext : disk.follow place [s] with
  | error issue => rw [hnext] at hfollow; cases hfollow
  | ok next => rw [hnext] at hfollow; exact ⟨next, rfl, hfollow⟩

private theorem follow_append_of_ok (hnames : disk.follow place names = .ok place') (rest : List String) :
    disk.follow place (names ++ rest) = disk.follow place' rest := by
  rw [follow_append, hnames]
  rfl

/-- What one name leads to from a directory: the marks for the same and for the upper directory need not
    be among its entries, any other name does. -/
theorem follow_of_directory (hentry : entryAt? place disk.entries = some (.directory entries)) (s : String) :
    disk.follow place [s] =
      if s = "" ∨ s = "." then .ok place
      else if s = ".." then .ok place.dropLast
      else if Dict.contains s entries then .ok (place ++ [s])
      else .error .notFound := by
  rw [follow, hentry]
  simp only [follow_nil]

/-- The slash at the end of a path leads nowhere else. -/
theorem follow_of_closing {closing : List String} (hclosing : closing = [] ∨ closing = [""])
    (hfollow : disk.follow place (names ++ closing) = .ok place') :
    disk.follow place names = .ok place' := by
  obtain rfl | rfl := hclosing
  · rwa [List.append_nil] at hfollow
  rw [follow_append] at hfollow
  cases hnames : disk.follow place names with
  | error issue => rw [hnames] at hfollow; cases hfollow
  | ok p =>
    rw [hnames] at hfollow
    obtain ⟨entries, hentry⟩ := exists_of_follow_cons (hfollow : disk.follow p [""] = .ok place')
    have hsame := (follow_of_directory hentry "").symm.trans hfollow
    rwa [if_pos (.inl rfl)] at hsame

private theorem find_of_follow (hpath : path ≠ "")
    (hfollow : disk.follow (disk.origin path) (segments path) = .ok place) :
    disk.find path = (entryAt? place disk.entries).elim (.error .notFound) .ok := by
  rw [find, if_neg hpath, hfollow]
  dsimp only [bind, Except.bind]
  cases entryAt? place disk.entries <;> rfl

/-- A path leads to an entry if it has names at all and following them from where the path starts leads
    to its place. -/
theorem find_eq_ok_iff {entry : Entry} : disk.find path = .ok entry ↔
    path ≠ "" ∧ ∃ place, disk.follow (disk.origin path) (segments path) = .ok place ∧
      entryAt? place disk.entries = some entry := by
  constructor
  · intro hfind
    have hpath : path ≠ "" := by
      rintro rfl
      cases hfind
    cases hfollow : disk.follow (disk.origin path) (segments path) with
    | error issue =>
      rw [find, if_neg hpath, hfollow] at hfind
      cases hfind
    | ok place =>
      rw [find_of_follow hpath hfollow] at hfind
      cases hentry : entryAt? place disk.entries with
      | none => rw [hentry] at hfind; cases hfind
      | some found =>
        rw [hentry] at hfind
        exact ⟨hpath, place, rfl, hentry.trans (congrArg some (Except.ok.inj hfind))⟩
  · rintro ⟨hpath, place, hfollow, hentry⟩
    rw [find_of_follow hpath hfollow, hentry]
    rfl

/-- A path that leads to a place of the disk. A path of the current directory leads to where paths
    without a root start. -/
structure Stands (disk : Disk) (path : String) (place : List String) : Prop where
  ne_empty : path ≠ ""
  follow_eq : disk.follow (disk.origin path) (segments path) = .ok place
  current_eq : Search.isCurrent path = true → place = disk.workingDirectory

variable {entry : Entry}

/-- Looking for a path is looking at the place that it leads to. -/
theorem Stands.find_eq_ok_iff (hstands : disk.Stands path place) :
    disk.find path = .ok entry ↔ entryAt? place disk.entries = some entry := by
  rw [Disk.find_eq_ok_iff]
  constructor
  · rintro ⟨-, place', hfollow, hentry⟩
    cases hstands.follow_eq.symm.trans hfollow
    exact hentry
  · intro hentry
    exact ⟨hstands.ne_empty, place, hstands.follow_eq, hentry⟩

private theorem follow_join (hpath : path ≠ "")
    (hfollow : disk.follow (disk.origin path) (segments path) = .ok place) (hs : '/' ∉ s.toList) :
    disk.follow (disk.origin (join path s)) (segments (join path s)) = disk.follow place [s] := by
  obtain ⟨front, closing, hclosing, hsegments, hjoined⟩ := exists_segments_join hs hpath
  rw [hsegments] at hfollow
  have hfront := follow_of_closing hclosing hfollow
  rw [origin, isAbsolute_join hs hpath, ← origin, hjoined, follow_append_of_ok hfront]

private theorem follow_below (hstands : disk.Stands path place) (hs : '/' ∉ s.toList) :
    disk.follow (disk.origin (Search.below path s)) (segments (Search.below path s)) =
      disk.follow place [s] := by
  cases hcurrent : Search.isCurrent path with
  | true =>
    rw [Search.below, if_pos hcurrent, origin, isAbsolute_eq_false hs, if_neg Bool.false_ne_true,
      segments_eq_singleton hs, hstands.current_eq hcurrent]
  | false =>
    rw [Search.below, hcurrent, if_neg Bool.false_ne_true,
      follow_join hstands.ne_empty hstands.follow_eq hs]

/-- A name below a path leads to where it leads from the place of the path. -/
theorem Stands.below (hstands : disk.Stands path place) (hs : '/' ∉ s.toList)
    (hempty : Search.isCurrent path = true → s ≠ "") (hfollow : disk.follow place [s] = .ok place') :
    disk.Stands (Search.below path s) place' where
  ne_empty := by
    rw [Search.below]
    split
    · rename_i hcurrent
      exact hempty hcurrent
    · exact join_ne_empty hs hstands.ne_empty
  follow_eq := (follow_below hstands hs).trans hfollow
  current_eq := by
    intro hcurrent
    rw [isCurrent_below hs hstands.ne_empty, Bool.and_eq_true, beq_iff_eq] at hcurrent
    obtain ⟨hcurrent, rfl⟩ := hcurrent
    obtain ⟨entries, hentry⟩ := exists_of_follow_cons hfollow
    rw [follow_of_directory hentry, if_pos (.inr rfl)] at hfollow
    rw [← Except.ok.inj hfollow, hstands.current_eq hcurrent]

/-- What a name leads to from a directory. -/
theorem find_of_follow_eq {next : String} (hne : next ≠ "") (hname : IsName s)
    (hnext : disk.follow (disk.origin next) (segments next) = disk.follow place [s])
    (hplace : entryAt? place disk.entries = some (.directory inner)) :
    disk.find next = (Dict.get? s inner).elim (.error .notFound) .ok := by
  rw [follow_of_directory hplace, if_neg (not_or.mpr ⟨hname.ne_empty, hname.ne_current⟩),
    if_neg hname.ne_parent, Dict.contains] at hnext
  cases hget : Dict.get? s inner with
  | none =>
    rw [hget] at hnext
    rw [find, if_neg hne, hnext]
    rfl
  | some entry =>
    rw [hget] at hnext
    rw [find_of_follow hne hnext, entryAt?_concat hplace, hget]

/-- Below a path that leads to a directory, a name is found exactly if the directory has it. -/
theorem Stands.find_below (hstands : disk.Stands path place) (hname : IsName s)
    (hplace : entryAt? place disk.entries = some (.directory inner)) :
    disk.find (Search.below path s) = (Dict.get? s inner).elim (.error .notFound) .ok := by
  refine find_of_follow_eq ?_ hname (follow_below hstands hname.slash_free) hplace
  rw [Search.below]
  split
  · exact hname.ne_empty
  · exact join_ne_empty hname.slash_free hstands.ne_empty

/-- What a name behind the path of a directory leads to. -/
theorem find_join (hfind : disk.find path = .ok (.directory inner)) (hname : IsName s) :
    disk.find (join path s) = (Dict.get? s inner).elim (.error .notFound) .ok := by
  obtain ⟨hpath, place, hfollow, hplace⟩ := find_eq_ok_iff.mp hfind
  exact find_of_follow_eq (join_ne_empty hname.slash_free hpath) hname
    (follow_join hpath hfollow hname.slash_free) hplace

private theorem follow_root (disk : Disk) : disk.follow [] [""] = .ok [] :=
  follow_of_directory rfl ""

private theorem stands_root (disk : Disk) : disk.Stands "/" [] where
  ne_empty := by decide
  follow_eq := by
    have hsegments : segments "/" = [""] ++ [""] := rfl
    rw [hsegments, origin, if_pos (by decide), follow_append_of_ok (follow_root disk), follow_root]
  current_eq := by
    intro hcurrent
    cases hcurrent

private theorem stands_current
    (hentry : entryAt? disk.workingDirectory disk.entries = some (.directory entries)) :
    disk.Stands "." disk.workingDirectory where
  ne_empty := by decide
  follow_eq := by
    rw [segments_eq_singleton (by decide), origin, if_neg (by decide),
      follow_of_directory hentry, if_pos (.inr rfl)]
  current_eq := fun _ => rfl

/-- A path to a directory is followed by its names, from the root or from the current directory. -/
theorem exists_stands_start (hfind : disk.find path = .ok (.directory inner)) :
    ∃ first place, disk.Stands (if isAbsolute path then "/" else ".") first ∧
      disk.follow first (Search.namesOf path) = .ok place ∧
      entryAt? place disk.entries = some (.directory inner) := by
  obtain ⟨hpath, place, hfollow, hplace⟩ := find_eq_ok_iff.mp hfind
  obtain ⟨closing, hclosing, hne, hsegments⟩ := segments_eq_append path
  rw [hsegments, origin] at hfollow
  cases hroot : isAbsolute path with
  | true =>
    rw [hroot, if_pos rfl, if_pos rfl, follow_append_of_ok (follow_root disk)] at hfollow
    exact ⟨[], place, stands_root disk, follow_of_closing hclosing hfollow, hplace⟩
  | false =>
    rw [hroot, if_neg Bool.false_ne_true, if_neg Bool.false_ne_true, List.nil_append] at hfollow
    obtain ⟨first, rest, hcons⟩ := List.exists_cons_of_ne_nil hne
    obtain ⟨entries, hentry⟩ := exists_of_follow_cons (hcons ▸ hfollow)
    exact ⟨disk.workingDirectory, place, stands_current hentry, follow_of_closing hclosing hfollow,
      hplace⟩

end Disk

end VulnProbe.Files
