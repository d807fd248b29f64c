import VulnProbe.Proofs.Files.Disk
import VulnProbe.Proofs.Files.Pattern

namespace VulnProbe.Files

namespace Search

variable {disk : Disk} {path s : String} {place place' names : List String}
  {inner : List (String × Entry)} {ending : List Char}

private theorem exists_of_follow_singleton (hs : s ≠ "..") (hfollow : disk.follow place [s] = .ok place') :
    ∃ entry, entryAt? place' disk.entries = some entry := by
  obtain ⟨entries, hentry⟩ := Disk.exists_of_follow_cons hfollow
  rw [Disk.follow_of_directory hentry, if_neg hs] at hfollow
  split at hfollow
  · obtain rfl := Except.ok.inj hfollow
    exact ⟨_, hentry⟩
  · split at hfollow
    · rename_i hcontains
      obtain rfl := Except.ok.inj hfollow
      rw [Disk.entryAt?_concat hentry]
      exact Option.isSome_iff_exists.mp hcontains
    · cases hfollow

/-- A name without special characters is looked up. -/
theorem under_literal (hstands : disk.Stands path place) (hs : '/' ∉ s.toList)
    (hempty : isCurrent path = true → s ≠ "") (hfollow : disk.follow place [s] = .ok place')
    (fuel : Nat) (rest : List Pattern) :
    under disk (fuel + 1) (Pattern.literal s.toList :: rest) path =
      under disk fuel rest (below path s) := by
  have hthere : (if s = "." ∨ s = ".." then disk.isDirectory path
      else disk.exists? (below path s)) = true := by
    split
    · obtain ⟨entries, hentry⟩ := Disk.exists_of_follow_cons hfollow
      rw [Disk.isDirectory, hstands.find_eq_ok_iff.mpr hentry]
    · rename_i hmark
      obtain ⟨entry, hentry⟩ := exists_of_follow_singleton (not_or.mp hmark).2 hfollow
      rw [Disk.exists?, (hstands.below hs hempty hfollow).find_eq_ok_iff.mpr hentry]
  rw [under, Pattern.literal?_literal, String.ofList_toList]
  dsimp only
  rw [if_pos hthere]

/-- Names on the way to a place are looked up one after another. From the current directory, marks of it
    must not be followed by an empty name. -/
theorem exists_under_literals (hstands : disk.Stands path place) (hnames : ∀ s ∈ names, '/' ∉ s.toList)
    (hway : isCurrent path = true → (names.dropWhile (· == ".")).head? ≠ some "")
    (hfollow : disk.follow place names = .ok place') :
    ∃ dir, disk.Stands dir place' ∧ ∀ fuel rest,
      under disk (names.length + fuel) (names.map (Pattern.literal ·.toList) ++ rest) path =
        under disk fuel rest dir := by
  induction names generalizing path place with
  | nil =>
    rw [Disk.follow_nil] at hfollow
    obtain rfl := Except.ok.inj hfollow
    exact ⟨path, hstands, fun fuel rest => by simp⟩
  | cons s names ih =>
    have hs := hnames s List.mem_cons_self
    have hempty : isCurrent path = true → s ≠ "" := by
      rintro hcurrent rfl
      exact hway hcurrent rfl
    obtain ⟨next, hnext, hrest⟩ := Disk.exists_follow_of_cons hfollow
    have hway' : isCurrent (below path s) = true → (names.dropWhile (· == ".")).head? ≠ some "" := by
      intro hcurrent
      rw [isCurrent_below hs hstands.ne_empty, Bool.and_eq_true] at hcurrent
      have hway := hway hcurrent.1
      rwa [List.dropWhile_cons, if_pos hcurrent.2] at hway
    obtain ⟨dir, hdir, hunder⟩ := ih (hstands.below hs hempty hnext)
      (fun t ht => hnames t (List.mem_cons_of_mem s ht)) hway' hrest
    refine ⟨dir, hdir, fun fuel rest => ?_⟩
    rw [List.length_cons, Nat.succ_add, List.map_cons, List.cons_append,
      under_literal hstands hs hempty hnext, hunder]

private theorem flatMap_ite_eq_map_filter {α β : Type} (p : α → Bool) (f : α → β) (l : List α) :
    (l.flatMap fun a => if p a then [f a] else []) = (l.filter p).map f := by
  induction l with
  | nil => rfl
  | cons a l ih =>
    rw [List.flatMap_cons, ih, List.filter_cons]
    split <;> rfl

/-- The pattern at the end is matched with the names in the directory. -/
theorem under_endingWith (hstands : disk.Stands path place)
    (hentry : entryAt? place disk.entries = some (.directory inner)) (fuel : Nat) :
    under disk (fuel + 3) [Pattern.endingWith ending] path =
      ((inner.map (·.1)).filter (Pattern.accepts (.endingWith ending) ·.toList)).map (below path) := by
  have hdirectory := hstands.find_eq_ok_iff.mpr hentry
  have hnames : disk.names path = inner.map (·.1) := by rw [Disk.names, hdirectory]
  have hmarks : marks (Pattern.endingWith ending) = [] := rfl
  have hplain : Pattern.isDirectories (.endingWith ending) = false := by
    simp [Pattern.isDirectories, Pattern.endingWith, Pattern.literal]
  have hvisit : ∀ name, visit disk (fuel + 2) (.endingWith ending) [] (below path name) name =
      if Pattern.accepts (.endingWith ending) name.toList then [below path name] else [] := by
    intro name
    rw [visit, hplain, if_neg Bool.false_ne_true, under]
    omega
  rw [under, Pattern.literal?_endingWith]
  simp only [hnames, hmarks, hvisit, List.flatMap_nil, ite_self, List.append_nil]
  exact flatMap_ite_eq_map_filter _ _ _

private theorem mapM_parse_literal {names : List String} (hnames : ∀ s ∈ names, ∀ c ∈ s.toList, IsLiteral c) :
    names.mapM Pattern.parse = .ok (names.map (Pattern.literal ·.toList)) := by
  induction names with
  | nil => rfl
  | cons s names ih =>
    rw [List.mapM_cons, Pattern.parse_literal (hnames s List.mem_cons_self),
      ih fun t ht => hnames t (List.mem_cons_of_mem s ht)]
    rfl

/-- What is searched for a star and an ending behind the path of a directory. -/
theorem parse_join (hpath : path ≠ "") (hliteral : ∀ c ∈ path.toList, IsLiteral c)
    (hs : s.toList = '*' :: ending) (hending : ∀ c ∈ ending, IsLiteral c ∧ c ≠ '/') :
    parse (join path s) = .ok {
      start := if isAbsolute path then "/" else "."
      patterns := (namesOf path).map (Pattern.literal ·.toList) ++ [Pattern.endingWith ending]
      wantsDirectory := false } := by
  have hslash : '/' ∉ s.toList := by
    rw [hs, List.mem_cons, not_or]
    exact ⟨by decide, fun hmem => (hending _ hmem).2 rfl⟩
  have hne : s ≠ "" := by
    rintro rfl
    cases hs
  have hjoin := toList_join hslash hpath
  have hgap : ∀ c ∈ gap path, IsLiteral c := by
    rw [gap]
    split
    · exact List.forall_mem_nil _
    · exact List.forall_mem_singleton.mpr (by decide)
  obtain ⟨p, hwhole⟩ : ∃ p, Pattern.parse (join path s) = .ok p := by
    rw [hs] at hjoin
    exact ⟨_, Pattern.parse_star hjoin (List.forall_mem_append.mpr ⟨hliteral, hgap⟩)
      fun c hc => (hending c hc).1⟩
  have hnames : (namesOf path).mapM Pattern.parse = .ok ((namesOf path).map (Pattern.literal ·.toList)) :=
    mapM_parse_literal fun t ht c hc => hliteral c (mem_of_mem_namesOf ht hc).1
  have hlast : Pattern.parse s = .ok (Pattern.endingWith ending) :=
    Pattern.parse_star hs (List.forall_mem_nil _) fun c hc => (hending c hc).1
  have hopen : (unrooted (join path s)).isEmpty = false := by
    rw [unrooted_join hslash hpath, hs]
    simp
  have hdirectory : ((join path s).toList.getLast? == some '/') = false := by
    refine beq_false_of_ne fun hlast => hslash ?_
    rw [hjoin, List.getLast?_append, Option.or_of_isSome (by simp [hs])] at hlast
    exact List.mem_of_getLast? hlast
  rw [parse, hwhole, namesOf_join hslash hne hpath, List.mapM_append, hnames, hopen, hdirectory,
    isAbsolute_join hslash hpath, List.mapM_cons, hlast]
  rfl

/-- The fuel of a search is enough for its names and what is found behind them. -/
theorem exists_fuel_eq (count height : Nat) :
    ∃ fuel, (count + 1 + 1) * (2 * height + 4) = count + (fuel + 3) := by
  have hle : count + 3 ≤ (count + 1 + 1) * (2 * height + 4) :=
    calc count + 3 ≤ (count + 1 + 1) * 2 := by omega
      _ ≤ (count + 1 + 1) * (2 * height + 4) := Nat.mul_le_mul_left _ (by omega)
  obtain ⟨fuel, hfuel⟩ := Nat.exists_eq_add_of_le hle
  exact ⟨fuel, by rw [hfuel, Nat.add_assoc, Nat.add_comm 3]⟩

end Search

/-- A path whose characters all stand for themselves in a pattern, and whose names can be looked up one
    after another: no empty one follows the marks of the current directory at its start. -/
structure IsPlain (path : String) : Prop where
  literal : ∀ c ∈ path.toList, IsLiteral c
  keepsWay : isAbsolute path = false →
    ((Search.namesOf path).dropWhile (· == ".")).head? ≠ some ""

/-- A search for a star and an ending behind the path of a directory finds the names in that directory
    which end so, each below one path of the directory. -/
theorem exists_search_eq {disk : Disk} {path : String} {inner : List (String × Entry)}
    (hplain : IsPlain path) (hfind : disk.find path = .ok (.directory inner)) :
    ∃ dir place, disk.Stands dir place ∧ entryAt? place disk.entries = some (.directory inner) ∧
      ∀ s ending, s.toList = '*' :: ending → (∀ c ∈ ending, IsLiteral c ∧ c ≠ '/') →
        disk.search (join path s) = .ok
          (((inner.map (·.1)).filter (Pattern.accepts (.endingWith ending) ·.toList)).map
            (Search.below dir)) := by
  obtain ⟨first, place, hstart, hfollow, hentry⟩ := Disk.exists_stands_start hfind
  have hway : Search.isCurrent (if isAbsolute path then "/" else ".") = true →
      ((Search.namesOf path).dropWhile (· == ".")).head? ≠ some "" := by
    cases hroot : isAbsolute path with
    | true => exact fun hcurrent => absurd hcurrent (by decide)
    | false => exact fun _ => hplain.keepsWay hroot
  obtain ⟨dir, hdir, hunder⟩ := Search.exists_under_literals hstart
    (fun s hs hslash => (mem_of_mem_namesOf hs hslash).2 rfl) hway hfollow
  refine ⟨dir, place, hdir, hentry, fun s ending hs hending => ?_⟩
  have hne : path ≠ "" := (Disk.find_eq_ok_iff.mp hfind).1
  obtain ⟨fuel, hfuel⟩ := Search.exists_fuel_eq (Search.namesOf path).length (entriesHeight disk.entries)
  rw [Disk.search, Search.parse_join hne hplain.literal hs hending]
  change Except.ok (Search.under disk ((((Search.namesOf path).map _ ++ [_]).length + 1) * _) _ _) = _
  rw [List.length_append, List.length_map, List.length_singleton, hfuel, hunder,
    Search.under_endingWith hdir hentry]

end VulnProbe.Files
