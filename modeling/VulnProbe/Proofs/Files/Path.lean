import Mathlib.Tactic.Common
import VulnProbe.Files.Search
import VulnProbe.Proofs.Text.Pieces

namespace VulnProbe.Files

open Search (below isCurrent namesOf unrooted)

variable {path s : String} {cs front : List Char}

private theorem toList_eq_cons_unrooted (hroot : isAbsolute path = true) :
    path.toList = '/' :: unrooted path := by
  obtain ⟨rest, hrest⟩ := List.head?_eq_some_iff.mp (beq_iff_eq.mp hroot)
  rw [unrooted, if_pos hroot, hrest, List.drop_one, List.tail_cons]

private theorem toList_eq_unrooted (hroot : isAbsolute path = false) : path.toList = unrooted path := by
  rw [unrooted, hroot, if_neg Bool.false_ne_true]

/-- What has no slash does not start at the root. -/
theorem isAbsolute_eq_false (hs : '/' ∉ s.toList) : isAbsolute s = false := by
  refine beq_false_of_ne fun hhead => hs ?_
  exact List.mem_of_head? hhead

/-- A name that a directory can have for something in it. -/
structure IsName (s : String) : Prop where
  slash_free : '/' ∉ s.toList
  ne_empty : s ≠ ""
  ne_current : s ≠ "."
  ne_parent : s ≠ ".."

private theorem IsName.ofSegment?_eq (hname : IsName s) : PathPart.ofSegment? s = some (.name s) := by
  rw [PathPart.ofSegment?, if_neg (not_or.mpr ⟨hname.ne_empty, hname.ne_current⟩),
    if_neg hname.ne_parent]

private theorem pieces_eq_singleton (hs : '/' ∉ s.toList) : Text.pieces (· == '/') s.toList = [s.toList] :=
  Text.pieces_of_forall fun _ hc => beq_false_of_ne fun hslash => hs (hslash ▸ hc)

/-- What has no slash is a single segment. -/
theorem segments_eq_singleton (hs : '/' ∉ s.toList) : segments s = [s] := by
  rw [segments, pieces_eq_singleton hs]
  simp

/-- The slash between a path and a name that follows it, unless the path ends with one. -/
def gap (path : String) : List Char :=
  if path.toList.getLast? = some '/' then [] else ['/']

/-- A path followed by a name has a slash between them, unless it ends with one. -/
theorem toList_join (hs : '/' ∉ s.toList) (hpath : path ≠ "") :
    (join path s).toList = path.toList ++ gap path ++ s.toList := by
  rw [join, if_neg (by simp [isAbsolute_eq_false hs, hpath]), gap]
  simp only [beq_iff_eq]
  split
  · rw [String.toList_append, List.append_nil]
  · rw [String.toList_append, String.toList_append]
    rfl

/-- A name behind a path does not change where the path starts. -/
theorem isAbsolute_join (hs : '/' ∉ s.toList) (hpath : path ≠ "") :
    isAbsolute (join path s) = isAbsolute path := by
  obtain ⟨c, rest, hcons⟩ := List.exists_cons_of_ne_nil (mt String.toList_eq_nil_iff.mp hpath)
  rw [isAbsolute, isAbsolute, toList_join hs hpath, hcons]
  rfl

/-- A path with a name behind it is not empty. -/
theorem join_ne_empty (hs : '/' ∉ s.toList) (hpath : path ≠ "") : join path s ≠ "" := by
  rw [Ne, ← String.toList_eq_nil_iff, toList_join hs hpath]
  simp [hpath]

/-- A name behind a path comes behind what follows the slash of its root. -/
theorem unrooted_join (hs : '/' ∉ s.toList) (hpath : path ≠ "") :
    unrooted (join path s) = unrooted path ++ gap path ++ s.toList := by
  have hlist := toList_join hs hpath
  have hsame := isAbsolute_join hs hpath
  cases hroot : isAbsolute path with
  | true =>
    rw [toList_eq_cons_unrooted hroot, toList_eq_cons_unrooted (hsame.trans hroot)] at hlist
    exact List.tail_eq_of_cons_eq hlist
  | false =>
    rwa [toList_eq_unrooted hroot, toList_eq_unrooted (hsame.trans hroot)] at hlist

/-- The names of a path are made of its characters and hold no slash. -/
theorem mem_of_mem_namesOf {c : Char} (hs : s ∈ namesOf path) (hc : c ∈ s.toList) :
    c ∈ path.toList ∧ c ≠ '/' := by
  have hpiece : ∃ piece ∈ Text.pieces (· == '/') (unrooted path), s = String.ofList piece := by
    obtain ⟨piece, hpiece, rfl⟩ := List.mem_map.mp hs
    refine ⟨piece, ?_, rfl⟩
    split at hpiece
    · exact (List.dropLast_subset _) hpiece
    · exact hpiece
  obtain ⟨piece, hpiece, rfl⟩ := hpiece
  rw [String.toList_ofList] at hc
  obtain ⟨hc, hslash⟩ := Text.mem_of_mem_pieces hpiece hc
  refine ⟨?_, beq_eq_false_iff_ne.mp hslash⟩
  cases hroot : isAbsolute path with
  | true => rw [toList_eq_cons_unrooted hroot]; exact List.mem_cons_of_mem _ hc
  | false => rwa [toList_eq_unrooted hroot]

private theorem namesOf_of_concat_slash (hcs : unrooted path = front ++ ['/']) :
    namesOf path = (Text.pieces (· == '/') front).map String.ofList := by
  have hpieces : Text.pieces (· == '/') (unrooted path) = Text.pieces (· == '/') front ++ [[]] := by
    rw [hcs, Text.pieces_append_cons (p := (· == '/')) rfl]
    rfl
  simp only [namesOf, hpieces, List.getLast?_concat, beq_self_eq_true, if_true, List.dropLast_concat]

private theorem namesOf_of_open (hcs : ∃ c ∈ (unrooted path).getLast?, c ≠ '/') :
    namesOf path = (Text.pieces (· == '/') (unrooted path)).map String.ofList := by
  obtain ⟨c, hc, hslash⟩ := hcs
  have hlast := Text.getLast?_pieces_ne_nil (p := (· == '/')) hc (beq_false_of_ne hslash)
  simp only [namesOf, beq_eq_false_iff_ne.mpr hlast, Bool.false_eq_true, if_false]

/-- A path with the slash behind which a name would follow. -/
theorem unrooted_append_gap (hpath : path ≠ "") :
    (unrooted path ++ gap path = [] ∧ namesOf path = []) ∨
      ∃ front, unrooted path ++ gap path = front ++ ['/'] ∧
        namesOf path = (Text.pieces (· == '/') front).map String.ofList := by
  have hlast : unrooted path ≠ [] → path.toList.getLast? = (unrooted path).getLast? := by
    intro hne
    cases hroot : isAbsolute path with
    | true => rw [toList_eq_cons_unrooted hroot, List.getLast?_cons_of_ne_nil hne]
    | false => rw [toList_eq_unrooted hroot]
  obtain hcs | ⟨front, c, hcs⟩ := (unrooted path).eq_nil_or_concat
  · have hroot : isAbsolute path = true := by
      by_contra hrel
      rw [Bool.not_eq_true] at hrel
      exact hpath (String.toList_eq_nil_iff.mp ((toList_eq_unrooted hrel).trans hcs))
    have hgap : gap path = [] := by
      rw [gap, toList_eq_cons_unrooted hroot, hcs]
      rfl
    refine .inl ⟨by rw [hcs, hgap]; rfl, ?_⟩
    rw [namesOf, hcs]
    rfl
  · rw [List.concat_eq_append] at hcs
    have hc : (unrooted path).getLast? = some c := by rw [hcs, List.getLast?_concat]
    rw [gap, hlast (by simp [hcs]), hc]
    by_cases hslash : c = '/'
    · subst hslash
      exact .inr ⟨front, by rw [if_pos rfl, hcs, List.append_nil], namesOf_of_concat_slash hcs⟩
    · refine .inr ⟨unrooted path, by rw [if_neg (mt Option.some.inj hslash)], ?_⟩
      exact namesOf_of_open ⟨c, hc, hslash⟩

private theorem namesOf_of_unrooted_nil (hcs : unrooted path = []) : namesOf path = [] := by
  rw [namesOf, hcs]
  rfl

private theorem namesOf_join_empty (hpath : path ≠ "") : namesOf (join path "") = namesOf path := by
  have hjoin := unrooted_join (s := "") List.not_mem_nil hpath
  rw [String.toList_empty, List.append_nil] at hjoin
  obtain ⟨hnil, hnames⟩ | ⟨front, hfront, hnames⟩ := unrooted_append_gap hpath
  · rw [hnames, namesOf_of_unrooted_nil (hjoin.trans hnil)]
  · rw [hnames, namesOf_of_concat_slash (hjoin.trans hfront)]

/-- A path followed by a name has this name as its last, and the names before it are its own. -/
theorem namesOf_join (hs : '/' ∉ s.toList) (hne : s ≠ "") (hpath : path ≠ "") :
    namesOf (join path s) = namesOf path ++ [s] := by
  have hjoin := unrooted_join hs hpath
  have hopen : ∃ c ∈ (unrooted (join path s)).getLast?, c ≠ '/' := by
    obtain hnil | ⟨front, c, hconcat⟩ := s.toList.eq_nil_or_concat
    · exact absurd (String.toList_eq_nil_iff.mp hnil) hne
    · rw [List.concat_eq_append] at hconcat
      refine ⟨c, by rw [hjoin, hconcat, ← List.append_assoc, List.getLast?_concat]; rfl, ?_⟩
      rintro rfl
      exact hs (by simp [hconcat])
  rw [namesOf_of_open hopen, hjoin]
  obtain ⟨hnil, hnames⟩ | ⟨front, hfront, hnames⟩ := unrooted_append_gap hpath
  · rw [hnil, hnames, List.nil_append, pieces_eq_singleton hs]
    simp
  · rw [hfront, hnames, List.append_assoc, List.singleton_append,
      Text.pieces_append_cons (p := (· == '/')) rfl, pieces_eq_singleton hs]
    simp

/-- A path is its names behind the slash of the root and before the one at the end. -/
theorem segments_eq_append (path : String) :
    ∃ closing, (closing = [] ∨ closing = [""]) ∧ namesOf path ++ closing ≠ [] ∧
      segments path = (if isAbsolute path then [""] else []) ++ (namesOf path ++ closing) := by
  have hsegments : segments path = (if isAbsolute path then [""] else []) ++
      (Text.pieces (· == '/') (unrooted path)).map String.ofList := by
    cases hroot : isAbsolute path with
    | true => rw [segments, toList_eq_cons_unrooted hroot]; rfl
    | false => rw [segments, toList_eq_unrooted hroot]; rfl
  rw [hsegments, namesOf]
  by_cases hlast : (Text.pieces (· == '/') (unrooted path)).getLast? = some []
  · obtain ⟨front, hfront⟩ := List.getLast?_eq_some_iff.mp hlast
    exact ⟨[""], .inr rfl, by simp, by simp [hfront]⟩
  · exact ⟨[], .inl rfl, by simp [hlast, Text.pieces_ne_nil], by simp [hlast]⟩

/-- The slash at the end of a path comes before the name that follows it. -/
theorem exists_segments_join (hs : '/' ∉ s.toList) (hpath : path ≠ "") :
    ∃ front closing, (closing = [] ∨ closing = [""]) ∧ segments path = front ++ closing ∧
      segments (join path s) = front ++ [s] := by
  have hjoin := toList_join hs hpath
  have hlast : (Text.pieces (· == '/') s.toList).map String.ofList = [s] := segments_eq_singleton hs
  rw [gap] at hjoin
  split at hjoin
  · rename_i hslash
    obtain ⟨front, hfront⟩ := List.getLast?_eq_some_iff.mp hslash
    refine ⟨(Text.pieces (· == '/') front).map String.ofList, [""], .inr rfl, ?_, ?_⟩
    · rw [segments, hfront, Text.pieces_append_cons (p := (· == '/')) rfl, List.map_append]
      rfl
    · rw [segments, hjoin, hfront, List.append_nil, List.append_assoc, List.singleton_append,
        Text.pieces_append_cons (p := (· == '/')) rfl, List.map_append, hlast]
  · refine ⟨segments path, [], .inl rfl, by rw [List.append_nil], ?_⟩
    rw [segments, hjoin, List.append_assoc, List.singleton_append,
      Text.pieces_append_cons (p := (· == '/')) rfl, List.map_append, hlast, segments]

/-- The names of a path that does not start at the root start with one that is not empty. -/
theorem exists_namesOf_eq_cons (hpath : path ≠ "") (hroot : isAbsolute path = false) :
    ∃ first rest, namesOf path = first :: rest ∧ first ≠ "" := by
  obtain ⟨c, cs, hcons⟩ := List.exists_cons_of_ne_nil (mt String.toList_eq_nil_iff.mp hpath)
  have hc : (c == '/') = false := by
    rwa [isAbsolute, hcons] at hroot
  obtain ⟨first, rest, hpieces⟩ := Text.exists_pieces_cons (p := (· == '/')) hc cs
  have hne : String.ofList (c :: first) ≠ "" :=
    mt String.ofList_eq_empty_iff.mp (List.cons_ne_nil c first)
  rw [namesOf, ← toList_eq_unrooted hroot, hcons, hpieces]
  cases rest with
  | nil => exact ⟨_, [], rfl, hne⟩
  | cons second rest =>
    split
    · exact ⟨_, _, rfl, hne⟩
    · exact ⟨_, _, rfl, hne⟩

private theorem filterMap_singleton_ofSegment? (s : String) :
    [s].filterMap PathPart.ofSegment? = (PathPart.ofSegment? s).toList := by
  rw [List.filterMap_cons, List.filterMap_nil]
  cases PathPart.ofSegment? s <;> rfl

private theorem ofSegment?_ne_current (s : String) : PathPart.ofSegment? s ≠ some .current := by
  rw [PathPart.ofSegment?]
  split_ifs <;> simp

private theorem parts_eq_append (hpath : path ≠ "") :
    parts path = (if isAbsolute path then [PathPart.root]
      else if (namesOf path).head? = some "." then [PathPart.current] else []) ++
        (namesOf path).filterMap PathPart.ofSegment? := by
  obtain ⟨closing, hclosing, hne, hsegments⟩ := segments_eq_append path
  have hnamed : (segments path).filterMap PathPart.ofSegment? =
      (namesOf path).filterMap PathPart.ofSegment? := by
    rw [hsegments]
    obtain rfl | rfl := hclosing <;> cases isAbsolute path <;> simp [PathPart.ofSegment?]
  rw [parts, hnamed]
  cases hroot : isAbsolute path with
  | true =>
    obtain ⟨second, rest, hrest⟩ := List.exists_cons_of_ne_nil hne
    rw [hsegments, hroot, hrest]
    rfl
  | false =>
    obtain ⟨first, rest, hnames, hfirst⟩ := exists_namesOf_eq_cons hpath hroot
    rw [hsegments, hroot, hnames]
    simp only [Bool.false_eq_true, if_false, List.nil_append, List.cons_append, List.head?_cons,
      Option.some.injEq]
    split
    · rename_i heq
      exact absurd (List.cons.inj heq).1 hfirst
    · rename_i heq
      rw [if_pos (List.cons.inj heq).1]
      rfl
    · rename_i hcurrent
      rw [if_neg fun hfirst => hcurrent _ (by rw [hfirst])]
      rfl

/-- A name of a path that follows another one is its last part. -/
theorem parts_join (hs : '/' ∉ s.toList) (hpath : path ≠ "") :
    parts (join path s) = parts path ++ (PathPart.ofSegment? s).toList := by
  rw [parts_eq_append hpath, parts_eq_append (join_ne_empty hs hpath), isAbsolute_join hs hpath]
  by_cases hempty : s = ""
  · subst hempty
    rw [namesOf_join_empty hpath]
    simp [PathPart.ofSegment?]
  · rw [namesOf_join hs hempty hpath, List.filterMap_append, filterMap_singleton_ofSegment?,
      List.append_assoc]
    cases hroot : isAbsolute path with
    | true => rfl
    | false =>
      obtain ⟨first, rest, hnames, -⟩ := exists_namesOf_eq_cons hpath hroot
      rw [hnames]
      rfl

private theorem parts_ne_nil (hpath : path ≠ "") : parts path ≠ [] := by
  rw [parts_eq_append hpath]
  cases hroot : isAbsolute path with
  | true => simp
  | false =>
    obtain ⟨first, rest, hnames, hfirst⟩ := exists_namesOf_eq_cons hpath hroot
    rw [hnames]
    by_cases hdot : first = "."
    · simp [hdot]
    · have hpart : (PathPart.ofSegment? first).isSome = true := by
        rw [PathPart.ofSegment?, if_neg (by simp [hfirst, hdot])]
        split <;> rfl
      obtain ⟨part, hpart⟩ := Option.isSome_iff_exists.mp hpart
      simp [hdot, hpart]

private theorem parts_eq_singleton (hs : '/' ∉ s.toList) :
    parts s = if s = "." then [.current] else (PathPart.ofSegment? s).toList := by
  rw [parts, segments_eq_singleton hs, filterMap_singleton_ofSegment?]
  split
  · rename_i heq
    cases heq
  · rename_i heq
    obtain rfl := (List.cons.inj heq).1
    rfl
  · rename_i hcurrent
    rw [if_neg fun hdot => hcurrent [] (by rw [hdot])]

private theorem isCurrent_eq_beq (hs : '/' ∉ s.toList) : isCurrent s = (s == ".") := by
  rw [isCurrent, parts_eq_singleton hs]
  by_cases hdot : s = "."
  · rw [if_pos hdot, hdot]
    rfl
  · rw [if_neg hdot, beq_false_of_ne hdot]
    refine beq_false_of_ne fun hpart => ofSegment?_ne_current s ?_
    exact Option.toList_eq_singleton_iff.mp hpart

/-- Only the mark of the current directory below a path of that directory leads to it again. -/
theorem isCurrent_below (hs : '/' ∉ s.toList) (hpath : path ≠ "") :
    isCurrent (below path s) = (isCurrent path && s == ".") := by
  cases hcurrent : isCurrent path with
  | true => rw [below, if_pos hcurrent, isCurrent_eq_beq hs, Bool.true_and]
  | false =>
    rw [below, hcurrent, if_neg Bool.false_ne_true, Bool.false_and]
    refine beq_false_of_ne fun hparts => ?_
    rw [parts_join hs hpath] at hparts
    obtain ⟨part, rest, hcons⟩ := List.exists_cons_of_ne_nil (parts_ne_nil hpath)
    rw [hcons, List.cons_append, List.cons.injEq, List.append_eq_nil_iff] at hparts
    obtain ⟨rfl, rfl, -⟩ := hparts
    exact beq_eq_false_iff_ne.mp hcurrent hcons

/-- The names below a path are told by their last part. -/
theorem parts_below (hname : IsName s) (hpath : path ≠ "") :
    parts (below path s) = (if isCurrent path then [] else parts path) ++ [PathPart.name s] := by
  rw [below]
  split
  · rw [parts_eq_singleton hname.slash_free, if_neg hname.ne_current, hname.ofSegment?_eq]
    rfl
  · rw [parts_join hname.slash_free hpath, hname.ofSegment?_eq]
    rfl

end VulnProbe.Files
