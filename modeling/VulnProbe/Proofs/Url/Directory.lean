import Mathlib.Data.List.TakeWhile
import Mathlib.Tactic.Common
import VulnProbe.Proofs.Text.Pieces
import VulnProbe.Url.Parser

namespace VulnProbe.Url

variable {cs rest tail name : List Char} {done segments : List (List Char)}

/-- The segments, in reverse, of the directory in which the segments of a path leave off. -/
def directory (done : List (List Char)) : List (List Char) → List (List Char)
  | [] => done
  | s :: rest =>
    directory (if isDoubleDot s then shorten done else if isSingleDot s then done else s :: done) rest

/-- A segment that stands for itself. -/
def IsPlainSegment (s : List Char) : Prop :=
  isDoubleDot s = false ∧ isSingleDot s = false

private theorem isPlainSegment_nil : IsPlainSegment [] :=
  ⟨rfl, rfl⟩

/-- Segments that others follow are resolved to the directory in which they leave off. -/
theorem resolveDots_append_cons (done segments : List (List Char)) (s : List Char)
    (rest : List (List Char)) :
    resolveDots false done (segments ++ s :: rest) =
      resolveDots false (directory done segments) (s :: rest) := by
  induction segments generalizing done with
  | nil => rfl
  | cons t segments ih =>
    have hmore : (segments ++ s :: rest).isEmpty = false := by simp
    rw [List.cons_append, resolveDots, hmore, directory]
    simp only [Bool.false_eq_true, if_false, Bool.false_and]
    split
    · exact ih _
    · split
      · exact ih _
      · exact ih _

private theorem resolveDots_singleton {s : List Char} (hs : IsPlainSegment s) (done : List (List Char)) :
    resolveDots false done [s] = done.reverse ++ [s] := by
  rw [resolveDots, hs.1, hs.2]
  simp only [Bool.false_eq_true, if_false, Bool.false_and]
  rw [resolveDots, List.reverse_cons]

private theorem resolveDots_replicate (done : List (List Char)) (count : Nat) :
    resolveDots false done (List.replicate count []) = done.reverse ++ List.replicate count [] := by
  induction count generalizing done with
  | zero => rw [List.replicate_zero, resolveDots, List.append_nil]
  | succ count ih =>
    rw [List.replicate_succ, resolveDots, isPlainSegment_nil.1, isPlainSegment_nil.2]
    simp only [Bool.false_eq_true, if_false, Bool.false_and]
    rw [ih, List.reverse_cons, List.append_assoc, List.singleton_append]

private theorem directory_append (done segments more : List (List Char)) :
    directory done (segments ++ more) = directory (directory done segments) more := by
  induction segments generalizing done with
  | nil => rfl
  | cons s segments ih => rw [List.cons_append, directory, directory, ih]

/-- The last segment is put into the directory, or an empty one if it stands for a directory itself. -/
theorem exists_resolveDots_eq (done : List (List Char)) (hne : segments ≠ []) :
    ∃ count, resolveDots false done segments =
      (directory done segments).reverse ++ List.replicate count [] := by
  obtain hnil | ⟨front, s, hconcat⟩ := segments.eq_nil_or_concat
  · exact absurd hnil hne
  rw [hconcat, List.concat_eq_append, resolveDots_append_cons, directory_append, directory, directory]
  cases hdouble : isDoubleDot s with
  | true =>
    refine ⟨1, ?_⟩
    simp [resolveDots, hdouble]
  | false =>
    cases hsingle : isSingleDot s with
    | true =>
      refine ⟨1, ?_⟩
      simp [resolveDots, hdouble, hsingle]
    | false =>
      refine ⟨0, ?_⟩
      rw [resolveDots_singleton ⟨hdouble, hsingle⟩]
      simp

/-- The text of a path with some segments. -/
def pathText (segments : List (List Char)) : List Char :=
  segments.flatMap fun s => '/' :: (Escape.escape Escape.inPath s).toList

private theorem pathText_append (segments more : List (List Char)) :
    pathText (segments ++ more) = pathText segments ++ pathText more :=
  List.flatMap_append

private theorem pathText_replicate (count : Nat) :
    pathText (List.replicate count []) = List.replicate count '/' := by
  induction count with
  | zero => rfl
  | succ count ih =>
    rw [List.replicate_succ, List.replicate_succ, ← ih]
    rfl

private theorem toList_hierarchicalPath (cs : List Char) : (hierarchicalPath .special cs).toList =
    pathText (resolveDots false [] (Text.pieces (isSlash true) cs)) := by
  have hkind : (SchemeKind.special == SchemeKind.file) = false := rfl
  have htext : ∀ s, ("/" ++ Escape.escape Escape.inPath s).toList =
      '/' :: (Escape.escape Escape.inPath s).toList := fun s => String.toList_append
  rw [hierarchicalPath, String.toList_join, List.flatMap_map, hkind]
  simp only [htext, Bool.false_eq_true, if_false]
  rfl

/-- The segments of the text of a path, which starts with a slash unless it is empty. -/
def segmentsOf : List Char → List (List Char)
  | [] => []
  | _ :: cs => Text.pieces (isSlash true) cs

private theorem pathAfterHost_cons {c : Char} (hc : isSlash true c = true) (cs : List Char) :
    pathAfterHost .special (c :: cs) = hierarchicalPath .special cs :=
  if_pos hc

private theorem toList_pathAfterHost_append_slash (hrest : ∀ c ∈ rest.head?, isSlash true c = true)
    (tail : List Char) : (pathAfterHost .special (rest ++ '/' :: tail)).toList =
      pathText (resolveDots false [] (segmentsOf rest ++ Text.pieces (isSlash true) tail)) := by
  cases rest with
  | nil =>
    rw [List.nil_append, pathAfterHost_cons rfl, toList_hierarchicalPath]
    rfl
  | cons c cs =>
    rw [List.cons_append, pathAfterHost_cons (hrest c rfl), toList_hierarchicalPath,
      Text.pieces_append_cons rfl]
    rfl

/-- A name that stands in a path as it is written. -/
structure IsPathName (name : List Char) : Prop where
  unmarked : ∀ c ∈ name, c ≠ '?' ∧ c ≠ '#'
  slash_free : ∀ c ∈ name, isSlash true c = false
  plain : IsPlainSegment name
  escape_eq : (Escape.escape Escape.inPath name).toList = name

/-- A path leaves off in a directory, up to slashes, and a name that follows it behind a slash is put into
    that directory. -/
theorem exists_directory (hrest : ∀ c ∈ rest.head?, isSlash true c = true) :
    ∃ dir : List Char,
      (∀ count, ∃ closing, (pathAfterHost .special (rest ++ List.replicate count '/')).toList =
        dir ++ List.replicate closing '/') ∧
      ∀ name, IsPathName name →
        (pathAfterHost .special (rest ++ '/' :: name)).toList = dir ++ '/' :: name := by
  refine ⟨pathText (directory [] (segmentsOf rest)).reverse, fun count => ?_, fun name hname => ?_⟩
  · cases count with
    | zero =>
      rw [List.replicate_zero, List.append_nil]
      cases rest with
      | nil => exact ⟨1, rfl⟩
      | cons c cs =>
        obtain ⟨closing, hclosing⟩ := exists_resolveDots_eq [] (Text.pieces_ne_nil (isSlash true) cs)
        refine ⟨closing, ?_⟩
        rw [pathAfterHost_cons (hrest c rfl), toList_hierarchicalPath, hclosing, pathText_append,
          pathText_replicate]
        rfl
    | succ count =>
      refine ⟨count + 1, ?_⟩
      rw [List.replicate_succ, toList_pathAfterHost_append_slash hrest, Text.pieces_replicate rfl,
        List.replicate_succ, resolveDots_append_cons, ← List.replicate_succ, resolveDots_replicate,
        pathText_append, pathText_replicate, List.replicate_succ]
  · rw [toList_pathAfterHost_append_slash hrest, Text.pieces_of_forall hname.slash_free,
      resolveDots_append_cons, resolveDots_singleton hname.plain, pathText_append]
    simp [pathText, hname.escape_eq]

/-- What stands before the first occurrence of a mark, and what stands behind it. -/
def cut (mark : Char) (cs : List Char) : List Char × Option (List Char) :=
  match cs.dropWhile (· != mark) with
  | _ :: after => (cs.takeWhile (· != mark), some after)
  | [] => (cs, none)

private theorem fst_cut (mark : Char) (cs : List Char) : (cut mark cs).1 = cs.takeWhile (· != mark) := by
  rw [cut]
  split
  · rfl
  · rename_i hnil
    rw [List.takeWhile_eq_self_iff.mpr (List.dropWhile_eq_nil_iff.mp hnil)]

private theorem snd_cut_eq_none_iff (mark : Char) (cs : List Char) :
    (cut mark cs).2 = none ↔ ∀ c ∈ cs, c ≠ mark := by
  simp only [← bne_iff_ne, ← List.dropWhile_eq_nil_iff, cut]
  split
  · rename_i hcons
    exact iff_of_false (by rintro ⟨⟩) (by rw [hcons]; exact List.cons_ne_nil _ _)
  · rename_i hnil
    exact iff_of_true rfl hnil

private theorem splitTail_eq (cs : List Char) : splitTail cs =
    ⟨(cut '?' (cut '#' cs).1).1, (cut '?' (cut '#' cs).1).2, (cut '#' cs).2⟩ := by
  change (match (cut '#' cs).1.dropWhile (· != '?') with
    | _ :: query => Tail.mk ((cut '#' cs).1.takeWhile (· != '?')) (some query) (cut '#' cs).2
    | [] => ⟨(cut '#' cs).1, none, (cut '#' cs).2⟩) = _
  generalize cut '#' cs = outer
  rw [cut]
  split <;> rfl

/-- The path of a text ends before its first question mark or hash mark. -/
theorem splitTail_path (cs : List Char) :
    (splitTail cs).path = cs.takeWhile fun c => c != '?' && c != '#' := by
  rw [splitTail_eq, fst_cut, fst_cut, List.takeWhile_takeWhile]
  simp only [Bool.decide_and, Bool.decide_eq_true]

/-- A text without question marks and hash marks is all path. -/
theorem splitTail_eq_none_iff (cs : List Char) :
    (splitTail cs).query = none ∧ (splitTail cs).fragment = none ↔ ∀ c ∈ cs, c ≠ '?' ∧ c ≠ '#' := by
  rw [splitTail_eq, snd_cut_eq_none_iff, snd_cut_eq_none_iff, fst_cut]
  constructor
  · rintro ⟨hquery, hfragment⟩ c hc
    rw [List.takeWhile_eq_self_iff.mpr fun c hc => bne_iff_ne.mpr (hfragment c hc)] at hquery
    exact ⟨hquery c hc, hfragment c hc⟩
  · intro hcs
    exact ⟨fun c hc => (hcs c ((List.takeWhile_sublist _).subset hc)).1, fun c hc => (hcs c hc).2⟩

/-- Without a question mark and a hash mark all is path. -/
theorem splitTail_path_of_unmarked (hcs : ∀ c ∈ cs, c ≠ '?' ∧ c ≠ '#') : (splitTail cs).path = cs := by
  rw [splitTail_path, List.takeWhile_eq_self_iff]
  simpa using hcs

/-- Behind a question mark or a hash mark nothing comes to the path. -/
theorem splitTail_path_append_of_marked (hcs : ¬ ∀ c ∈ cs, c ≠ '?' ∧ c ≠ '#') (more : List Char) :
    (splitTail (cs ++ more)).path = (splitTail cs).path := by
  rw [splitTail_path, splitTail_path, List.takeWhile_append, if_neg]
  intro hlength
  refine hcs ?_
  have hself := (List.takeWhile_sublist _).eq_of_length hlength
  simpa using List.takeWhile_eq_self_iff.mp hself

end VulnProbe.Url
