import Mathlib.Tactic.Common
import VulnProbe.Config.Target
import VulnProbe.Proofs.Text.Pieces

namespace VulnProbe

/-- The members of a list, each once and in the order in which they occur first. -/
structure FirstOccurrences {α : Type} [BEq α] (xs ys : List α) : Prop where
  mem_iff : ∀ y, y ∈ ys ↔ y ∈ xs
  nodup : ys.Nodup
  inOrder : ys.Pairwise fun a b => xs.idxOf a < xs.idxOf b

namespace FirstOccurrences

variable {α : Type} [BEq α] [LawfulBEq α] {xs ys : List α}

omit [LawfulBEq α] in
/-- Of nothing, nothing is left. -/
theorem nil : FirstOccurrences ([] : List α) [] :=
  ⟨fun _ => Iff.rfl, List.nodup_nil, List.Pairwise.nil⟩

/-- One more member is put behind the others unless it is one of them. -/
theorem remember (hys : FirstOccurrences xs ys) (x : α) :
    FirstOccurrences (xs ++ [x]) (if ys.contains x then ys else ys ++ [x]) := by
  have hknown : ∀ y ∈ ys, (xs ++ [x]).idxOf y = xs.idxOf y := fun y hy => by
    rw [List.idxOf_append, if_pos ((hys.mem_iff y).mp hy)]
  have hordered : ys.Pairwise fun a b => (xs ++ [x]).idxOf a < (xs ++ [x]).idxOf b :=
    hys.inOrder.imp_of_mem fun ha hb hlt => by rwa [hknown _ ha, hknown _ hb]
  by_cases hx : x ∈ ys
  · rw [if_pos (List.contains_iff_mem.mpr hx)]
    refine ⟨fun y => ?_, hys.nodup, hordered⟩
    rw [List.mem_append, List.mem_singleton, hys.mem_iff]
    refine ⟨.inl, fun hy => hy.elim id ?_⟩
    rintro rfl
    exact (hys.mem_iff y).mp hx
  · rw [if_neg (mt List.contains_iff_mem.mp hx)]
    refine ⟨fun y => by simp only [List.mem_append, hys.mem_iff], ?_, ?_⟩
    · refine List.nodup_append.mpr ⟨hys.nodup, List.pairwise_singleton _ _, fun y hy z hz => ?_⟩
      cases List.mem_singleton.mp hz
      rintro rfl
      exact hx hy
    · refine List.pairwise_append.mpr ⟨hordered, List.pairwise_singleton _ _, fun y hy z hz => ?_⟩
      cases List.mem_singleton.mp hz
      have hxs : x ∉ xs := mt (hys.mem_iff x).mpr hx
      rw [hknown y hy, List.idxOf_append, if_neg hxs]
      exact Nat.lt_of_lt_of_le (List.idxOf_lt_length_iff.mpr ((hys.mem_iff y).mp hy))
        (Nat.le_add_left _ _)

end FirstOccurrences

namespace Target

open Files (Disk)

variable {disk : Disk} {given raws normals known seen listed : List String} {path : Option String}
  {raw : String} {issue : TargetIssue}

/-- What a file of targets lists: its lines without outer blanks, as far as they are neither blank nor
    start as comments do. Without a file nothing is listed. -/
inductive Lists (disk : Disk) : Option String → List String → Prop
  | none : Lists disk none []
  | file {path text : String} {lines : List String} (hread : disk.read path = .ok text)
      (htext : text.toList = ['\n'].intercalate (lines.map String.toList))
      (hlines : ∀ line ∈ lines, '\n' ∉ line.toList) :
      Lists disk (some path)
        ((lines.map Text.trim).filter fun line => line ≠ "" ∧ line.toList.head? ≠ some '#')

/-- The first entry that is refused, with what is wrong with it. -/
inductive FirstRefused : List String → String → TargetIssue → Prop
  | here {raw : String} {issue : TargetIssue} {raws : List String}
      (hraw : normalize raw = .error issue) : FirstRefused (raw :: raws) raw issue
  | later {first target raw : String} {issue : TargetIssue} {raws : List String}
      (hfirst : normalize first = .ok target) (hlater : FirstRefused raws raw issue) :
      FirstRefused (first :: raws) raw issue

/-- The first refused entry is one of those read, and reading it fails with its issue. -/
theorem FirstRefused.mem (hrefused : FirstRefused raws raw issue) :
    raw ∈ raws ∧ normalize raw = .error issue := by
  induction hrefused with
  | here hraw => exact ⟨List.mem_cons_self, hraw⟩
  | later hfirst hlater ih => exact ⟨List.mem_cons_of_mem _ ih.1, ih.2⟩

private theorem exists?_of_read {path text : String} (hread : disk.read path = .ok text) :
    disk.exists? path = true := by
  rw [Disk.exists?]
  cases hfind : disk.find path with
  | ok entry => rfl
  | error issue =>
    rw [Disk.read, hfind] at hread
    cases hread

private theorem exists_lists (hread : ∀ p ∈ path, ∃ text, disk.read p = .ok text) :
    ∃ listed, entriesIn disk path = .ok listed ∧ Lists disk path listed := by
  cases path with
  | none => exact ⟨[], rfl, .none⟩
  | some path =>
    obtain ⟨text, htext⟩ := hread path rfl
    obtain ⟨hjoin, hlines⟩ := Text.lines_join text
    refine ⟨entriesOf text, ?_, ?_⟩
    · simp [entriesIn, exists?_of_read htext, htext]
    · have hkept (line : String) : (line ≠ "" && line.toList.head? != some '#') =
          decide (line ≠ "" ∧ line.toList.head? ≠ some '#') := by
        simp [bne, Bool.beq_eq_decide_eq]
      rw [entriesOf, funext hkept]
      exact .file htext hjoin hlines

/-- Either all entries have a normal form, or there is a first one that is refused. -/
theorem accepted_or_refused (raws : List String) :
    (∃ normals : List String, raws.map normalize = normals.map .ok) ∨
      ∃ raw issue, FirstRefused raws raw issue := by
  induction raws with
  | nil => exact .inl ⟨[], by rw [List.map_nil, List.map_nil]⟩
  | cons raw raws ih =>
    cases hraw : normalize raw with
    | error issue => exact .inr ⟨raw, issue, .here hraw⟩
    | ok target =>
      obtain ⟨normals, hnormals⟩ | ⟨r, issue, hrefused⟩ := ih
      · exact .inl ⟨target :: normals, by rw [List.map_cons, List.map_cons, hraw, hnormals]⟩
      · exact .inr ⟨r, issue, .later hraw hrefused⟩

private theorem normalizeAll_of_accepted (hknown : FirstOccurrences seen known)
    (haccepted : raws.map normalize = normals.map .ok) :
    ∃ targets, normalizeAll known raws = .ok targets ∧ FirstOccurrences (seen ++ normals) targets := by
  induction raws generalizing seen known normals with
  | nil =>
    obtain rfl := List.map_eq_nil_iff.mp haccepted.symm
    exact ⟨known, rfl, by rwa [List.append_nil]⟩
  | cons raw raws ih =>
    cases normals with
    | nil => exact absurd haccepted (List.cons_ne_nil _ _)
    | cons target normals =>
      rw [List.map_cons, List.map_cons, List.cons.injEq] at haccepted
      obtain ⟨hraw, hrest⟩ := haccepted
      obtain ⟨targets, htargets, hfirst⟩ := ih (hknown.remember target) hrest
      rw [List.append_assoc, List.singleton_append] at hfirst
      refine ⟨targets, ?_, hfirst⟩
      rw [normalizeAll, hraw]
      exact htargets

private theorem normalizeAll_of_refused (hrefused : FirstRefused raws raw issue) (known : List String) :
    normalizeAll known raws = .error issue := by
  induction hrefused generalizing known with
  | here hraw => rw [normalizeAll, hraw]
  | later hfirst hlater ih =>
    rw [normalizeAll, hfirst]
    exact ih _

private theorem collect_eq (hlisted : entriesIn disk path = .ok listed) :
    collect disk given path =
      match normalizeAll [] (given ++ listed) with
      | .error issue => .error (.target issue)
      | .ok [] => .error (.target .noTargets)
      | .ok targets => .ok targets := by
  rw [collect, hlisted]
  rfl

/-- A refused entry ends the collection with its issue. The entries of the file count, too, and come
    after the given ones. -/
theorem collect_of_refused (hlisted : entriesIn disk path = .ok listed)
    (hrefused : FirstRefused (given ++ listed) raw issue) :
    collect disk given path = .error (.target issue) := by
  rw [collect_eq hlisted, normalizeAll_of_refused hrefused]

/-- Without any entry there is nothing to verify, and the collection fails. -/
theorem collect_of_none (hlisted : entriesIn disk path = .ok listed) (hnone : given ++ listed = []) :
    collect disk given path = .error (.target .noTargets) := by
  rw [collect_eq hlisted, hnone]
  rfl

/-- If there are entries and all of them have normal forms, the targets are these, each once and in the
    order in which they come up. -/
theorem collect_of_accepted (hlisted : entriesIn disk path = .ok listed)
    (hsome : given ++ listed ≠ []) (haccepted : (given ++ listed).map normalize = normals.map .ok) :
    ∃ targets, collect disk given path = .ok targets ∧ FirstOccurrences normals targets := by
  obtain ⟨targets, htargets, hfirst⟩ := normalizeAll_of_accepted .nil haccepted
  rw [List.nil_append] at hfirst
  refine ⟨targets, ?_, hfirst⟩
  cases targets with
  | nil =>
    cases normals with
    | nil => exact absurd (List.map_eq_nil_iff.mp haccepted) hsome
    | cons target normals => cases (hfirst.mem_iff target).mpr List.mem_cons_self
  | cons target targets => rw [collect_eq hlisted, htargets]

/-- The entries of a batch are those given and then those listed in the file. If there are any and all
    of them are accepted, the targets are their normal forms, each once and in the order in which they
    occur first. Otherwise the first entry that is refused is what is wrong, or that there is none. -/
theorem collect_firstOccurrences (given : List String)
    (hread : ∀ p ∈ path, ∃ text, disk.read p = .ok text) :
    ∃ listed, Lists disk path listed ∧
      let raws := given ++ listed
      ((∃ targets, collect disk given path = .ok targets) ↔
        raws ≠ [] ∧ ∀ raw ∈ raws, ∃ target, normalize raw = .ok target) ∧
      (∀ targets, collect disk given path = .ok targets →
        ∃ normals, raws.map normalize = normals.map .ok ∧ FirstOccurrences normals targets) ∧
      ∀ f, collect disk given path = .error f →
        (∃ raw issue, FirstRefused raws raw issue ∧ f = .target issue) ∨
          raws = [] ∧ f = .target .noTargets := by
  obtain ⟨listed, hlisted, hlists⟩ := exists_lists hread
  refine ⟨listed, hlists, ?_⟩
  intro raws
  by_cases hnone : raws = []
  · rw [collect_of_none hlisted hnone]
    simp [hnone]
  obtain ⟨normals, hnormals⟩ | ⟨raw, issue, hrefused⟩ := accepted_or_refused raws
  · obtain ⟨targets, htargets, hfirst⟩ := collect_of_accepted hlisted hnone hnormals
    rw [htargets]
    refine ⟨iff_of_true ⟨targets, rfl⟩ ⟨hnone, fun raw hraw => ?_⟩, ?_, by rintro f ⟨⟩⟩
    · have hnormal := List.mem_map_of_mem (f := normalize) hraw
      rw [hnormals] at hnormal
      obtain ⟨target, -, htarget⟩ := List.mem_map.mp hnormal
      exact ⟨target, htarget.symm⟩
    · rintro _ ⟨⟩
      exact ⟨normals, hnormals, hfirst⟩
  · rw [collect_of_refused hlisted hrefused]
    obtain ⟨hmem, hraw⟩ := hrefused.mem
    refine ⟨iff_of_false (by rintro ⟨_, ⟨⟩⟩) ?_, by rintro _ ⟨⟩, ?_⟩
    · rintro ⟨-, hall⟩
      obtain ⟨target, htarget⟩ := hall raw hmem
      cases htarget.symm.trans hraw
    · rintro _ ⟨⟩
      exact .inl ⟨raw, issue, hrefused, rfl⟩

/-- A target that is given and listed as well, among a comment and a blank line. -/
theorem collect_firstOccurrences_sample :
    let content := "# staging\n http://[::2]/\n\nhttp://[::1]\n"
    let disk : Disk := ⟨[("t", .file (Utf8.ofString content))], []⟩
    (∀ p ∈ some "t", ∃ text, disk.read p = .ok text) ∧
      collect disk ["http://[::1]"] (some "t") = .ok ["http://[::1]", "http://[::2]"] ∧
      ∃ listed normals, Lists disk (some "t") listed ∧
        ("http://[::1]" :: listed).map normalize = normals.map .ok ∧
        FirstOccurrences normals ["http://[::1]", "http://[::2]"] := by
  intro content disk
  have hread : ∀ p ∈ some "t", ∃ text, disk.read p = .ok text := by
    rintro p ⟨⟩
    exact ⟨content, by with_unfolding_all decide⟩
  have hcollect : collect disk ["http://[::1]"] (some "t") = .ok ["http://[::1]", "http://[::2]"] := by
    with_unfolding_all decide
  obtain ⟨listed, hlists, -, hall, -⟩ := collect_firstOccurrences ["http://[::1]"] hread
  obtain ⟨normals, hnormals, hfirst⟩ := hall _ hcollect
  exact ⟨hread, hcollect, listed, normals, hlists, hnormals, hfirst⟩

end Target

end VulnProbe
