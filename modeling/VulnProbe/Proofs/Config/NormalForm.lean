import VulnProbe.Proofs.Config.Collection
import VulnProbe.Proofs.Run.Accounting
import VulnProbe.Proofs.Run.RequestTarget
import VulnProbe.Proofs.Text.Stripped

namespace VulnProbe

namespace Poc

/-- A verification goes by the target without its outer blanks, and sends nothing elsewhere. -/
theorem verify_trims (poc : Poc) (callbacks : Callbacks) (transport : Transport) (allocated : Nat)
    (target : String) (draws : Expr.Draws) :
    let verification := poc.verify callbacks transport allocated target draws
    (∀ o, verification.result = .ok o → o.target = Text.trim target) ∧
      ∀ request ∈ verification.sent, ∃ path, request.url = Text.trim target ++ path := by
  intro verification
  by_cases hblank : Text.trim target = ""
  · have hverify : verification = _ := verify_of_blank hblank
    rw [hverify]
    exact ⟨by rintro o ⟨⟩, by rintro request ⟨⟩⟩
  cases hbind : poc.bind callbacks allocated (Text.trim target) (draws.child 0) with
  | mk bound allocated' =>
    cases bound with
    | error f =>
      have hverify : verification = _ := verify_of_bind_error hblank hbind
      rw [hverify]
      exact ⟨by rintro o ⟨⟩, by rintro request ⟨⟩⟩
    | ok bound =>
      obtain ⟨registry, params⟩ := bound
      let context : Context := ⟨Text.trim target, registry, transport⟩
      have hsent : ∀ request ∈ ((Run.start params).execute context (draws.child 1) poc.rules).2.sent,
          ∃ path, request.url = Text.trim target ++ path := by
        intro request hrequest
        obtain ⟨i, hi⟩ := List.getElem?_of_mem hrequest
        have hcount : (Run.start params).sent.length + i = i := Nat.zero_add i
        obtain ⟨rule, -, rfl⟩ := Run.exists_rule_of_sent (hcount ▸ hi)
        exact ⟨_, rfl⟩
      have hverify : verification = poc.verify callbacks transport allocated target draws := rfl
      rw [verify] at hverify
      dsimp only at hverify
      rw [if_neg (mt beq_iff_eq.mp hblank), hbind] at hverify
      dsimp only at hverify
      rw [hverify]
      split
      all_goals
        rename_i final hexecute
        rw [hexecute] at hsent
        refine ⟨?_, hsent⟩
        rintro o ⟨⟩
      rfl

end Poc

namespace Target

open Files (Disk)

variable {raw target : String}

/-- A target in normal form: with no blanks at its ends, no slash that closes it, and not changed when it
    is read again. -/
structure IsNormalForm (target : String) : Prop where
  startsPlain : ∀ c ∈ target.toList.head?, Text.isBlank c = false
  endsPlain : ∀ c ∈ target.toList.getLast?, Text.isBlank c = false
  endsOpen : target.toList.getLast? ≠ some '/'
  normalize_eq : normalize target = .ok target

/-- A target is accepted for what is left of it when it is stripped. -/
theorem normalize_eq_ok_iff : normalize raw = .ok target ↔
    target = String.ofList (Text.stripped raw) ∧
      ∃ url, Url.parse target = .ok url ∧ Config.isHttp url.scheme = true := by
  rw [normalize, ← Text.stripped]
  cases hparse : Url.parse (String.ofList (Text.stripped raw)) with
  | error issue =>
    refine iff_of_false (by rintro ⟨⟩) ?_
    rintro ⟨rfl, url, hurl, -⟩
    rw [hparse] at hurl
    cases hurl
  | ok url =>
    dsimp only
    split
    · rename_i hhttp
      constructor
      · intro htarget
        obtain rfl := Except.ok.inj htarget
        exact ⟨rfl, url, hparse, hhttp⟩
      · rintro ⟨rfl, -⟩
        rfl
    · rename_i hhttp
      refine iff_of_false (by rintro ⟨⟩) ?_
      rintro ⟨rfl, url', hurl, hhttp'⟩
      cases hparse.symm.trans hurl
      exact hhttp hhttp'

private theorem stripped_of_plain (hhead : ∀ c ∈ target.toList.head?, Text.isBlank c = false)
    (hlast : ∀ c ∈ target.toList.getLast?, Text.isBlank c = false)
    (hopen : target.toList.getLast? ≠ some '/') : Text.stripped target = target.toList := by
  rw [Text.stripped, Text.trimChars_eq_self hhead hlast]
  refine Text.dropEnd_eq_self fun c hc => beq_false_of_ne ?_
  rintro rfl
  exact hopen hc

private theorem starts_and_ends_of_normalize (htarget : normalize raw = .ok target) :
    (∀ c ∈ target.toList.head?, Text.isBlank c = false) ∧ target.toList.getLast? ≠ some '/' := by
  obtain ⟨rfl, -⟩ := normalize_eq_ok_iff.mp htarget
  rw [String.toList_ofList]
  exact ⟨fun c hc => Text.isBlank_of_head?_stripped hc,
    fun hc => Text.ne_slash_of_getLast?_stripped hc rfl⟩

private theorem normalize_self_iff (htarget : normalize raw = .ok target) :
    normalize target = .ok target ↔ Text.stripped target = target.toList := by
  obtain ⟨-, url, hparse, hhttp⟩ := normalize_eq_ok_iff.mp htarget
  rw [normalize_eq_ok_iff]
  constructor
  · rintro ⟨hsame, -⟩
    rw [hsame, String.toList_ofList, ← hsame]
  · intro hsame
    exact ⟨by rw [hsame, String.ofList_toList], url, hparse, hhttp⟩

/-- What is accepted is in normal form exactly if no blank stood before the slashes. -/
theorem isNormalForm_iff (htarget : normalize raw = .ok target) :
    IsNormalForm target ↔ ¬ Text.HasBlankBeforeSlashes raw := by
  obtain ⟨hhead, hopen⟩ := starts_and_ends_of_normalize htarget
  have htext : target.toList = Text.stripped raw := by
    rw [(normalize_eq_ok_iff.mp htarget).1, String.toList_ofList]
  rw [← Text.stripped_endsPlain_iff, ← htext]
  constructor
  · intro hnormal
    exact hnormal.endsPlain
  · intro hplain
    refine ⟨hhead, hplain, hopen, ?_⟩
    rw [normalize_self_iff htarget]
    exact stripped_of_plain hhead hplain hopen

private theorem isNormalForm_of_normalize_self (htarget : normalize target = .ok target) :
    IsNormalForm target := by
  obtain ⟨hsame, -⟩ := normalize_eq_ok_iff.mp htarget
  have htext : Text.stripped target = target.toList := by
    conv_rhs => rw [hsame, String.toList_ofList]
  rw [isNormalForm_iff htarget, ← Text.stripped_endsPlain_iff]
  -- a blank at the end of the text would be taken off when it is read again
  rintro c hc
  have htrim : Text.trimChars target.toList = target.toList := by
    obtain ⟨count, hcount⟩ := Text.exists_trimChars_eq_stripped target
    have hlength : (Text.trimChars target.toList).length ≤ target.toList.length :=
      (Text.dropEnd_prefix.length_le).trans (List.dropWhile_sublist _).length_le
    rw [hcount, htext, List.length_append, List.length_replicate] at hlength
    obtain rfl : count = 0 := by omega
    rw [hcount, htext, List.replicate_zero, List.append_nil]
  rw [htext, ← htrim] at hc
  exact Text.eq_false_of_getLast?_dropEnd hc

private theorem isNormalForm_of_collect {disk : Disk} {given listed targets : List String}
    {path : Option String} (hlisted : entriesIn disk path = .ok listed)
    (hcollect : collect disk given path = .ok targets)
    (hraws : ∀ raw ∈ given ++ listed, ¬ Text.HasBlankBeforeSlashes raw) :
    targets.Nodup ∧ ∀ target ∈ targets, IsNormalForm target := by
  by_cases hnone : given ++ listed = []
  · cases (collect_of_none hlisted hnone).symm.trans hcollect
  obtain ⟨normals, hnormals⟩ | ⟨raw, issue, hrefused⟩ := accepted_or_refused (given ++ listed)
  · obtain ⟨targets', htargets, hfirst⟩ := collect_of_accepted hlisted hnone hnormals
    cases htargets.symm.trans hcollect
    refine ⟨hfirst.nodup, fun target htarget => ?_⟩
    have hnormal := List.mem_map_of_mem (f := Except.ok (ε := TargetIssue))
      ((hfirst.mem_iff target).mp htarget)
    rw [← hnormals] at hnormal
    obtain ⟨raw, hraw, hnormalize⟩ := List.mem_map.mp hnormal
    exact (isNormalForm_iff hnormalize).mpr (hraws raw hraw)
  · cases (collect_of_refused hlisted hrefused).symm.trans hcollect

/-- An accepted target neither starts with a blank nor is closed by a slash. It is in normal form, and
    stays as it is when it is read again, exactly if no blank stood before the slashes that were removed.
    A verification then goes by the target itself. Targets collected from such entries differ in their
    normal forms too. -/
theorem normalize_normalForm_iff (htarget : normalize raw = .ok target) :
    ((∀ c ∈ target.toList.head?, Text.isBlank c = false) ∧ target.toList.getLast? ≠ some '/') ∧
      (IsNormalForm target ↔ ¬ Text.HasBlankBeforeSlashes raw) ∧
      (normalize target = .ok target ↔ IsNormalForm target) ∧
      (IsNormalForm target → ∀ poc callbacks transport allocated draws,
        let verification := Poc.verify poc callbacks transport allocated target draws
        (∀ o, verification.result = .ok o → o.target = target) ∧
          ∀ request ∈ verification.sent, ∃ path, request.url = target ++ path) ∧
      ∀ disk given path listed targets, entriesIn disk path = .ok listed →
        collect disk given path = .ok targets →
        (∀ entry ∈ given ++ listed, ¬ Text.HasBlankBeforeSlashes entry) →
        targets.Pairwise fun a b => normalize a ≠ normalize b := by
  refine ⟨starts_and_ends_of_normalize htarget, isNormalForm_iff htarget, ?_, ?_, ?_⟩
  · exact ⟨isNormalForm_of_normalize_self, fun hnormal => hnormal.normalize_eq⟩
  · intro hnormal poc callbacks transport allocated draws
    have htrim : Text.trim target = target := by
      rw [Text.trim, Text.trimChars_eq_self hnormal.startsPlain hnormal.endsPlain, String.ofList_toList]
    have hverify := Poc.verify_trims poc callbacks transport allocated target draws
    rwa [htrim] at hverify
  · intro disk given path listed targets hlisted hcollect hentries
    obtain ⟨hnodup, hnormal⟩ := isNormalForm_of_collect hlisted hcollect hentries
    refine hnodup.imp_of_mem fun {a b} ha hb hne hsame => hne ?_
    rw [(hnormal a ha).normalize_eq, (hnormal b hb).normalize_eq] at hsame
    exact Except.ok.inj hsame

/-- A target with blanks outside and slashes at its end, and the same target as an entry of its own. -/
theorem normalize_normalForm_sample :
    let raw := " http://[::1]// "
    let target := "http://[::1]"
    normalize raw = .ok target ∧ IsNormalForm target ∧
      entriesIn ⟨[], []⟩ none = .ok [] ∧
      collect ⟨[], []⟩ [raw, target, "http://[::2]"] none = .ok [target, "http://[::2]"] ∧
      [target, "http://[::2]"].Pairwise fun a b => normalize a ≠ normalize b := by
  intro raw target
  have hlast : ∀ r ∈ [raw, target, "http://[::2]"] ++ [], (Text.stripped r).getLast? = some ']' := by
    decide
  have hraws : ∀ r ∈ [raw, target, "http://[::2]"] ++ [], ¬ Text.HasBlankBeforeSlashes r := by
    intro r hr
    rw [← Text.stripped_endsPlain_iff, hlast r hr]
    rintro c ⟨⟩
    rfl
  have htarget : normalize raw = .ok target := by decide
  have hcollect : collect ⟨[], []⟩ [raw, target, "http://[::2]"] none =
      .ok [target, "http://[::2]"] := by decide
  obtain ⟨-, hform, -, -, hpairwise⟩ := normalize_normalForm_iff htarget
  exact ⟨htarget, hform.mpr (hraws raw List.mem_cons_self), rfl, hcollect,
    hpairwise _ _ _ _ _ rfl hcollect hraws⟩

/-- Behind a blank the slashes leave a blank at the end. The target is then another one when it is read
    again, it is collected beside that one, and a verification goes by a text that a slash closes. -/
theorem normalize_blank_before_slash :
    let raw := "http://[::1]/ /"
    let target := "http://[::1]/ "
    let poc : Poc := { name := "sample", set := [], rules := [], detail := none }
    normalize raw = .ok target ∧ normalize target = .ok "http://[::1]" ∧
      collect ⟨[], []⟩ [raw, "http://[::1]"] none = .ok [target, "http://[::1]"] ∧
      (poc.verify (fun _ => .error .notConfigured) (fun _ _ => .error .noMoreAnswers) 0 target
        (.ofSeed 0)).result.map Outcome.target = .ok "http://[::1]/" := by
  intro raw target poc
  exact ⟨by decide, by decide, by decide,
    by decide⟩

end Target

end VulnProbe
