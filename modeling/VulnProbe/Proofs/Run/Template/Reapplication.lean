import VulnProbe.Proofs.Run.Template.Dependence
import VulnProbe.Proofs.Text.Blank

namespace VulnProbe

/-- A text that has no two opening braces in a row and makes none with a brace behind it. -/
def Plain (s : List Char) : Prop :=
  ¬ ['\x7b', '\x7b'] <:+: s ++ ['\x7b']

/-- A text in which each opening brace stands alone or opens the placeholder of a name without braces. -/
inductive Template (hole : String → Prop) : List Char → Prop
  | nil : Template hole []
  | char {c : Char} {rest : List Char} (halone : c = '\x7b' → rest.head? ≠ some '\x7b') :
      Template hole rest → Template hole (c :: rest)
  | hole {name : String} {rest : List Char} (hfree : BraceFree name.toList) (hname : hole name) :
      Template hole rest → Template hole (placeholder name ++ rest)

variable {hole : String → Prop} {name other : String} {put s rest : List Char} {c : Char}
  {params : Params}

section Templates

/-- A text is plain if its rest is and no brace at its start meets another one. -/
theorem plain_cons : Plain (c :: s) ↔
    (c = '\x7b' → (s ++ ['\x7b']).head? ≠ some '\x7b') ∧ Plain s := by
  rw [Plain, List.cons_append, List.infix_cons_iff, not_or, List.cons_prefix_cons, not_and]
  cases hs : s ++ ['\x7b'] with
  | nil => simp at hs
  | cons d t => simp [Plain, hs, List.cons_prefix_cons, eq_comm]

/-- Behind a brace of such a text comes another character. -/
theorem Plain.alone (hplain : Plain (c :: s)) (hc : c = '\x7b') : (s ++ rest).head? ≠ some '\x7b' := by
  have hnext := (plain_cons.mp hplain).1 hc
  cases s with
  | nil => exact absurd rfl hnext
  | cons d s => exact hnext

/-- A template for some names is one for more. -/
theorem Template.imp {p q : String → Prop} (himp : ∀ name, p name → q name) (ht : Template p s) :
    Template q s := by
  induction ht with
  | nil => exact .nil
  | char halone _ ih => exact .char halone ih
  | hole hfree hname _ ih => exact .hole hfree (himp _ hname) ih

/-- A brace that stands alone opens no placeholder. -/
theorem not_placeholder_prefix_cons (halone : c = '\x7b' → rest.head? ≠ some '\x7b') :
    ¬ placeholder name <+: c :: rest := by
  rw [placeholder_prefix_cons]
  rintro ⟨hc, after, rfl⟩
  exact halone hc rfl

/-- No placeholder occurs in a text that has no holes. -/
theorem Template.not_mentions (ht : Template (fun _ => False) s) : ¬ Mentions s name := by
  induction ht with
  | nil => exact not_mentions_nil
  | char halone _ ih =>
    rw [mentions_cons]
    exact not_or_intro (not_placeholder_prefix_cons halone) ih
  | hole _ hname => exact hname.elim

/-- A plain text may stand before a template. -/
theorem Template.append (hput : Plain put) (ht : Template hole rest) :
    Template hole (put ++ rest) := by
  induction put with
  | nil => exact ht
  | cons c put ih =>
    exact .char hput.alone (ih (plain_cons.mp hput).2)

private theorem head?_fill (hhead : s.head? ≠ some '\x7b') : (fill name put s).head? ≠ some '\x7b' := by
  cases s with
  | nil => exact hhead
  | cons c rest =>
    have hc : c ≠ '\x7b' := fun hc => hhead (congrArg some hc)
    rw [fill_cons (not_placeholder_prefix_cons fun h => absurd h hc)]
    exact hhead

/-- A text does not start with a brace if its first part has none. -/
theorem head?_append_ne (hne : s ≠ []) (hs : '\x7b' ∉ s) : (s ++ rest).head? ≠ some '\x7b' := by
  cases s with
  | nil => exact absurd rfl hne
  | cons c s =>
    intro hhead
    rw [List.cons_append, List.head?_cons, Option.some_inj] at hhead
    exact hs (hhead ▸ List.mem_cons_self)

/-- The placeholder of another name stays as it is, unless that of the filled name starts with it. -/
theorem fill_other (hother : BraceFree other.toList)
    (hfirst : ¬ placeholder name <+: placeholder other ++ rest) :
    fill name put (placeholder other ++ rest) = placeholder other ++ fill name put rest := by
  let inner := other.toList ++ ['\x7d', '\x7d']
  have hinner : '\x7b' ∉ inner := by
    simpa [inner] using hother.1
  have hsecond : ¬ placeholder name <+: '\x7b' :: (inner ++ rest) :=
    not_placeholder_prefix_cons fun _ => head?_append_ne (by simp [inner]) hinner
  calc fill name put (placeholder other ++ rest)
      = '\x7b' :: fill name put ('\x7b' :: (inner ++ rest)) := fill_cons hfirst
    _ = '\x7b' :: '\x7b' :: (inner ++ fill name put rest) := by
      rw [fill_cons hsecond, fill_append hinner]
    _ = placeholder other ++ fill name put rest := rfl

/-- Filling keeps the form of a text, and leaves no hole of the filled name. -/
theorem Template.fill (ht : Template hole s) (hfirst : ∀ other, hole other → ¬ other < name)
    (hput : hole name → Plain put) :
    Template (fun other => hole other ∧ other ≠ name) (fill name put s) := by
  induction ht with
  | nil => exact .nil
  | char halone _ ih =>
    rw [fill_cons (not_placeholder_prefix_cons halone)]
    exact .char (fun hc => head?_fill (halone hc)) ih
  | @hole other rest hfree hother _ ih =>
    by_cases hsame : other = name
    · subst hsame
      rw [fill_placeholder]
      exact .append (hput hother) ih
    · have hnot : ¬ other.toList <+: name.toList := by
        intro hstarts
        rcases lt_trichotomy other name with hlt | heq | hgt
        · exact hfirst other hother hlt
        · exact hsame heq
        · exact absurd (String.lt_iff_toList_lt.mp hgt) (List.not_lt.mpr hstarts.le)
      rw [fill_other hfree fun hstarts => hnot (toList_of_starts hfree.2 hstarts)]
      exact .hole hfree ⟨hother, hsame⟩ ih

end Templates

/-- A name is bound to a value that brings in no opening of a placeholder. -/
def BindsPlain (params : Params) (name : String) : Prop :=
  ∃ v, Dict.get? name params = some v ∧ Plain v.text.toList

/-- A text whose placeholders are all bound keeps none, once each is filled in its turn. -/
theorem Template.fillAll (hparams : Dict.Sorted params) (ht : Template (BindsPlain params) s) :
    Template (fun _ => False) (fillAll params s) := by
  induction params generalizing s with
  | nil =>
    refine ht.imp ?_
    rintro name ⟨v, hv, -⟩
    cases hv
  | cons entry params ih =>
    obtain ⟨key, v⟩ := entry
    obtain ⟨hbehind, hparams⟩ := Dict.sorted_cons.mp hparams
    have hfilled : Template (fun other => BindsPlain ((key, v) :: params) other ∧ other ≠ key)
        (VulnProbe.fill key v.text.toList s) := by
      apply ht.fill
      · rintro other ⟨w, hw, -⟩ hlt
        have hfirst : Dict.Before other ((key, v) :: params) :=
          Dict.before_cons.mpr ⟨hlt, Dict.Before.of_le hbehind (le_of_lt hlt)⟩
        rw [hfirst.get?] at hw
        cases hw
      · rintro ⟨w, hw, hplain⟩
        rw [Dict.get?_cons, if_pos rfl, Option.some_inj] at hw
        rwa [hw]
    refine ih hparams (hfilled.imp ?_)
    rintro other ⟨⟨w, hw, hplain⟩, hne⟩
    rw [Dict.get?_cons, if_neg (Ne.symm hne)] at hw
    exact ⟨w, hw, hplain⟩

private theorem fillAll_eq_self (hnot : ∀ name ∈ Dict.keys params, ¬ Mentions s name) :
    fillAll params s = s := by
  induction params with
  | nil => rfl
  | cons entry params ih =>
    rw [Dict.keys, List.map_cons, List.forall_mem_cons] at hnot
    rw [fillAll_of_not_mentions hnot.1, ih hnot.2]

namespace Rule

variable {rule : Rule}

/-- Where no placeholder of a bound name is left, there is nothing but outer blanks to remove. -/
theorem substitute_eq_trimmed (hnot : ∀ name ∈ Dict.keys params, ¬ rule.Mentions name) :
    rule.substitute params = rule.trimmed := by
  have hkept {s : String} (hs : s ∈ rule.texts) {t : String} (hoccurs : t.toList <:+: s.toList) :
      fillPlaceholders params t = t := by
    rw [← String.toList_inj, toList_fillPlaceholders]
    apply fillAll_eq_self
    intro name hname hmentions
    exact hnot name hname ⟨s, hs, hmentions.trans hoccurs⟩
  have hpath : fillPlaceholders params (Text.trim rule.path) = Text.trim rule.path :=
    hkept List.mem_cons_self (Text.trim_infix _)
  have hbody : fillPlaceholders params (Text.trim rule.body) = Text.trim rule.body :=
    hkept (List.mem_cons_of_mem _ List.mem_cons_self) (Text.trim_infix _)
  have hheaders : Dict.mapValues (fillPlaceholders params) rule.headers = rule.headers := by
    refine (List.map_congr_left fun header hheader => ?_).trans (List.map_id _)
    have hvalue : header.2 ∈ rule.texts := by
      simp only [texts, List.mem_cons, List.mem_map]
      exact .inr (.inr ⟨header, hheader, rfl⟩)
    rw [hkept hvalue List.infix_rfl]
    rfl
  rw [substitute, hpath, hbody, hheaders, trimmed]

private theorem texts_substitute :
    (rule.substitute params).texts = rule.trimmed.texts.map (fillPlaceholders params) := by
  simp [substitute, texts, trimmed, Dict.mapValues]

/-- A second replacement with the same bindings only removes outer blanks from the path and the body,
    if the first one leaves no placeholder of a bound name; and it leaves no placeholder at all, if
    each one of the rule is bound to a value that brings in none. -/
theorem substitute_substitute (rule : Rule) {params : Params} (hparams : Dict.Sorted params) :
    ((∀ name ∈ Dict.keys params, ¬ (rule.substitute params).Mentions name) →
      (rule.substitute params).substitute params = (rule.substitute params).trimmed) ∧
    ((∀ s ∈ rule.trimmed.texts, Template (BindsPlain params) s.toList) →
      ∀ name, ¬ (rule.substitute params).Mentions name) := by
  refine ⟨substitute_eq_trimmed, fun htemplates name => ?_⟩
  rintro ⟨filled, hfilled, hmentions⟩
  rw [texts_substitute] at hfilled
  obtain ⟨s, hs, rfl⟩ := List.mem_map.mp hfilled
  rw [toList_fillPlaceholders] at hmentions
  exact ((htemplates s hs).fillAll hparams).not_mentions hmentions

/-- A number and a text with braces, filled into a path with a blank in front and into a body with braces
    around the placeholder. -/
theorem substitute_substitute_sample :
    let rule : Rule :=
      { method := "GET", path := " /\x7b\x7ba\x7d\x7d", body := "\x7bk:\x7b\x7bb\x7d\x7d\x7d"
        headers := [], followRedirects := true, search := none, expression := "true" }
    let params : Params := [("a", .int 7), ("b", .string "\x7bv\x7d")]
    let once : Rule := { rule with path := "/7", body := "\x7bk:\x7bv\x7d\x7d" }
    Dict.Sorted params ∧ rule.substitute params = once ∧ (∀ name, ¬ once.Mentions name) ∧
      once.substitute params = once := by
  intro rule params once
  have hparams : Dict.Sorted params := by
    rw [Dict.Sorted]
    decide
  have honce : rule.substitute params = once := by decide
  have ha : BindsPlain params "a" := ⟨.int 7, rfl, by rw [Plain]; decide⟩
  have hb : BindsPlain params "b" := ⟨.string "\x7bv\x7d", rfl, by rw [Plain]; decide⟩
  have htemplates : ∀ s ∈ rule.trimmed.texts, Template (BindsPlain params) s.toList := by
    have htexts : rule.trimmed.texts.map String.toList =
        ['/' :: (placeholder "a" ++ []),
          '\x7b' :: 'k' :: ':' :: (placeholder "b" ++ ['\x7d'])] := by decide
    have hboth : ∀ cs ∈ rule.trimmed.texts.map String.toList, Template (BindsPlain params) cs := by
      rw [htexts, List.forall_mem_cons, List.forall_mem_singleton]
      refine ⟨.char (by decide) (.hole ⟨by decide, by decide⟩ ha .nil), ?_⟩
      refine .char (by decide) (.char (by decide) (.char (by decide) ?_))
      exact .hole ⟨by decide, by decide⟩ hb (.char (by decide) .nil)
    exact List.forall_mem_map.mp hboth
  have htwice := substitute_substitute rule hparams
  rw [honce] at htwice
  have hnone := htwice.2 htemplates
  exact ⟨hparams, honce, hnone, (htwice.1 fun name _ => hnone name).trans (by decide)⟩

/-- A blank at the end of a value is removed by a second replacement, and a placeholder in a value is
    replaced by it. -/
theorem substitute_substitute_ne :
    let rule : Rule :=
      { method := "GET", path := "\x7b\x7ba\x7d\x7d", body := "", headers := []
        followRedirects := true, search := none, expression := "true" }
    let blank : Params := [("a", .string " x")]
    let nested : Params := [("a", .string "\x7b\x7ba\x7d\x7dx")]
    Dict.Sorted blank ∧ Dict.Sorted nested ∧
      (∀ name, rule.Mentions name → name ∈ Dict.keys blank ∧ name ∈ Dict.keys nested) ∧
      (rule.substitute blank).path = " x" ∧
      ((rule.substitute blank).substitute blank).path = "x" ∧
      (rule.substitute nested).path = "\x7b\x7ba\x7d\x7dx" ∧
      ((rule.substitute nested).substitute nested).path = "\x7b\x7ba\x7d\x7dxx" := by
  intro rule blank nested
  refine ⟨List.pairwise_singleton _ _, List.pairwise_singleton _ _, ?_, by decide, by decide,
    by decide, by decide⟩
  rintro name ⟨s, hs, hmentions⟩
  have hs : s = rule.path ∨ s = rule.body := by simpa [texts, rule] using hs
  have hname : name = "a" := by
    rcases hs with rfl | rfl
    · have hpath : rule.path.toList = placeholder "a" := by decide
      rw [hpath] at hmentions
      exact eq_of_mentions_placeholder ⟨by decide, by decide⟩ hmentions
    · exact absurd hmentions not_mentions_nil
  rw [hname]
  exact ⟨List.mem_singleton_self _, List.mem_singleton_self _⟩

end Rule

end VulnProbe
