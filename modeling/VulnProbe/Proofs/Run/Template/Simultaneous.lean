import VulnProbe.Proofs.Run.Template.Reapplication

namespace VulnProbe

/-- A literal and the placeholder after it. -/
structure Block where
  literal : List Char
  name : String
  plain_literal : Plain literal
  braceFree_name : BraceFree name.toList

/-- A text of literals and placeholders of names without braces. No literal has two opening braces in a
    row, and none before a placeholder ends in one. A literal may be empty, so that placeholders may
    stand side by side. -/
structure SimpleText where
  blocks : List Block
  last : List Char
  single_last : ¬ ['\x7b', '\x7b'] <:+: last

/-- What a placeholder is replaced with: the text of the value that its name is bound to, or itself. -/
def standsFor (params : Params) (name : String) : List Char :=
  match Dict.get? name params with
  | some v => v.text.toList
  | none => placeholder name

/-- Blocks with all placeholders of bound names replaced at once, and a text after them. -/
def fillBlocks (params : Params) (last : List Char) : List Block → List Char
  | [] => last
  | b :: rest => b.literal ++ (standsFor params b.name ++ fillBlocks params last rest)

namespace SimpleText

/-- The text with all placeholders of bound names replaced at once. -/
def filled (t : SimpleText) (params : Params) : String :=
  String.ofList (fillBlocks params t.last t.blocks)

/-- The text itself, which has all its placeholders. -/
def text (t : SimpleText) : String :=
  t.filled []

end SimpleText

/-- A name that reads as an identifier of ASCII letters, digits and underscores. -/
def isAsciiIdentifier (name : String) : Bool :=
  match name.toList with
  | [] => false
  | c :: cs => isPlaceholderHead c && cs.all isPlaceholderTail

variable {name key : String} {put s rest last : List Char} {c : Char} {params done order : Params}
  {v : Value} {blocks : List Block}

section Filling

private theorem plain_of_not_mem (hs : '\x7b' ∉ s) : Plain s := by
  induction s with
  | nil => rw [Plain]; decide
  | cons c s ih =>
    rw [List.mem_cons, not_or] at hs
    exact plain_cons.mpr ⟨fun hc => absurd hc.symm hs.1, ih hs.2⟩

private theorem fill_append_of_plain (hplain : Plain s) :
    fill name put (s ++ rest) = s ++ fill name put rest := by
  induction s with
  | nil => rfl
  | cons c s ih =>
    rw [List.cons_append, fill_cons (not_placeholder_prefix_cons hplain.alone),
      ih (plain_cons.mp hplain).2, List.cons_append]

private theorem not_mentions_of_single (hsingle : ¬ ['\x7b', '\x7b'] <:+: s) : ¬ Mentions s name := by
  intro hmentions
  have hopens : ['\x7b', '\x7b'] <+: placeholder name := List.prefix_append _ _
  exact hsingle (hopens.isInfix.trans hmentions)

/-- The names and the values of some bindings have no braces. -/
def BindsBraceFree (params : Params) : Prop :=
  ∀ entry ∈ params, BraceFree entry.1.toList ∧ BraceFree entry.2.text.toList

private theorem BindsBraceFree.plain_text (hfree : BindsBraceFree params)
    (hv : Dict.get? name params = some v) : Plain v.text.toList :=
  plain_of_not_mem (hfree (name, v) (Dict.mem_of_get? hv)).2.1

/-- Filling the placeholders of one more name is replacing with one more binding. -/
theorem fill_fillBlocks (hdone : BindsBraceFree done) (hkey : BraceFree key.toList)
    (hfresh : Dict.get? key done = none) (hlast : ¬ ['\x7b', '\x7b'] <:+: last) :
    fill key v.text.toList (fillBlocks done last blocks) =
      fillBlocks ((key, v) :: done) last blocks := by
  induction blocks with
  | nil => exact fill_of_not_mentions (not_mentions_of_single hlast)
  | cons b rest ih =>
    rw [fillBlocks, fillBlocks, fill_append_of_plain b.plain_literal, standsFor, standsFor,
      Dict.get?_cons]
    by_cases hname : key = b.name
    · rw [if_pos hname, ← hname, hfresh]
      dsimp only
      rw [fill_placeholder, ih]
    · rw [if_neg hname]
      cases hv : Dict.get? b.name done with
      | some w =>
        dsimp only
        rw [fill_append_of_plain (hdone.plain_text hv), ih]
      | none =>
        have hstarts : ¬ placeholder key <+: placeholder b.name ++ fillBlocks done last rest :=
          fun hstarts => hname (eq_of_starts hkey.2 b.braceFree_name.2 hstarts)
        dsimp only
        rw [fill_other b.braceFree_name hstarts, ih]

private theorem fillBlocks_congr {others : Params} (hsame : ∀ m, Dict.get? m params = Dict.get? m others) :
    fillBlocks params last blocks = fillBlocks others last blocks := by
  induction blocks with
  | nil => rfl
  | cons b rest ih => rw [fillBlocks, fillBlocks, standsFor, standsFor, hsame, ih]

/-- With some names filled at once, filling the others one after another is filling all of them at
    once. -/
theorem fillAll_fillBlocks (hparams : (Dict.keys params).Nodup) (hfree : BindsBraceFree params)
    (hlast : ¬ ['\x7b', '\x7b'] <:+: last) (hperm : (order ++ done).Perm params) :
    fillAll order (fillBlocks done last blocks) = fillBlocks params last blocks := by
  induction order generalizing done with
  | nil =>
    have hdone : (Dict.keys done).Nodup := (hperm.map Prod.fst).nodup_iff.mpr hparams
    exact fillBlocks_congr (Dict.get?_perm hperm hdone)
  | cons entry order ih =>
    obtain ⟨key, v⟩ := entry
    have hkeys : (Dict.keys ((key, v) :: (order ++ done))).Nodup :=
      (hperm.map Prod.fst).nodup_iff.mpr hparams
    have hfresh : Dict.get? key done = none := by
      rw [Dict.get?_eq_none_iff]
      intro hmem
      refine (List.nodup_cons.mp hkeys).1 ?_
      rw [List.map_append]
      exact List.mem_append_right _ hmem
    have hkey : BraceFree key.toList := (hfree _ (hperm.subset List.mem_cons_self)).1
    have hdone : BindsBraceFree done := fun entry hentry =>
      hfree entry (hperm.subset (List.mem_append_right _ hentry))
    rw [fillAll_cons, fill_fillBlocks hdone hkey hfresh hlast]
    exact ih (List.perm_middle.trans hperm)

private theorem SimpleText.fillPlaceholders_text (t : SimpleText) (hparams : (Dict.keys params).Nodup)
    (hfree : BindsBraceFree params) (horder : order.Perm params) :
    fillPlaceholders order t.text = t.filled params := by
  rw [← String.toList_inj, toList_fillPlaceholders, text, filled, filled, String.toList_ofList,
    String.toList_ofList]
  exact fillAll_fillBlocks hparams hfree t.single_last (by rwa [List.append_nil])

end Filling

section Scanning

private theorem startsWithPlaceholder_eq_false (halone : c = '\x7b' → rest.head? ≠ some '\x7b') :
    startsWithPlaceholder (c :: rest) = false := by
  cases rest with
  | nil => rfl
  | cons b rest =>
    cases rest with
    | nil => rfl
    | cons d rest =>
      rw [startsWithPlaceholder]
      by_cases hc : c = '\x7b'
      · have hb : b ≠ '\x7b' := fun hb => halone hc (congrArg some hb)
        simp [hb]
      · simp [hc]

private theorem hasPlaceholder_cons (halone : c = '\x7b' → rest.head? ≠ some '\x7b') :
    hasPlaceholder (c :: rest) = hasPlaceholder rest := by
  rw [hasPlaceholder, startsWithPlaceholder_eq_false halone, Bool.false_or]

private theorem hasPlaceholder_append_of_plain (hplain : Plain s) :
    hasPlaceholder (s ++ rest) = hasPlaceholder rest := by
  induction s with
  | nil => rfl
  | cons c s ih =>
    rw [List.cons_append, hasPlaceholder_cons hplain.alone, ih (plain_cons.mp hplain).2]

private theorem hasPlaceholder_of_single (hsingle : ¬ ['\x7b', '\x7b'] <:+: s) :
    hasPlaceholder s = false := by
  induction s with
  | nil => rfl
  | cons c s ih =>
    rw [List.infix_cons_iff, not_or, List.cons_prefix_cons, not_and] at hsingle
    rw [hasPlaceholder_cons, ih hsingle.2]
    intro hc hhead
    cases s with
    | nil => cases hhead
    | cons d s =>
      refine hsingle.1 hc.symm ?_
      rw [List.cons_prefix_cons]
      exact ⟨(Option.some.inj hhead).symm, List.nil_prefix⟩

/-- A name is closed where its characters end, if all of these may continue it. -/
theorem isPrefixOf_dropWhile (hs : '\x7d' ∉ s) :
    ['\x7d', '\x7d'].isPrefixOf
      ((s ++ '\x7d' :: '\x7d' :: rest).dropWhile isPlaceholderTail) = s.all isPlaceholderTail := by
  induction s with
  | nil =>
    have hclose : isPlaceholderTail '\x7d' = false := by decide
    simp [hclose]
  | cons c s ih =>
    rw [List.mem_cons, not_or] at hs
    rw [List.cons_append, List.dropWhile_cons, List.all_cons]
    cases hc : isPlaceholderTail c with
    | true => rw [if_pos rfl, ih hs.2, Bool.true_and]
    | false => simp [List.isPrefixOf, hs.1]

/-- The scan finds the placeholder of a name without braces where the name is an ASCII identifier. -/
theorem startsWithPlaceholder_placeholder (hname : BraceFree name.toList) :
    startsWithPlaceholder (placeholder name ++ rest) = isAsciiIdentifier name := by
  have hsplit : placeholder name ++ rest =
      '\x7b' :: '\x7b' :: (name.toList ++ '\x7d' :: '\x7d' :: rest) := by
    simp [placeholder, placeholderTail]
  rw [hsplit, isAsciiIdentifier]
  cases hcs : name.toList with
  | nil =>
    have hclose : isPlaceholderHead '\x7d' = false := by decide
    simp [startsWithPlaceholder, hclose]
  | cons c cs =>
    have hclosed : '\x7d' ∉ cs := fun hmem => hname.2 (hcs ▸ List.mem_cons_of_mem c hmem)
    rw [List.cons_append, startsWithPlaceholder, isPrefixOf_dropWhile hclosed]
    simp

private theorem hasPlaceholder_placeholder (hname : BraceFree name.toList) :
    hasPlaceholder (placeholder name ++ rest) = (isAsciiIdentifier name || hasPlaceholder rest) := by
  let inner := name.toList ++ ['\x7d', '\x7d']
  have hinner : '\x7b' ∉ inner := by
    simpa [inner] using hname.1
  have hsecond : hasPlaceholder ('\x7b' :: (inner ++ rest)) = hasPlaceholder rest := by
    rw [hasPlaceholder_cons fun _ => head?_append_ne (by simp [inner]) hinner,
      hasPlaceholder_append_of_plain (plain_of_not_mem hinner)]
  calc hasPlaceholder (placeholder name ++ rest)
      = (startsWithPlaceholder (placeholder name ++ rest) ||
          hasPlaceholder ('\x7b' :: (inner ++ rest))) := rfl
    _ = (isAsciiIdentifier name || hasPlaceholder rest) := by
      rw [startsWithPlaceholder_placeholder hname, hsecond]

/-- A placeholder that the scan finds is left where one of an unbound name was that is an ASCII
    identifier, and nowhere else. -/
theorem hasPlaceholder_fillBlocks (hfree : BindsBraceFree params)
    (hlast : ¬ ['\x7b', '\x7b'] <:+: last) :
    hasPlaceholder (fillBlocks params last blocks) = true ↔
      ∃ b ∈ blocks, Dict.get? b.name params = none ∧ isAsciiIdentifier b.name = true := by
  induction blocks with
  | nil => simp [fillBlocks, hasPlaceholder_of_single hlast]
  | cons b rest ih =>
    rw [fillBlocks, hasPlaceholder_append_of_plain b.plain_literal, standsFor, List.exists_mem_cons_iff,
      ← ih]
    cases hv : Dict.get? b.name params with
    | some v => simp [hasPlaceholder_append_of_plain (hfree.plain_text hv)]
    | none => simp [hasPlaceholder_placeholder b.braceFree_name]

end Scanning

namespace Rule

private theorem hasUnresolved_iff {rule : Rule} :
    rule.hasUnresolved = true ↔ ∃ s ∈ rule.texts, hasPlaceholder s.toList = true := by
  simp only [hasUnresolved, texts, Bool.or_eq_true, List.any_eq_true, List.mem_cons, exists_eq_or_imp,
    or_assoc, List.mem_map, exists_exists_and_eq_and]

/-- Replacing the placeholders of a simple rule one name after another, in any order, is replacing all of
    them at once, and touches nothing but the path, the body and the header values. A placeholder is
    found in the result if and only if one of an unbound name was there that is an ASCII identifier. -/
theorem substitute_eq_filled (rule : Rule) (params order : Params) (path body : SimpleText)
    (headers : Dict SimpleText) (hparams : (Dict.keys params).Nodup)
    (hfree : ∀ entry ∈ params, BraceFree entry.1.toList ∧ BraceFree entry.2.text.toList)
    (horder : order.Perm params) (hpath : Text.trim rule.path = path.text)
    (hbody : Text.trim rule.body = body.text)
    (hheaders : rule.headers = headers.mapValues SimpleText.text) :
    rule.substitute order =
        { rule with
          path := path.filled params
          body := body.filled params
          headers := headers.mapValues fun t => t.filled params } ∧
      ((rule.substitute order).hasUnresolved = true ↔
        ∃ t ∈ path :: body :: headers.map Prod.snd, ∃ b ∈ t.blocks,
          Dict.get? b.name params = none ∧ isAsciiIdentifier b.name = true) := by
  have hfilled (t : SimpleText) : fillPlaceholders order t.text = t.filled params :=
    t.fillPlaceholders_text hparams hfree horder
  have hresult : rule.substitute order =
      { rule with
        path := path.filled params
        body := body.filled params
        headers := headers.mapValues fun t => t.filled params } := by
    rw [substitute, hpath, hbody, hheaders, hfilled, hfilled]
    simp only [Dict.mapValues, List.map_map, Function.comp_def, hfilled]
  refine ⟨hresult, ?_⟩
  have hscan (t : SimpleText) : hasPlaceholder (t.filled params).toList = true ↔
      ∃ b ∈ t.blocks, Dict.get? b.name params = none ∧ isAsciiIdentifier b.name = true := by
    rw [SimpleText.filled, String.toList_ofList]
    exact hasPlaceholder_fillBlocks hfree t.single_last
  have htexts : (rule.substitute order).texts =
      (path :: body :: headers.map Prod.snd).map fun t => t.filled params := by
    rw [hresult]
    simp [texts, Dict.mapValues]
  rw [hasUnresolved_iff, htexts]
  simp only [List.mem_map, exists_exists_and_eq_and, hscan]

/-- Names that begin one another, side by side, a value without any text, single braces, and a name that
    is not bound. -/
theorem substitute_eq_filled_sample :
    let rule : Rule :=
      { method := "GET", path := " /\x7b\x7ba\x7d\x7d\x7b\x7bab\x7d\x7d/\x7b\x7babc\x7d\x7d "
        body := "\x7b\"k\": \x7b\x7ba\x7d\x7d\x7d", headers := [], followRedirects := true
        search := none, expression := "true" }
    let params : Params := [("a", .string ""), ("ab", .int 7)]
    let order : Params := [("ab", .int 7), ("a", .string "")]
    let once : Rule := { rule with path := "/7/\x7b\x7babc\x7d\x7d", body := "\x7b\"k\": \x7d" }
    (Dict.keys params).Nodup ∧ order.Perm params ∧ rule.substitute order = once ∧
      once.hasUnresolved = true := by
  intro rule params order once
  let path : SimpleText :=
    { blocks :=
        [⟨['/'], "a", by rw [Plain]; decide, by rw [BraceFree]; decide⟩,
          ⟨[], "ab", by rw [Plain]; decide, by rw [BraceFree]; decide⟩,
          ⟨['/'], "abc", by rw [Plain]; decide, by rw [BraceFree]; decide⟩]
      last := []
      single_last := by decide }
  let body : SimpleText :=
    { blocks := [⟨"\x7b\"k\": ".toList, "a", by rw [Plain]; decide, by rw [BraceFree]; decide⟩]
      last := ['\x7d']
      single_last := by decide }
  have hparams : (Dict.keys params).Nodup := by decide
  have hfree : ∀ entry ∈ params, BraceFree entry.1.toList ∧ BraceFree entry.2.text.toList := by
    simp only [params, List.forall_mem_cons, BraceFree]
    decide
  have horder : order.Perm params := List.Perm.swap ..
  obtain ⟨hresult, hscan⟩ := substitute_eq_filled rule params order path body [] hparams hfree horder
    (by decide) (by decide) rfl
  have honce : rule.substitute order = once := hresult.trans (by decide)
  rw [honce] at hscan
  refine ⟨hparams, horder, honce, hscan.mpr ⟨path, List.mem_cons_self, ?_⟩⟩
  exact ⟨path.blocks[2], by simp [path], by decide, by decide⟩

end Rule

end VulnProbe
