import Mathlib.Algebra.Order.BigOperators.Group.List
import VulnProbe.Proofs.Dict
import VulnProbe.Proofs.Run.Template.Filling

namespace VulnProbe

/-- A text with the placeholders of all bound names replaced, in the order of the names, each in the
    text that the names before it leave. So a value can bring in the placeholder of a later name. -/
def fillAll (params : Params) (s : List Char) : List Char :=
  params.foldl (fun s entry => fill entry.1 entry.2.text.toList s) s

/-- The placeholder of a name comes up in a text while those of bound names are filled: it occurs once
    the names before it are filled. -/
def Reaches (params : Params) (s : List Char) (name : String) : Prop :=
  Mentions (fillAll (params.filter fun entry => entry.1 < name) s) name

variable {params others : Params} {s : List Char} {name key : String} {v : Value}

/-- The characters of a text in which all placeholders are filled. -/
theorem toList_fillPlaceholders (params : Params) (s : String) :
    (fillPlaceholders params s).toList = fillAll params s.toList := by
  induction params generalizing s with
  | nil => rfl
  | cons entry params ih =>
    have hstep : fillPlaceholders (entry :: params) s =
        fillPlaceholders params (fillPlaceholder entry.1 entry.2 s) := rfl
    rw [hstep, ih, toList_fillPlaceholder]
    rfl

/-- The placeholder of the first name is filled before those of the others, so that its value is read
    again. -/
theorem fillAll_cons (key : String) (v : Value) (params : Params) (s : List Char) :
    fillAll ((key, v) :: params) s = fillAll params (fill key v.text.toList s) :=
  rfl

private theorem fillAll_append (params others : Params) (s : List Char) :
    fillAll (params ++ others) s = fillAll others (fillAll params s) :=
  List.foldl_append

section Agreement

/-- Bindings bind the names that come up in the filling of a text by others as those do. -/
def AgreeOnReached (params others : Params) (s : List Char) : Prop :=
  ∀ name, Reaches params s name → Dict.get? name others = Dict.get? name params

/-- A name that does not come up can be left out. -/
theorem fillAll_of_not_mentions (hnot : ¬ Mentions s key) :
    fillAll ((key, v) :: params) s = fillAll params s := by
  rw [fillAll_cons, fill_of_not_mentions hnot]

private theorem reaches_of_before (hbefore : Dict.Before name params) :
    Reaches params s name ↔ Mentions s name := by
  rw [Reaches, hbefore.filter]
  rfl

private theorem reaches_head (hbefore : Dict.Before name params) :
    Reaches ((name, v) :: params) s name ↔ Mentions s name := by
  rw [Reaches, List.filter_cons_of_neg (by simp), hbefore.filter]
  rfl

private theorem reaches_tail (hlt : key < name) :
    Reaches ((key, v) :: params) s name ↔ Reaches params (fill key v.text.toList s) name := by
  rw [Reaches, List.filter_cons_of_pos (by exact decide_eq_true hlt)]
  rfl

/-- A name that only the first bindings bind does not come up, if it is the first of all. -/
theorem not_mentions_of_left (hparams : Dict.Before key params) (hothers : Dict.Before key others)
    (hagree : AgreeOnReached ((key, v) :: params) others s) : ¬ Mentions s key := by
  intro hmentions
  have hsame := hagree key ((reaches_head hparams).mpr hmentions)
  rw [Dict.get?_cons, if_pos rfl, hothers.get?] at hsame
  cases hsame

private theorem not_mentions_of_right (hparams : Dict.Before key params)
    (hagree : AgreeOnReached params ((key, v) :: others) s) : ¬ Mentions s key := by
  intro hmentions
  have hsame := hagree key ((reaches_of_before hparams).mpr hmentions)
  rw [Dict.get?_cons, if_pos rfl, hparams.get?] at hsame
  cases hsame

private theorem AgreeOnReached.drop_right (hparams : Dict.Before key params) (hnot : ¬ Mentions s key)
    (hagree : AgreeOnReached params ((key, v) :: others) s) : AgreeOnReached params others s := by
  intro name hreaches
  have hne : key ≠ name := by
    rintro rfl
    exact hnot ((reaches_of_before hparams).mp hreaches)
  rw [← hagree name hreaches, Dict.get?_cons, if_neg hne]

/-- Agreement passes to the names behind the first one, and to the text with that one filled. -/
theorem AgreeOnReached.tail (hparams : Dict.Before key params) (hothers : Dict.Before key others)
    (hagree : ∀ name, key < name → Reaches ((key, v) :: params) s name →
      Dict.get? name others = Dict.get? name ((key, v) :: params)) :
    AgreeOnReached params others (fill key v.text.toList s) := by
  intro name hreaches
  by_cases hlt : key < name
  · rw [hagree name hlt ((reaches_tail hlt).mpr hreaches), Dict.get?_cons, if_neg (ne_of_lt hlt)]
  · have hle : name ≤ key := not_lt.mp hlt
    rw [(hothers.of_le hle).get?, (hparams.of_le hle).get?]

/-- Bindings that agree on the names that come up fill a text in the same way. The first name that
    either of them binds is bound by both alike, or does not come up. -/
theorem fillAll_eq_of_agree (hparams : Dict.Sorted params) (hothers : Dict.Sorted others)
    (hagree : AgreeOnReached params others s) : fillAll others s = fillAll params s := by
  induction params generalizing others s with
  | nil =>
    induction others with
    | nil => rfl
    | cons entry others ih =>
      have hnot := not_mentions_of_right Dict.before_nil hagree
      rw [fillAll_of_not_mentions hnot]
      exact ih (Dict.sorted_cons.mp hothers).2 (hagree.drop_right Dict.before_nil hnot)
  | cons entry params ih =>
    obtain ⟨a, v⟩ := entry
    obtain ⟨hbehind, hparams⟩ := Dict.sorted_cons.mp hparams
    have hskip {others : Params} (hfirst : Dict.Before a others) (hothers : Dict.Sorted others)
        (hagree : AgreeOnReached ((a, v) :: params) others s) :
        fillAll others s = fillAll ((a, v) :: params) s := by
      have htail := AgreeOnReached.tail hbehind hfirst fun name _ => hagree name
      have hnot := not_mentions_of_left hbehind hfirst hagree
      rw [fill_of_not_mentions hnot] at htail
      rw [fillAll_of_not_mentions hnot]
      exact ih hparams hothers htail
    induction others with
    | nil => exact hskip Dict.before_nil hothers hagree
    | cons entry others ih' =>
      obtain ⟨b, w⟩ := entry
      obtain ⟨hbehind', hrest⟩ := Dict.sorted_cons.mp hothers
      have hbehind' : Dict.Before b others := hbehind'
      rcases lt_trichotomy a b with hab | rfl | hba
      · exact hskip (Dict.before_cons.mpr ⟨hab, hbehind'.of_le (le_of_lt hab)⟩) hothers hagree
      · have hsame : fill a w.text.toList s = fill a v.text.toList s := by
          by_cases hmentions : Mentions s a
          · have hboth := hagree a ((reaches_head hbehind).mpr hmentions)
            rw [Dict.get?_cons, if_pos rfl, Dict.get?_cons, if_pos rfl, Option.some_inj] at hboth
            rw [hboth]
          · rw [fill_of_not_mentions hmentions, fill_of_not_mentions hmentions]
        rw [fillAll_cons, fillAll_cons, hsame]
        refine ih hparams hrest (AgreeOnReached.tail hbehind hbehind' fun name hlt hreaches => ?_)
        rw [← hagree name hreaches, Dict.get?_cons, if_neg (ne_of_lt hlt)]
      · have hfirst : Dict.Before b ((a, v) :: params) :=
          Dict.before_cons.mpr ⟨hba, Dict.Before.of_le hbehind (le_of_lt hba)⟩
        have hnot := not_mentions_of_right hfirst hagree
        rw [fillAll_of_not_mentions hnot]
        exact ih' hrest (hagree.drop_right hfirst hnot)

end Agreement

section Reached

variable {w : List Char}

private theorem fillAll_insert (hparams : Dict.Sorted params) :
    fillAll (Dict.insert name v params) s =
      fillAll (params.filter fun entry => name < entry.1)
        (fill name v.text.toList (fillAll (params.filter fun entry => entry.1 < name) s)) := by
  rw [Dict.insert_eq_append hparams, fillAll_append, fillAll_cons]

/-- A text without braces that is longer than all bound names is left by the filling of them. -/
theorem infix_fillAll (hw : BraceFree w) (hlong : ∀ key ∈ Dict.keys params, key.length < w.length)
    (hoccurs : w <:+: s) : w <:+: fillAll params s := by
  induction params generalizing s with
  | nil => exact hoccurs
  | cons entry params ih =>
    obtain ⟨key, v⟩ := entry
    have hstep : w <:+: fill key v.text.toList s :=
      infix_fill_of_braceFree hw (hlong key List.mem_cons_self) hoccurs
    exact ih (fun k hk => hlong k (List.mem_cons_of_mem _ hk)) hstep

/-- What is bound to a name that comes up shows in the filled text. -/
theorem exists_fillAll_insert_ne (hparams : Dict.Sorted params) (hreaches : Reaches params s name) :
    ∃ v, fillAll (Dict.insert name v params) s ≠ fillAll params s := by
  let lengths := (Dict.keys params).map String.length
  let w := List.replicate (lengths.sum + (fillAll params s).length + 1) 'a'
  have hw : BraceFree w := by
    constructor <;> intro hmem <;> exact absurd (List.eq_of_mem_replicate hmem) (by decide)
  have hlength : w.length = lengths.sum + (fillAll params s).length + 1 := List.length_replicate
  have hlong : ∀ key ∈ Dict.keys (params.filter fun entry => name < entry.1),
      key.length < w.length := by
    intro key hkey
    have hmem : key ∈ Dict.keys params := (List.filter_sublist.map _).subset hkey
    have hle : key.length ≤ lengths.sum := List.le_sum_of_mem (List.mem_map_of_mem hmem)
    omega
  refine ⟨.string (String.ofList w), fun hsame => ?_⟩
  have hput : w <:+: fillAll (Dict.insert name (.string (String.ofList w)) params) s := by
    rw [fillAll_insert hparams]
    refine infix_fillAll hw hlong ?_
    have htext : (Value.string (String.ofList w)).text.toList = w := by
      rw [Value.text, String.toList_ofList]
    rw [htext]
    exact put_infix_fill hreaches
  have hle := hput.length_le
  rw [hsame] at hle
  omega

end Reached

namespace Rule

variable {rule : Rule}

/-- The texts of a rule that may hold placeholders. -/
def texts (rule : Rule) : List String :=
  rule.path :: rule.body :: rule.headers.map (·.2)

/-- A rule as it is when its placeholders are replaced, without outer blanks in path and body. -/
def trimmed (rule : Rule) : Rule :=
  { rule with
    path := Text.trim rule.path
    body := Text.trim rule.body }

/-- The placeholder of a name occurs in the path, the body or a header value of a rule. -/
def Mentions (rule : Rule) (name : String) : Prop :=
  ∃ s ∈ rule.texts, VulnProbe.Mentions s.toList name

/-- The placeholder of a name comes up in the path, the body or a header value of a rule while its
    placeholders are replaced: it is there once the bound names before it are replaced. -/
def Reaches (rule : Rule) (params : Params) (name : String) : Prop :=
  ∃ s ∈ rule.trimmed.texts, VulnProbe.Reaches params s.toList name

private theorem substitute_eq_iff :
    rule.substitute others = rule.substitute params ↔
      ∀ s ∈ rule.trimmed.texts, fillAll others s.toList = fillAll params s.toList := by
  have htext (s : String) : fillPlaceholders others s = fillPlaceholders params s ↔
      fillAll others s.toList = fillAll params s.toList := by
    rw [← String.toList_inj, toList_fillPlaceholders, toList_fillPlaceholders]
  simp only [substitute, trimmed, texts, List.forall_mem_cons, mk.injEq, Dict.mapValues,
    List.map_inj_left, List.forall_mem_map, Prod.mk.injEq, true_and, and_true, htext]

/-- The placeholders in a rule settle its request, whatever other names are bound to, exactly if the
    filling of its placeholders brings up no others. -/
theorem substitute_dependsOnMentioned_iff (rule : Rule) {params : Params}
    (hparams : Dict.Sorted params) :
    (∀ others : Params, Dict.Sorted others →
      (∀ name, rule.Mentions name → Dict.get? name others = Dict.get? name params) →
      rule.substitute others = rule.substitute params) ↔
    ∀ name, rule.Reaches params name → rule.Mentions name := by
  constructor
  · rintro hdepends name ⟨s, hs, hreaches⟩
    by_contra hnot
    obtain ⟨v, hv⟩ := exists_fillAll_insert_ne hparams hreaches
    refine hv (substitute_eq_iff.mp (hdepends _ (Dict.sorted_insert name v hparams) ?_) s hs)
    intro key hkey
    have hne : key ≠ name := by
      rintro rfl
      exact hnot hkey
    exact Dict.get?_insert_of_ne hne v params
  · intro hmentions others hothers hagree
    refine substitute_eq_iff.mpr fun s hs => fillAll_eq_of_agree hparams hothers ?_
    exact fun name hreaches => hagree name (hmentions name ⟨s, hs, hreaches⟩)

/-- A value that brings in no placeholder: other bindings that agree with it on the name in the path
    fill the rule in the same way. -/
theorem substitute_dependsOnMentioned_sample :
    let rule : Rule :=
      { method := "GET", path := "/\x7b\x7ba\x7d\x7d", body := "", headers := []
        followRedirects := true, search := none, expression := "true" }
    let params : Params := [("a", .string "x")]
    Dict.Sorted params ∧
      ∀ others : Params, Dict.Sorted others →
        (∀ name, rule.Mentions name → Dict.get? name others = Dict.get? name params) →
        rule.substitute others = { rule with path := "/x" } := by
  intro rule params
  have hparams : Dict.Sorted params := List.pairwise_singleton _ _
  have honce : rule.substitute params = { rule with path := "/x" } := by decide
  have hmentions (name : String) (hreaches : rule.Reaches params name) : rule.Mentions name := by
    obtain ⟨s, hs, hreaches⟩ := hreaches
    have htexts : rule.trimmed.texts = rule.texts := by decide
    rw [htexts] at hs
    rw [VulnProbe.Reaches] at hreaches
    by_cases hlt : "a" < name
    · have hclosed : '\x7b' ∉ fillAll params s.toList := by
        have hs : s = rule.path ∨ s = rule.body := by simpa [texts, rule] using hs
        rcases hs with rfl | rfl <;> decide
      rw [List.filter_cons_of_pos (by exact decide_eq_true hlt)] at hreaches
      exact absurd (hreaches.subset List.mem_cons_self) hclosed
    · rw [List.filter_cons_of_neg (by exact mt of_decide_eq_true hlt)] at hreaches
      exact ⟨s, hs, hreaches⟩
  refine ⟨hparams, fun others hothers hagree => ?_⟩
  rw [← honce]
  exact (substitute_dependsOnMentioned_iff rule hparams).mpr hmentions others hothers hagree

/-- A value may bring in the placeholder of a later name, which is then replaced although the rule
    does not name it. -/
theorem substitute_value_with_placeholder :
    let rule : Rule :=
      { method := "GET", path := "/\x7b\x7ba\x7d\x7d", body := "", headers := []
        followRedirects := true, search := none, expression := "true" }
    let params : Params := [("a", .string "\x7b\x7bb\x7d\x7d")]
    let others : Params := [("a", .string "\x7b\x7bb\x7d\x7d"), ("b", .string "x")]
    Dict.Sorted params ∧ Dict.Sorted others ∧
      (∀ name, rule.Mentions name → Dict.get? name others = Dict.get? name params) ∧
      rule.substitute params = { rule with path := "/\x7b\x7bb\x7d\x7d" } ∧
      rule.substitute others = { rule with path := "/x" } := by
  intro rule params others
  have hothers : Dict.Sorted others := by
    rw [Dict.Sorted]
    decide
  refine ⟨List.pairwise_singleton _ _, hothers, ?_, by decide, by decide⟩
  rintro name ⟨s, hs, hmentions⟩
  have hs : s = rule.path ∨ s = rule.body := by simpa [texts, rule] using hs
  have hname : name = "a" := by
    rcases hs with rfl | rfl
    · have hpath : rule.path.toList = '/' :: placeholder "a" := by decide
      rw [hpath, mentions_cons, placeholder_prefix_cons] at hmentions
      have hinside := hmentions.resolve_left fun hstarts => absurd hstarts.1 (by decide)
      exact eq_of_mentions_placeholder ⟨by decide, by decide⟩ hinside
    · exact absurd hmentions not_mentions_nil
  rw [hname]
  rfl

end Rule

end VulnProbe
