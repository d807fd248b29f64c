import VulnProbe.Proofs.Expr.Folding
import VulnProbe.Proofs.Expr.Grammar.Sound
import VulnProbe.Proofs.Expr.Positions

namespace VulnProbe.Expr

open VulnProbe.Expr.Parser

/-- An integer token is neither below zero nor above the greatest integer. -/
def IsUnsigned (t : Token) : Prop :=
  ∀ i, t = .int i → 0 ≤ i ∧ i ≤ maxInt

section Tokens

variable {pos extra : Nat} {c : Char} {rest : List Char} {token : Token}

private theorem isUnsigned_of_ne {t : Token} (ht : ∀ i, t ≠ .int i) : IsUnsigned t :=
  fun i hi => absurd hi (ht i)

private theorem isUnsigned_scanToken (htoken : scanToken pos c rest = .ok (token, extra)) :
    IsUnsigned token := by
  rcases scanToken_cases htoken with ⟨_, _, -, hquoted, -⟩ | ⟨-, hnumber | ⟨_, rfl, -⟩ | hsymbol⟩
  · rcases quotedToken_cases hquoted with ⟨_, -, rfl⟩ | ⟨_, -, rfl⟩
    · exact isUnsigned_of_ne (by simp)
    · exact isUnsigned_of_ne (by simp)
  · obtain ⟨n, rfl, hn⟩ := numberToken?_eq_some hnumber
    rintro _ ⟨⟩
    exact ⟨Int.natCast_nonneg n, hn⟩
  · exact isUnsigned_of_ne (by simp)
  · refine isUnsigned_of_ne ?_
    rintro i rfl
    exact symbolToken?_isSymbol _ _ _ hsymbol

/-- The integers among the tokens of a text have no sign and fit into 64 bits, so none of them is the
    least integer. -/
theorem isUnsigned_of_tokenize {source : String} {ts : List Located} (htokens : tokenize source = .ok ts) :
    ∀ t ∈ ts, IsUnsigned t.token := by
  intro t ht
  rcases (tokenize_positions htokens).1 t ht with ⟨hend, -⟩ | ⟨c, rest, extra, -, hscan⟩
  · rw [hend]
    exact isUnsigned_of_ne (by simp)
  · exact isUnsigned_scanToken hscan

end Tokens

section Trees

/-- The integer literals of a phrase are above the least integer and not above the greatest. -/
def Phrase.LiteralsFit : Phrase → Prop
  | .tree _ e => e.LiteralsFit
  | .items es => ∀ e ∈ es, e.LiteralsFit
  | .arguments es => ∀ e ∈ es, e.LiteralsFit
  | .pairs ps => ∀ e ∈ (Expr.map ps).parts, e.LiteralsFit
  | .entries ps => ∀ e ∈ (Expr.map ps).parts, e.LiteralsFit

private theorem literalsFit_literal {t : Token} {v : Value} (ht : LiteralToken t v)
    (hunsigned : IsUnsigned t) :
    LiteralsFit (.literal v) := by
  cases ht with
  | int i =>
    have hi := hunsigned i rfl
    rw [literalsFit_int]
    simp only [minInt, maxInt] at hi ⊢
    omega
  | _ => exact literalsFit_of_parts (by simp) (by simp [parts])

/-- What unsigned integers derive holds neither an integer out of range nor the least integer. -/
theorem Derives.literalsFit {p : Phrase} {ts : List Token} {d : Nat} (hp : Derives p ts d) :
    (∀ t ∈ ts, IsUnsigned t) → p.LiteralsFit := by
  induction hp with
  | plain _ ih | tighten _ _ ih | someItems _ ih | somePairs _ ih => exact ih
  | conditional _ _ _ ihtest ihyes ihno =>
    intro hts
    have htest := ihtest fun t ht => hts t (by simp [ht])
    have hyes := ihyes fun t ht => hts t (by simp [ht])
    have hno := ihno fun t ht => hts t (by simp [ht])
    exact literalsFit_of_parts (by simp) (by simpa [parts] using ⟨htest, hyes, hno⟩)
  | binary _ _ _ ihlhs ihrhs =>
    intro hts
    have hlhs := ihlhs fun t ht => hts t (by simp [ht])
    have hrhs := ihrhs fun t ht => hts t (by simp [ht])
    exact literalsFit_of_parts (by simp) (by simpa [parts] using ⟨hlhs, hrhs⟩)
  | sign _ ih =>
    intro hts
    exact literalsFit_over.mpr (ih fun t ht => hts t (by simp [ht]))
  | select _ ih =>
    intro hts
    have he := ih fun t ht => hts t (by simp [ht])
    exact literalsFit_of_parts (by simp) (List.forall_mem_singleton.mpr he)
  | method _ _ ih ihargs =>
    intro hts
    have he := ih fun t ht => hts t (by simp [ht])
    have hargs := ihargs fun t ht => hts t (by simp [ht])
    exact literalsFit_of_parts (by simp) (List.forall_mem_cons.mpr ⟨he, hargs⟩)
  | index _ _ ih ihi =>
    intro hts
    have he := ih fun t ht => hts t (by simp [ht])
    have hi := ihi fun t ht => hts t (by simp [ht])
    exact literalsFit_of_parts (by simp) (by simpa [parts] using ⟨he, hi⟩)
  | literal ht =>
    intro hts
    exact literalsFit_literal ht (hts _ List.mem_cons_self)
  | ident hname => exact fun _ => literalsFit_of_parts (by simp) (by simp [parts])
  | call _ _ ih | list _ ih | map _ ih =>
    intro hts
    exact literalsFit_of_parts (by simp) (ih fun t ht => hts t (by simp [ht]))
  | paren _ ih => exact fun hts => ih fun t ht => hts t (by simp [ht])
  | noItems | noPairs =>
    intro _
    simp [Phrase.LiteralsFit, parts]
  | lastItem _ ih =>
    intro hts
    exact List.forall_mem_singleton.mpr (ih hts)
  | nextItem _ _ ih ihes =>
    intro hts
    have he := ih fun t ht => hts t (by simp [ht])
    have hes := ihes fun t ht => hts t (by simp [ht])
    exact List.forall_mem_cons.mpr ⟨he, hes⟩
  | lastPair _ _ ihk ihv =>
    intro hts
    have hk := ihk fun t ht => hts t (by simp [ht])
    have hv := ihv fun t ht => hts t (by simp [ht])
    simpa [Phrase.LiteralsFit, parts] using ⟨hk, hv⟩
  | nextPair _ _ _ ihk ihv ihps =>
    intro hts
    have hk := ihk fun t ht => hts t (by simp [ht])
    have hv := ihv fun t ht => hts t (by simp [ht])
    have hps := ihps fun t ht => hts t (by simp [ht])
    exact List.forall_mem_cons.mpr ⟨hk, List.forall_mem_cons.mpr ⟨hv, hps⟩⟩

end Trees

namespace Parser

/-- Every reader gives only trees of its level. -/
theorem sound_reader (l : Level) (n : Nat) : Sound l (n + 1) (l.reader n) := by
  obtain ⟨hexpression, hsign⟩ := sound_readers n
  have hproduct := sound_chain (l := .product) rfl hsign
  have hsum := sound_chain (l := .sum) rfl hproduct
  have hrelation := sound_chain (l := .relation) rfl hsum
  cases l with
  | expression => exact hexpression
  | or => exact sound_disjunction hsign
  | and => exact sound_chain (l := .and) rfl hrelation
  | relation => exact hrelation
  | sum => exact hsum
  | product => exact hproduct
  | sign => exact hsign
  | postfixed => exact sound_postfixed hexpression n.succ_pos
  | primary => exact sound_primary hexpression n.succ_pos

/-- What is left of tokens that end with the end of input ends so, too, if anything is left. -/
theorem Closed.of_append {us ts : Tokens} (hclosed : Closed (us ++ ts)) (hne : ts ≠ []) : Closed ts := by
  obtain ⟨vs, last, hvs, hlast⟩ := hclosed
  rcases List.eq_nil_or_concat ts with rfl | ⟨before, t, rfl⟩
  · exact absurd rfl hne
  · rw [List.concat_eq_append, ← List.append_assoc] at hvs
    obtain ⟨-, ht⟩ := List.append_inj' hvs rfl
    rw [List.concat_eq_append, List.cons.inj ht |>.1]
    exact ⟨before, last, rfl, hlast⟩

end Parser

/-- Whatever tree is built at whatever place of a text, by a reader of any level that may open any number
    of expressions and signs, it does not hold the least integer, nor one out of range. -/
theorem literalsFit_of_reader {source : String} {ts before tail rest : Tokens} {l : Level} {n h : Nat}
    {e : Expr} (htokens : tokenize source = .ok ts) (hts : ts = before ++ tail) (htail : tail ≠ [])
    (hread : l.reader n tail = .ok ((e, h), rest)) : LiteralsFit e := by
  have hclosed : Closed tail := by
    rcases tokenize_cases source with ⟨_, herr, -⟩ | ⟨us, last, hus, -⟩
    · rw [herr] at htokens
      cases htokens
    · have hall : before ++ tail = us ++ [⟨.endOfInput, last⟩] :=
        hts.symm.trans (Except.ok.inj (htokens.symm.trans hus))
      exact Closed.of_append ⟨us, _, hall, rfl⟩ htail
  rcases (sound_reader l n).cases hclosed with
    ⟨err, herr, -⟩ | ⟨e', us, rest', d, hok, rfl, -, -, -, hder⟩
  · rw [herr] at hread
    cases hread
  · rw [hok] at hread
    cases hread
    refine hder.literalsFit fun t ht => ?_
    obtain ⟨u, hu, rfl⟩ := List.mem_map.mp ht
    exact isUnsigned_of_tokenize htokens u (by simp [hts, hu])

end VulnProbe.Expr
