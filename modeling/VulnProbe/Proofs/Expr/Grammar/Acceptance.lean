import VulnProbe.Proofs.Expr.Grammar.Complete.Operands
import VulnProbe.Proofs.Expr.Grammar.Complete.Operators
import VulnProbe.Proofs.Expr.Grammar.Sound
import VulnProbe.Proofs.Expr.Tokenize

namespace VulnProbe.Expr

open VulnProbe.Expr.Parser

section Complete

/-- The tokens of a phrase are read as that phrase. -/
def Reads : Phrase → List Token → Nat → Prop
  | .tree l e => ReadsTree l e
  | .arguments es => ReadsArguments es
  | .items es => ReadsItems es
  | .entries ps => ReadsEntries ps
  | .pairs ps => ReadsPairs ps

/-- Every derivation is followed by the readers. -/
theorem Derives.reads {p : Phrase} {ts : List Token} {d : Nat} (hp : Derives p ts d) : Reads p ts d := by
  induction hp with
  | plain _ ih => exact readsTree_plain ih
  | conditional _ _ _ ihtest ihyes ihno => exact readsTree_conditional ihtest ihyes ihno
  | tighten hl he ih => exact readsTree_tighten hl ih he
  | binary hl _ _ ihlhs ihrhs => exact readsTree_binary hl ihlhs ihrhs
  | sign _ ih => exact readsTree_sign ih
  | select _ ih => exact readsTree_select ih
  | method _ _ ih ihargs => exact readsTree_method ih ihargs
  | index _ _ ih ihi => exact readsTree_index ih ihi
  | literal ht => exact readsTree_literal ht
  | ident hname => exact readsTree_ident hname
  | call hname _ ih => exact readsTree_call hname ih
  | paren _ ih => exact readsTree_paren ih
  | list _ ih => exact readsTree_list ih
  | map _ ih => exact readsTree_map ih
  | noItems => exact readsArguments_none
  | someItems hes ih => exact readsArguments_some ih hes
  | lastItem _ ih => exact readsItems_last ih
  | nextItem _ _ ih ihes => exact readsItems_next ih ihes
  | noPairs => exact readsEntries_none
  | somePairs hps ih => exact readsEntries_some ih hps
  | lastPair _ _ ihk ihv => exact readsPairs_last ihk ihv
  | nextPair _ _ _ ihk ihv ihps => exact readsPairs_next ihk ihv ihps

end Complete

/-- The tokens derive a tree that is not too high, with not too many expressions and signs open at
    once. -/
def Accepts (ts : List Token) (e : Expr) : Prop :=
  e.height ≤ maxDepth ∧ ∃ d ≤ maxDepth, Derives (.tree .expression e) ts d

/-- Tokens that are accepted are read up to the end of input. -/
theorem ofTokens_of_accepts {us : Tokens} {e : Expr} (haccepts : Accepts (us.map (·.token)) e)
    (pos : Nat) :
    ofTokens (us ++ [⟨.endOfInput, pos⟩]) = .ok e := by
  obtain ⟨hmax, d, hd, hder⟩ := haccepts
  have hreads : ReadsTree .expression e (us.map (·.token)) d := hder.reads
  have hexpression : expression maxDepth (us ++ [⟨.endOfInput, pos⟩]) =
      .ok ((e, e.height), [⟨.endOfInput, pos⟩]) :=
    hreads.stopped rfl hd (Level.stops_of_endsTree rfl rfl _) hmax
  rw [ofTokens, hexpression]
  rfl

/-- Tokens with the end of input after them and nowhere else are accepted, or refused with a syntax
    error. -/
theorem ofTokens_cases {us : Tokens} (hus : ∀ t ∈ us, t.token ≠ .endOfInput) (pos : Nat) :
    (∃ err, ofTokens (us ++ [⟨.endOfInput, pos⟩]) = .error err ∧ IsSyntaxError err) ∨
      ∃ e, ofTokens (us ++ [⟨.endOfInput, pos⟩]) = .ok e ∧ Accepts (us.map (·.token)) e := by
  have hclosed : Closed (us ++ [⟨.endOfInput, pos⟩]) := ⟨us, _, rfl, rfl⟩
  rcases (sound_readers maxDepth).1.cases hclosed with
    ⟨err, herr, _, _, _, issue, _, _, rfl⟩ | ⟨e, vs, rest, d, he, hts, hrest, hmax, hd, hder⟩
  · exact .inl ⟨_, by rw [ofTokens, expression, herr], _, issue, rfl⟩
  rw [ofTokens, expression, he]
  obtain ⟨ws, last, rfl, -⟩ := hrest
  rw [← List.append_assoc] at hts
  obtain ⟨rfl, -⟩ := List.append_inj' hts rfl
  by_cases hpeek : peek (ws ++ [last]) = .endOfInput
  · -- the end of input stands nowhere else, so that nothing but it is left
    cases ws with
    | nil =>
      rw [List.append_nil]
      exact .inr ⟨e, if_pos hpeek, hmax, d, by omega, hder⟩
    | cons w ws => exact absurd hpeek (hus w (by simp))
  · exact .inl ⟨_, if_neg hpeek, _, _, rfl⟩

/-- Parsing a text is parsing the tokens that it is cut into. -/
theorem parse_of_tokenize {source : String} {ts : Tokens} (htokens : tokenize source = .ok ts) :
    parse source = ofTokens ts := by
  rw [parse, htokens]

/-- The tokens of a text that is parsed are accepted as the tree. -/
theorem parse_eq_ok_iff_accepts {source : String} {e : Expr} :
    parse source = .ok e ↔
      ∃ (us : Tokens) (pos : Nat),
        tokenize source = .ok (us ++ [⟨.endOfInput, pos⟩]) ∧ Accepts (us.map (·.token)) e := by
  constructor
  · intro hparse
    rcases tokenize_cases source with ⟨err, herr, -⟩ | ⟨us, last, htokens, hus⟩
    · rw [parse, herr] at hparse
      cases hparse
    · rw [parse_of_tokenize htokens] at hparse
      rcases ofTokens_cases hus last with ⟨err, herr, -⟩ | ⟨e', he', haccepts⟩
      · rw [herr] at hparse
        cases hparse
      · obtain rfl : e' = e := Except.ok.inj (he'.symm.trans hparse)
        exact ⟨us, last, htokens, haccepts⟩
  · rintro ⟨us, pos, htokens, haccepts⟩
    rw [parse_of_tokenize htokens]
    exact ofTokens_of_accepts haccepts pos

/-- A text that is not parsed is refused with a syntax error. -/
theorem failsBySyntax_parse (source : String) : FailsBySyntax (parse source) := by
  intro err herr
  rcases tokenize_cases source with ⟨err', herr', hsyntax⟩ | ⟨us, last, htokens, hus⟩
  · rw [parse, herr'] at herr
    cases herr
    exact hsyntax
  · rw [parse_of_tokenize htokens] at herr
    rcases ofTokens_cases hus last with ⟨err', herr', hsyntax⟩ | ⟨e, he, -⟩
    · rw [herr'] at herr
      cases herr
      exact hsyntax
    · rw [he] at herr
      cases herr

/-- A text is parsed to a tree if and only if its tokens before the end of input derive that tree within
    the bounds, and a text that is not parsed is refused with a syntax error. -/
theorem parse_eq_ok_iff_derives (source : String) :
    (∀ e, parse source = .ok e ↔
      ∃ us pos, tokenize source = .ok (us ++ [⟨.endOfInput, pos⟩]) ∧ Accepts (us.map (·.token)) e) ∧
      ((∀ e, parse source ≠ .ok e) → ∃ pos issue, parse source = .error (.syntaxError pos issue)) := by
  refine ⟨fun e => parse_eq_ok_iff_accepts, fun hnone => ?_⟩
  cases hparse : parse source with
  | error err =>
    obtain ⟨pos, issue, rfl⟩ := failsBySyntax_parse source err hparse
    exact ⟨pos, issue, rfl⟩
  | ok e => exact absurd hparse (hnone e)

end VulnProbe.Expr
