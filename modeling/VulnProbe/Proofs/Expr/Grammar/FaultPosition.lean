import Mathlib.Control.Monad.Basic
import VulnProbe.Proofs.Expr.Grammar.Sound
import VulnProbe.Proofs.Expr.Positions

namespace VulnProbe.Expr

namespace Parser

/-- Closed tokens that have no tree have a fault at one of them. -/
theorem Closed.faultIn_ofTokens {ts : Tokens} {err : ExprError} (hclosed : Closed ts)
    (herror : ofTokens ts = .error err) : FaultIn ts err := by
  rw [ofTokens, expression] at herror
  rcases (sound_readers maxDepth).1.cases hclosed with
    ⟨err', hread, hfault⟩ | ⟨e, us, rest, d, hread, rfl, hrest, -⟩
  · rw [hread] at herror
    cases herror
    exact hfault
  · rw [hread] at herror
    dsimp only at herror
    split at herror <;> cases herror
    have hfault := hrest.faultIn_fail (.trailing _) (fun _ hfound => Option.some.inj hfound) rfl
    exact hfault.append us

/-- Past a token stands the next one, if there is one. -/
theorem position_advance_cons (t : Located) (rest : Tokens) :
    position (advance (t :: rest)) = (rest.head?.getD t).pos := by
  cases rest <;> rfl

/-- Where the end of input stands last and nowhere else, nothing but it stands last. -/
theorem token_eq_endOfInput_iff {us before rest : Tokens} {last t : Located}
    (hproper : ∀ u ∈ us, u.token ≠ .endOfInput) (hlast : last.token = .endOfInput)
    (hts : us ++ [last] = before ++ t :: rest) : t.token = .endOfInput ↔ rest = [] := by
  rcases List.eq_nil_or_concat rest with rfl | ⟨after, next, rfl⟩
  · obtain ⟨-, ht⟩ := List.append_inj' hts rfl
    rw [← List.head_eq_of_cons_eq ht]
    simpa using hlast
  · rw [List.concat_eq_append, ← List.cons_append, ← List.append_assoc] at hts
    obtain ⟨rfl, -⟩ := List.append_inj' hts rfl
    have ht := hproper t (by simp)
    simpa using ht

end Parser

open VulnProbe.Expr.Parser

/-- A text that is cut into tokens and has no tree is refused with a syntax error. If the error names the
    token found, then this is a token of the text, and the error has its position, if and only if it is
    the end of input or was not passed when the fault was noticed. Otherwise the error has the position
    of the next token. -/
theorem parse_error_position {source : String} {ts : List Located} {err : ExprError}
    (htokens : tokenize source = .ok ts) (hparse : parse source = .error err) :
    ∃ pos issue, err = .syntaxError pos issue ∧ ∀ found, issue.found? = some found →
      ∃ before t rest, ts = before ++ t :: rest ∧ t.token = found ∧ StartsAt source.toList t ∧
        (pos = t.pos ↔ issue.isPast = false ∨ found = .endOfInput) ∧
        (pos ≠ t.pos → ∃ next after, rest = next :: after ∧ pos = next.pos) := by
  have herror : ofTokens ts = .error err := by rwa [parse, htokens] at hparse
  obtain ⟨hstarts, hordered⟩ := tokenize_positions htokens
  rcases tokenize_cases source with ⟨_, herr, -⟩ | ⟨us, last, hus, hproper⟩
  · rw [herr] at htokens
    cases htokens
  obtain rfl : ts = us ++ [⟨.endOfInput, last⟩] := Except.ok.inj (htokens.symm.trans hus)
  have hclosed : Closed (us ++ [⟨.endOfInput, last⟩]) := ⟨us, _, rfl, rfl⟩
  obtain ⟨before, t, rest, issue, hts, hfound, herr⟩ := hclosed.faultIn_ofTokens herror
  refine ⟨_, issue, herr, fun found hnamed => ⟨before, t, rest, hts, hfound found hnamed, ?_⟩⟩
  obtain rfl : t.token = found := hfound found hnamed
  have hend := token_eq_endOfInput_iff hproper rfl hts
  refine ⟨hstarts t (by simp [hts]), ?_⟩
  rw [position_advance_cons, hend]
  cases rest with
  | nil => simp
  | cons next after =>
    have hlt : t.pos < next.pos := by
      rw [hts] at hordered
      have hafter := (List.pairwise_append.mp hordered).2.1
      exact (List.pairwise_cons.mp hafter).1 next (by simp)
    cases issue.isPast with
    | false => simp
    | true => simpa using Nat.ne_of_gt hlt

/-- A bracket in the place of a field name: the error has the position of the number after it. -/
theorem parse_error_position_sample :
    let source := "r.(200)"
    let ts : List Located :=
      [⟨.ident "r", 0⟩, ⟨.dot, 1⟩, ⟨.lparen, 2⟩, ⟨.int 200, 3⟩, ⟨.rparen, 6⟩, ⟨.endOfInput, 7⟩]
    tokenize source = .ok ts ∧ parse source = .error (.syntaxError 3 (.noFieldName .lparen)) ∧
      ∃ before t rest, ts = before ++ t :: rest ∧ t.token = .lparen ∧ StartsAt source.toList t ∧
        t.pos ≠ 3 ∧ ∃ next after, rest = next :: after ∧ next.pos = 3 := by
  intro source ts
  have htokens : tokenize source = .ok ts := by with_unfolding_all decide
  have hparse : parse source = .error (.syntaxError 3 (.noFieldName .lparen)) := by
    rw [parse, htokens]
    rfl
  obtain ⟨pos, issue, herr, hpoints⟩ := parse_error_position htokens hparse
  obtain ⟨rfl, rfl⟩ : 3 = pos ∧ .noFieldName .lparen = issue := by simpa using herr
  obtain ⟨before, t, rest, hts, ht, hstarts, hpos, hnext⟩ := hpoints .lparen rfl
  have hne : 3 ≠ t.pos := fun h => by simpa [SyntaxIssue.isPast] using hpos.mp h
  obtain ⟨next, after, hrest, hat⟩ := hnext hne
  exact ⟨htokens, hparse, before, t, rest, hts, ht, hstarts, hne.symm, next, after, hrest, hat.symm⟩

/-- The only bracket of a text is named as found, at the position where the text ends. -/
theorem parse_closing_bracket :
    tokenize ")" = .ok [⟨.rparen, 0⟩, ⟨.endOfInput, 1⟩] ∧
      parse ")" = .error (.syntaxError 1 (.unexpected .rparen)) := by
  have htokens : tokenize ")" = .ok [⟨.rparen, 0⟩, ⟨.endOfInput, 1⟩] := by with_unfolding_all decide
  refine ⟨htokens, ?_⟩
  rw [parse, htokens]
  rfl

end VulnProbe.Expr
