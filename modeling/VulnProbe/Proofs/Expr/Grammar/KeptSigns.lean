import Mathlib.Control.Monad.Basic
import VulnProbe.Proofs.Expr.Grammar.Acceptance
import VulnProbe.Proofs.Expr.Grammar.IntegerLiterals

namespace VulnProbe.Expr

open VulnProbe.Expr.Parser

/-- A phrase with its signs folded. -/
def Phrase.folded : Phrase → Phrase
  | .tree l e => .tree l e.folded
  | .items es => .items (foldedAll es)
  | .arguments es => .arguments (foldedAll es)
  | .pairs ps => .pairs (foldedEntries ps)
  | .entries ps => .entries (foldedEntries ps)

/-- A derivation that keeps the signs derives the folded phrase when it folds them. -/
theorem DerivesKept.folded {p : Phrase} {ts : List Token} {d : Nat} (hp : DerivesKept p ts d) :
    Derives p.folded ts d := by
  induction hp with
  | plain _ ih => exact .plain ih
  | conditional _ _ _ htest hyes hno => exact .conditional htest hyes hno
  | tighten hl _ ih => exact .tighten hl ih
  | binary hl _ _ hlhs hrhs => exact .binary hl hlhs hrhs
  | sign _ ih => exact .sign ih
  | select _ ih => exact .select ih
  | method _ _ he hargs => exact .method he hargs
  | index _ _ he hi => exact .index he hi
  | literal ht => exact .literal ht
  | ident hname => exact .ident hname
  | call hname _ ih => exact .call hname ih
  | paren _ ih => exact .paren ih
  | list _ ih => exact .list ih
  | map _ ih => exact .map ih
  | noItems => exact .noItems
  | someItems _ ih => exact .someItems ih
  | lastItem _ ih => exact .lastItem ih
  | nextItem _ _ he hes => exact .nextItem he hes
  | noPairs => exact .noPairs
  | somePairs _ ih => exact .somePairs ih
  | lastPair _ _ hk hv => exact .lastPair hk hv
  | nextPair _ _ _ hk hv hps => exact .nextPair hk hv hps

/-- A phrase is what is left of one derived by the same tokens when its signs are folded. -/
def FoldsFrom : Phrase → List Token → Nat → Prop
  | .tree l e, ts, d => ∃ e', DerivesKept (.tree l e') ts d ∧ e'.folded = e
  | .items es, ts, d => ∃ es', DerivesKept (.items es') ts d ∧ foldedAll es' = es
  | .arguments es, ts, d => ∃ es', DerivesKept (.arguments es') ts d ∧ foldedAll es' = es
  | .pairs ps, ts, d => ∃ ps', DerivesKept (.pairs ps') ts d ∧ foldedEntries ps' = ps
  | .entries ps, ts, d => ∃ ps', DerivesKept (.entries ps') ts d ∧ foldedEntries ps' = ps

/-- Every derivation can keep its signs. -/
theorem Derives.foldsFrom {p : Phrase} {ts : List Token} {d : Nat} (hp : Derives p ts d) :
    FoldsFrom p ts d := by
  induction hp with
  | plain _ ih =>
    obtain ⟨e, he, rfl⟩ := ih
    exact ⟨e, .plain he, rfl⟩
  | conditional _ _ _ ihtest ihyes ihno =>
    obtain ⟨test, htest, rfl⟩ := ihtest
    obtain ⟨yes, hyes, rfl⟩ := ihyes
    obtain ⟨no, hno, rfl⟩ := ihno
    exact ⟨.cond test yes no, .conditional htest hyes hno, rfl⟩
  | tighten hl _ ih =>
    obtain ⟨e, he, rfl⟩ := ih
    exact ⟨e, .tighten hl he, rfl⟩
  | binary hl _ _ ihlhs ihrhs =>
    obtain ⟨lhs, hlhs, rfl⟩ := ihlhs
    obtain ⟨rhs, hrhs, rfl⟩ := ihrhs
    exact ⟨.binary _ lhs rhs, .binary hl hlhs hrhs, rfl⟩
  | sign _ ih =>
    obtain ⟨e, he, rfl⟩ := ih
    exact ⟨.unary _ e, .sign he, rfl⟩
  | select _ ih =>
    obtain ⟨e, he, rfl⟩ := ih
    exact ⟨.select e _, .select he, rfl⟩
  | method _ _ ih ihargs =>
    obtain ⟨e, he, rfl⟩ := ih
    obtain ⟨args, hargs, rfl⟩ := ihargs
    exact ⟨.method e _ args, .method he hargs, rfl⟩
  | index _ _ ih ihi =>
    obtain ⟨e, he, rfl⟩ := ih
    obtain ⟨i, hi, rfl⟩ := ihi
    exact ⟨.index e i, .index he hi, rfl⟩
  | literal ht => exact ⟨.literal _, .literal ht, rfl⟩
  | ident hname => exact ⟨.ident _, .ident hname, rfl⟩
  | call hname _ ih =>
    obtain ⟨args, hargs, rfl⟩ := ih
    exact ⟨.call _ args, .call hname hargs, rfl⟩
  | paren _ ih =>
    obtain ⟨e, he, rfl⟩ := ih
    exact ⟨e, .paren he, rfl⟩
  | list _ ih =>
    obtain ⟨es, hes, rfl⟩ := ih
    exact ⟨.list es, .list hes, rfl⟩
  | map _ ih =>
    obtain ⟨ps, hps, rfl⟩ := ih
    exact ⟨.map ps, .map hps, rfl⟩
  | noItems => exact ⟨[], .noItems, rfl⟩
  | someItems _ ih =>
    obtain ⟨es, hes, rfl⟩ := ih
    exact ⟨es, .someItems hes, rfl⟩
  | lastItem _ ih =>
    obtain ⟨e, he, rfl⟩ := ih
    exact ⟨[e], .lastItem he, rfl⟩
  | nextItem _ _ ih ihes =>
    obtain ⟨e, he, rfl⟩ := ih
    obtain ⟨es, hes, rfl⟩ := ihes
    exact ⟨e :: es, .nextItem he hes, rfl⟩
  | noPairs => exact ⟨[], .noPairs, rfl⟩
  | somePairs _ ih =>
    obtain ⟨ps, hps, rfl⟩ := ih
    exact ⟨ps, .somePairs hps, rfl⟩
  | lastPair _ _ ihk ihv =>
    obtain ⟨k, hk, rfl⟩ := ihk
    obtain ⟨v, hv, rfl⟩ := ihv
    exact ⟨[(k, v)], .lastPair hk hv, rfl⟩
  | nextPair _ _ _ ihk ihv ihps =>
    obtain ⟨k, hk, rfl⟩ := ihk
    obtain ⟨v, hv, rfl⟩ := ihv
    obtain ⟨ps, hps, rfl⟩ := ihps
    exact ⟨(k, v) :: ps, .nextPair hk hv hps, rfl⟩

/-- A tree that a text has when signs are kept: its tokens derive it, and they may be read, since with its
    signs folded it is not too high and not too many expressions and signs are open at once. -/
def IsKeptTree (source : String) (e : Expr) : Prop :=
  ∃ us pos d, tokenize source = .ok (us ++ [⟨.endOfInput, pos⟩]) ∧
    DerivesKept (.tree .expression e) (us.map (·.token)) d ∧ d ≤ maxDepth ∧
    e.folded.height ≤ maxDepth

/-- The tree of a text is the one with kept signs, folded. -/
theorem parse_eq_ok_iff_folded (source : String) (e : Expr) :
    parse source = .ok e ↔ ∃ kept, IsKeptTree source kept ∧ kept.folded = e := by
  rw [parse_eq_ok_iff_accepts]
  constructor
  · rintro ⟨us, pos, htokens, hheight, d, hd, hder⟩
    obtain ⟨kept, hkept, rfl⟩ := hder.foldsFrom
    exact ⟨kept, ⟨us, pos, d, htokens, hkept, hd, hheight⟩, rfl⟩
  · rintro ⟨kept, ⟨us, pos, d, htokens, hkept, hd, hheight⟩, rfl⟩
    exact ⟨us, pos, htokens, hheight, d, hd, hkept.folded⟩

/-- In a tree of a text with its signs kept, folding them gives only integers that fit. -/
theorem IsKeptTree.literalsFit {source : String} {e : Expr} (he : IsKeptTree source e) :
    LiteralsFit e.folded := by
  obtain ⟨us, pos, d, htokens, hder, -, -⟩ := he
  refine hder.folded.literalsFit fun t ht => ?_
  obtain ⟨u, hu, rfl⟩ := List.mem_map.mp ht
  exact isUnsigned_of_tokenize htokens u (List.mem_append_left _ hu)

/-- Folding a minus into an integer literal is safe and keeps the meaning. No tree that is built anywhere
    on the tokens of a text holds the least integer, the one that has no opposite. What is parsed is the
    tree with kept signs, folded, and the two have the same value under all bindings and the same type
    under all types of names. -/
theorem parse_folds_safely {source : String} {ts : Tokens} (htokens : tokenize source = .ok ts) :
    (∀ (before tail rest : Tokens) (l : Level) (n h : Nat) (e : Expr), ts = before ++ tail → tail ≠ [] →
      l.reader n tail = .ok ((e, h), rest) →
        ∀ i, Within (.literal (.int i)) e → minInt < i ∧ i ≤ maxInt) ∧
      (∀ e, parse source = .ok e ↔ ∃ kept, IsKeptTree source kept ∧ kept.folded = e) ∧
      ∀ kept, IsKeptTree source kept →
        (∀ env draws, kept.folded.evaluate env draws = kept.evaluate env draws) ∧
          ∀ typeOf, kept.folded.check typeOf = kept.check typeOf := by
  refine ⟨?_, parse_eq_ok_iff_folded source, fun kept hkept => ⟨fun env draws => ?_, fun typeOf => ?_⟩⟩
  · intro before tail rest l n h e hts htail hread
    exact literalsFit_of_reader htokens hts htail hread
  · rw [evaluate, evaluate, value_folded kept hkept.literalsFit]
  · exact check_folded kept

/-- The greatest integer under two minus signs and parentheses is folded into itself. -/
theorem parse_folds_safely_greatest :
    let source := "-(-9223372036854775807) - -n"
    let ts : Tokens :=
      [⟨.minus, 0⟩, ⟨.lparen, 1⟩, ⟨.minus, 2⟩, ⟨.int maxInt, 3⟩, ⟨.rparen, 22⟩, ⟨.minus, 24⟩, ⟨.minus, 26⟩,
        ⟨.ident "n", 27⟩, ⟨.endOfInput, 28⟩]
    let e : Expr := .binary .sub (.literal (.int maxInt)) (.unary .neg (.ident "n"))
    tokenize source = .ok ts ∧ parse source = .ok e ∧
      ∃ kept, IsKeptTree source kept ∧ kept.folded = e ∧
        ∀ env draws, e.evaluate env draws = kept.evaluate env draws := by
  intro source ts e
  have htokens : tokenize source = .ok ts := by with_unfolding_all decide
  have hparse : parse source = .ok e := by
    rw [parse_of_tokenize htokens]
    rfl
  obtain ⟨-, hfolds, hsame⟩ := parse_folds_safely htokens
  obtain ⟨kept, hkept, hfolded⟩ := (hfolds e).mp hparse
  exact ⟨htokens, hparse, kept, hkept, hfolded, hfolded ▸ (hsame kept hkept).1⟩

end VulnProbe.Expr
