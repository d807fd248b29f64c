import VulnProbe.Proofs.Expr.Counted.Agreement
import VulnProbe.Proofs.Expr.Grammar.Follow

namespace VulnProbe.Expr

/-- A tree without parts is of height 1, and any other is one level above its tallest part. -/
theorem height_eq_heightAll_parts (e : Expr) : e.height = heightAll e.parts + 1 := by
  have hentries (ps : List (Expr × Expr)) :
      heightEntries ps = heightAll (ps.flatMap fun p => [p.1, p.2]) := by
    induction ps with
    | nil => rfl
    | cons p ps ih => simp [heightEntries, heightAll, ih, Nat.max_assoc]
  cases e with
  | map entries => simp [height, parts, hentries]
  | _ => simp [height, parts, heightAll, Nat.max_assoc]

/-- The end of input is no part of any phrase. -/
theorem Derives.ne_endOfInput {p : Phrase} {ts : List Token} {d : Nat} (hp : Derives p ts d) :
    .endOfInput ∉ ts := by
  have hbinary (op : BinaryOp) : op.token ≠ .endOfInput := by cases op <;> decide
  have hunary (op : UnaryOp) : op.token ≠ .endOfInput := by cases op <;> decide
  have hliteral {t : Token} {v : Value} (ht : LiteralToken t v) : t ≠ .endOfInput := by cases ht <;> simp
  induction hp with
  | literal ht => simpa using (hliteral ht).symm
  | binary _ _ _ ihl ihr => simp [ihl, ihr, (hbinary _).symm]
  | sign _ ih => simp [ih, (hunary _).symm]
  | _ => simp_all

namespace Parser.Counted

/-- What a call that gives a tree with a height comes to: the height is that of the tree and not too great,
    the counter is as before, and the cursor has passed tokens, but no end of input. -/
structure Exact (s s' : Cursor) (e : Expr) (h : Nat) : Prop where
  height : h = e.height
  parts : h = heightAll e.parts + 1
  bound : h ≤ maxDepth
  count : s'.count = s.count
  passed : ∃ us, us ≠ [] ∧ s.rest = us ++ s'.rest ∧ ∀ t ∈ us, t.token ≠ .endOfInput

private theorem exact_of_read {l : Level} {n h : Nat} {s s' : Cursor} {e : Expr} (hclosed : Closed s.rest)
    (hread : l.reader n s.rest = .ok ((e, h), s'.rest)) (hcount : s'.count = s.count) : Exact s s' e h := by
  rcases (sound_reader l n).cases hclosed with ⟨_, herr, -⟩ | ⟨e', us, rest, d, hok, hus, -, hmax, -, hder⟩
  · cases herr.symm.trans hread
  obtain ⟨⟨rfl, rfl⟩, hrest⟩ : (e' = e ∧ e'.height = h) ∧ rest = s'.rest := by
    simpa using hok.symm.trans hread
  refine ⟨rfl, height_eq_heightAll_parts e', hmax, hcount, us, ?_, by rw [hus, hrest], fun t ht hend => ?_⟩
  · rintro rfl
    obtain ⟨t, vs, hts, -⟩ := hder.starts.resolve_left id
    cases hts
  · exact hder.ne_endOfInput (List.mem_map.mpr ⟨t, ht, hend⟩)

/-- The whole parser comes to the tree of the tokens. -/
theorem outcome_whole {tokens : Tokens} (hclosed : Closed tokens) :
    ∃ s', outcome whole ⟨tokens, 0, 0⟩ = some (ofTokens tokens, s') ∧ s'.deepest ≤ maxDepth := by
  have hagrees := follows_call .expression 0 ⟨tokens, 0, 0⟩ hclosed rfl
  rw [whole, outcome_bind, ofTokens]
  change Agrees _ (Parser.expression maxDepth tokens) (outcome (Entry.expression 0).call _) at hagrees
  generalize Parser.expression maxDepth tokens = r at hagrees ⊢
  generalize outcome (Entry.expression 0).call ⟨tokens, 0, 0⟩ = out at hagrees ⊢
  cases hagrees with
  | error hdeepest => exact ⟨_, rfl, by simpa using hdeepest⟩
  | @ok node s' hkept =>
    refine ⟨s', ?_, by simpa using hkept.deepest⟩
    simp only [Option.bind_some, outcome_bind, outcome_next]
    split
    · rename_i hpeek
      rw [if_pos hpeek]
      rfl
    · rename_i hpeek
      rw [if_neg hpeek]
      rfl

/-- Every call of every level ends, with so many levels open around it, and never has more than the greatest
    number of levels open. It gives what the reader of the level gives that may open as many levels as are
    left; and where that is a tree, the counter and the cursor are exact. So does the whole parser end, with
    the tree of the tokens. -/
theorem exact_call (l : Level) (ts : Tokens) (pos count deepest : Nat) :
    let tokens := ts ++ [⟨.endOfInput, pos⟩]
    (∃ result s', outcome (call l count) ⟨tokens, count, deepest⟩ = some (result, s') ∧
      s'.deepest ≤ max deepest maxDepth ∧
      (result.map fun node => (node, s'.rest)) = l.reader (maxDepth - count) tokens ∧
      ∀ e h, result = .ok (e, h) → Exact ⟨tokens, count, deepest⟩ s' e h) ∧
    ∃ s', outcome whole ⟨tokens, 0, 0⟩ = some (ofTokens tokens, s') ∧ s'.deepest ≤ maxDepth := by
  intro tokens
  have hclosed : Closed tokens := ⟨ts, _, rfl, rfl⟩
  refine ⟨?_, outcome_whole hclosed⟩
  have hagrees := follows_call l count ⟨tokens, count, deepest⟩ hclosed rfl
  generalize hr : l.reader (maxDepth - count) tokens = r at hagrees
  generalize outcome (call l count) ⟨tokens, count, deepest⟩ = out at hagrees
  cases hagrees with
  | error hdeepest => exact ⟨_, _, rfl, hdeepest, rfl, by simp⟩
  | @ok node s' hkept =>
    refine ⟨_, s', rfl, hkept.deepest, rfl, ?_⟩
    rintro e h ⟨⟩
    exact exact_of_read hclosed hr hkept.count

end Parser.Counted

end VulnProbe.Expr
