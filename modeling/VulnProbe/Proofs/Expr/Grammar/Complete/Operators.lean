import VulnProbe.Proofs.Expr.Grammar.Complete.Steps

namespace VulnProbe.Expr

open VulnProbe.Expr.Parser

/-- What is read at the next tighter level is read at a level as well, as a chain without operators or
    an operand without a sign or selections. The level of expressions opens one more level and is not
    meant. -/
theorem readsTree_tighten {l l' : Level} {e : Expr} {ts : List Token} {d : Nat}
    (hl : l.tighter? = some l') (he : ReadsTree l' e ts d) (hder : Derives (.tree l' e) ts d) :
    ReadsTree l e ts d := by
  intro n us t rest hus hd hpauses hmax
  have hpos := height_pos e
  refine ⟨maxDepth, by omega, ?_⟩
  have hoperand : l'.reader n (us ++ t :: rest) = .ok ((e, e.height), t :: rest) :=
    he.stopped hus hd (hpauses.stops_tighter hl) hmax
  cases l with
  | expression | primary => cases hl
  | sign =>
    cases hl
    obtain ⟨first, vs, hts, hfirst⟩ := hder.starts.resolve_left id
    obtain ⟨u, us, rfl, hu, -⟩ := List.map_eq_cons_iff.mp (hus.trans hts)
    rw [← hu] at hfirst
    have hsign : signOp? (peek (u :: us ++ t :: rest)) = none := signOp?_of_opensOperand hfirst
    rw [Level.loop_of_stops hpauses.stops_sign, ← hoperand]
    exact readers_of_signOp? hsign n
  | postfixed =>
    cases hl
    exact postfixed_of_primary hoperand
  | _ =>
    cases hl
    exact chain_of_operand hoperand _

/-- An operator is read over a left operand of its own level and a right operand of the next tighter
    one. -/
theorem readsTree_binary {op : BinaryOp} {l' : Level} {lhs rhs : Expr} {ts us : List Token} {dl dr : Nat}
    (hl : op.level.tighter? = some l') (hlhs : ReadsTree op.level lhs ts dl)
    (hrhs : ReadsTree l' rhs us dr) :
    ReadsTree op.level (.binary op lhs rhs) (ts ++ op.token :: us) (max dl dr) := by
  intro n vs t rest hvs hd hpauses hmax
  obtain ⟨left, o, right, rfl, hleft, ho, hright⟩ := map_token_eq_append_cons hvs
  have hheight : (Expr.binary op lhs rhs).height = max lhs.height rhs.height + 1 := rfl
  obtain ⟨fuel, hfuel, hreader⟩ : ∃ fuel, maxDepth < fuel + lhs.height ∧
      op.level.reader n (left ++ o :: (right ++ t :: rest)) =
        op.level.loop n fuel (lhs, lhs.height) (o :: (right ++ t :: rest)) :=
    hlhs hleft (by omega) (by rw [ho]; exact Level.pauses_token op) (by omega)
  have hoperand : l'.reader n (right ++ t :: rest) = .ok ((rhs, rhs.height), t :: rest) :=
    hrhs.stopped hright (by omega) (hpauses.stops_tighter hl) (by omega)
  cases fuel with
  | zero => omega
  | succ fuel =>
    refine ⟨fuel, by omega, ?_⟩
    have hop : op.level.operator? (peek (o :: (right ++ t :: rest))) = some op :=
      Level.operator?_eq_some_iff.mpr ⟨rfl, ho.symm⟩
    rw [List.append_assoc, List.cons_append, hreader, Level.loop_eq_chainAfter hl,
      Level.loop_eq_chainAfter hl, chainAfter, hop]
    simp only [advance_cons (append_cons_ne_nil right t rest), hoperand, node_of_le hheight hmax]

/-- A sign is read before an operand that is read, and opens one level more. -/
theorem readsTree_sign {op : UnaryOp} {e : Expr} {ts : List Token} {d : Nat}
    (he : ReadsTree .sign e ts d) :
    ReadsTree .sign (op.over e) (op.token :: ts) (d + 1) := by
  intro n us t rest hus hd hpauses hmax
  obtain ⟨o, us, rfl, ho, hus⟩ := List.map_eq_cons_iff.mp hus
  obtain ⟨n, rfl⟩ : ∃ m, n = m + 1 := ⟨n - 1, by omega⟩
  have hpos := height_pos (op.over e)
  have hheight := height_over op e
  refine ⟨maxDepth, by omega, ?_⟩
  have hoperand : (readers n).2 (us ++ t :: rest) = .ok ((e, e.height), t :: rest) :=
    he.stopped hus (by omega) hpauses.stops_sign (by omega)
  have hop : signOp? (peek (o :: (us ++ t :: rest))) = some op := signOp?_eq_some_iff.mpr ho
  rw [Level.loop_of_stops hpauses.stops_sign, List.cons_append]
  change (readers (n + 1)).2 _ = _
  rw [readers_succ_sign, Parser.unary, hop]
  simp only [advance_cons (append_cons_ne_nil us t rest), hoperand]
  rcases signed_cases op e (t :: rest) with ⟨-, hsigned⟩ | ⟨hover, hsigned⟩
  · exact hsigned
  · rw [hsigned, hover]
    exact node_of_le rfl (by rwa [hover] at hmax) _

/-- An expression without a conditional is read, and opens one level more. -/
theorem readsTree_plain {e : Expr} {ts : List Token} {d : Nat} (he : ReadsTree .or e ts d) :
    ReadsTree .expression e ts (d + 1) := by
  intro n us t rest hus hd hpauses hmax
  obtain ⟨n, rfl⟩ : ∃ m, n = m + 1 := ⟨n - 1, by omega⟩
  have hstops : Level.expression.Stops t.token := hpauses
  have hpos := height_pos e
  refine ⟨maxDepth, by omega, ?_⟩
  have htree : disjunction (readers n).2 (us ++ t :: rest) = .ok ((e, e.height), t :: rest) :=
    he.stopped hus (by omega) (hstops.of_rank_le (by decide)) hmax
  have hquestion : t.token ≠ .question := beq_eq_false_iff_ne.mp (hstops .expression (by decide))
  rw [Level.loop_of_stops hstops]
  change (readers (n + 1)).1 _ = _
  rw [readers_succ_expression, Parser.conditional, htree]
  exact if_neg hquestion

/-- A conditional is read if its three parts are, and opens one level more. -/
theorem readsTree_conditional {test yes no : Expr} {ts us vs : List Token} {dt dy dn : Nat}
    (htest : ReadsTree .or test ts dt) (hyes : ReadsTree .or yes us dy)
    (hno : ReadsTree .expression no vs dn) :
    ReadsTree .expression (.cond test yes no) (ts ++ .question :: us ++ .colon :: vs)
      (max (max dt dy) dn + 1) := by
  intro n ws t rest hws hd hpauses hmax
  obtain ⟨n, rfl⟩ : ∃ m, n = m + 1 := ⟨n - 1, by omega⟩
  have hstops : Level.expression.Stops t.token := hpauses
  have hheight : (Expr.cond test yes no).height = max (max test.height yes.height) no.height + 1 := rfl
  rw [List.append_assoc] at hws
  obtain ⟨ts', question, ws, rfl, hts', hquestion, hws⟩ := map_token_eq_append_cons hws
  obtain ⟨us', colon, vs', rfl, hus', hcolon, hvs'⟩ := map_token_eq_append_cons hws
  have hpos := height_pos (.cond test yes no)
  refine ⟨maxDepth, by omega, ?_⟩
  have htest' : disjunction (readers n).2 (ts' ++ question :: (us' ++ colon :: (vs' ++ t :: rest))) =
      .ok ((test, test.height), question :: (us' ++ colon :: (vs' ++ t :: rest))) :=
    htest.stopped hts' (by omega) (Level.stops_of_question hquestion) (by omega)
  have hyes' : disjunction (readers n).2 (us' ++ colon :: (vs' ++ t :: rest)) =
      .ok ((yes, yes.height), colon :: (vs' ++ t :: rest)) :=
    hyes.stopped hus' (by omega) (Level.stops_of_endsTree hcolon rfl _) (by omega)
  have hno' : (readers n).1 (vs' ++ t :: rest) = .ok ((no, no.height), t :: rest) :=
    hno.stopped hvs' (by omega) hstops (by omega)
  rw [Level.loop_of_stops hstops]
  change (readers (n + 1)).1 _ = _
  simp only [List.append_assoc, List.cons_append]
  rw [readers_succ_expression, Parser.conditional, htest']
  simp only [peek_cons, hquestion, ↓reduceIte, advance_cons (append_cons_ne_nil us' colon _), hyes',
    expect_of_token hcolon (append_cons_ne_nil vs' t rest), hno']
  exact node_of_le hheight hmax _

end VulnProbe.Expr
