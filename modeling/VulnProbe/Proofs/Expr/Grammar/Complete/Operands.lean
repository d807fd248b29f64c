import VulnProbe.Proofs.Expr.Grammar.Complete.Brackets

namespace VulnProbe.Expr

open VulnProbe.Expr.Parser

/-- Where the loop of selections takes one more piece after an operand, it goes on from the new tree. -/
theorem readsTree_step {e next : Expr} {d n : Nat} {ts : List Token} {us rest : Tokens} {o : Located}
    (he : ReadsTree .postfixed e ts d) (hus : us.map (·.token) = ts) (hd : d ≤ n)
    (ho : Level.postfixed.continues o.token = true) (hheight : e.height < next.height)
    (hmax : next.height ≤ maxDepth) {after : Tokens}
    (hstep : ∀ fuel, postfixAfter (readers n).1 (fuel + 1) (e, e.height) (o :: rest) =
      postfixAfter (readers n).1 fuel (next, next.height) after) :
    ∃ fuel, maxDepth < fuel + next.height ∧
      Level.postfixed.reader n (us ++ o :: rest) =
        Level.postfixed.loop n fuel (next, next.height) after := by
  obtain ⟨fuel, hfuel, hreader⟩ : ∃ fuel, maxDepth < fuel + e.height ∧
      Level.postfixed.reader n (us ++ o :: rest) =
        Level.postfixed.loop n fuel (e, e.height) (o :: rest) :=
    he hus hd (Level.pauses_postfixed ho) (by omega)
  cases fuel with
  | zero => omega
  | succ fuel => exact ⟨fuel, by omega, hreader.trans (hstep fuel)⟩

/-- The selection of a field from an operand that is read is read. -/
theorem readsTree_select {e : Expr} {name : String} {ts : List Token} {d : Nat}
    (he : ReadsTree .postfixed e ts d) :
    ReadsTree .postfixed (.select e name) (ts ++ [Token.dot, Token.ident name]) d := by
  intro n us t rest hus hd hpauses hmax
  obtain ⟨operand, dot, field, rfl, hoperand, hdot, hfield⟩ := map_token_eq_append_cons hus
  obtain ⟨field, rfl, hname⟩ := List.map_eq_singleton_iff.mp hfield
  have hparen : t.token ≠ .lparen := beq_eq_false_iff_ne.mp (hpauses .primary (by decide))
  have hselection : selection (readers n).1 (e, e.height) (field :: t :: rest) =
      .ok ((.select e name, (Expr.select e name).height), t :: rest) := by
    simp only [selection, peek, hname, advance, hparen, ↓reduceIte]
    exact node_of_le rfl hmax _
  rw [List.append_assoc]
  refine readsTree_step he hoperand hd (by rw [hdot]; rfl) (Nat.lt_succ_self _) hmax fun fuel => ?_
  change postfixAfter (readers n).1 (fuel + 1) (e, e.height) (dot :: field :: t :: rest) = _
  rw [postfixAfter, peek_cons, if_pos hdot]
  simp only [advance, hselection]

/-- The call of a method is read if its receiver and its arguments are. -/
theorem readsTree_method {e : Expr} {name : String} {args : List Expr} {ts us : List Token} {d da : Nat}
    (he : ReadsTree .postfixed e ts d) (hargs : ReadsArguments args us da) :
    ReadsTree .postfixed (.method e name args)
      (ts ++ .dot :: .ident name :: .lparen :: us ++ [Token.rparen]) (max d da) := by
  intro n vs t rest hvs hd hpauses hmax
  have hheight : (Expr.method e name args).height = max e.height (heightAll args) + 1 := rfl
  rw [List.append_assoc] at hvs
  obtain ⟨operand, dot, piece, rfl, hoperand, hdot, hpiece⟩ := map_token_eq_append_cons hvs
  obtain ⟨field, piece, rfl, hname, hpiece⟩ := List.map_eq_cons_iff.mp hpiece
  obtain ⟨paren, piece, rfl, hparen, hpiece⟩ := List.map_eq_cons_iff.mp hpiece
  obtain ⟨args', close, rfl, hargs', hclose⟩ := map_token_eq_append_singleton hpiece
  have harguments : arguments (readers n).1 .rparen (args' ++ close :: t :: rest) =
      .ok ((args, heightAll args), t :: rest) := hargs hargs' (by omega) hclose rfl (by omega)
  have hselection : selection (readers n).1 (e, e.height)
      (field :: paren :: (args' ++ close :: t :: rest)) =
      .ok ((.method e name args, (Expr.method e name args).height), t :: rest) := by
    have hadvance := advance_cons (t := paren) (append_cons_ne_nil args' close (t :: rest))
    simp only [selection, peek, hname, advance_cons (List.cons_ne_nil paren _), hparen, ↓reduceIte,
      hadvance, harguments]
    exact node_of_le hheight hmax _
  simp only [List.append_assoc, List.cons_append, List.nil_append]
  refine readsTree_step he hoperand (by omega) (by rw [hdot]; rfl) (by omega) hmax fun fuel => ?_
  rw [postfixAfter, peek_cons, if_pos hdot]
  simp only [advance, hselection]

/-- An indexed operand is read if the operand and the index are. -/
theorem readsTree_index {e i : Expr} {ts us : List Token} {d di : Nat} (he : ReadsTree .postfixed e ts d)
    (hi : ReadsTree .expression i us di) :
    ReadsTree .postfixed (.index e i) (ts ++ .lbracket :: us ++ [Token.rbracket]) (max d di) := by
  intro n vs t rest hvs hd hpauses hmax
  have hheight : (Expr.index e i).height = max e.height i.height + 1 := rfl
  rw [List.append_assoc] at hvs
  obtain ⟨operand, bracket, piece, rfl, hoperand, hbracket, hpiece⟩ := map_token_eq_append_cons hvs
  obtain ⟨i', close, rfl, hi', hclose⟩ := map_token_eq_append_singleton hpiece
  have htree : (readers n).1 (i' ++ close :: t :: rest) = .ok ((i, i.height), close :: t :: rest) :=
    hi.stopped hi' (by omega) (Level.stops_of_endsTree hclose rfl _) (by omega)
  have hindexing : indexing (readers n).1 (e, e.height) (i' ++ close :: t :: rest) =
      .ok ((.index e i, (Expr.index e i).height), t :: rest) := by
    simp only [indexing, htree, expect_of_token hclose (List.cons_ne_nil t rest)]
    exact node_of_le hheight hmax _
  simp only [List.append_assoc, List.cons_append, List.nil_append]
  refine readsTree_step he hoperand (by omega) (by rw [hbracket]; rfl) (by omega) hmax fun fuel => ?_
  have hdot : bracket.token ≠ .dot := by
    rw [hbracket]
    simp
  rw [postfixAfter, peek_cons, if_neg hdot, if_pos hbracket]
  simp only [advance_cons (append_cons_ne_nil i' close _), hindexing]

/-- At the tightest level nothing carries a tree on, so that it is enough to read it. -/
theorem readsTree_primary {e : Expr} {ts : List Token} {d : Nat}
    (hprimary : ∀ ⦃n : Nat⦄ ⦃us : Tokens⦄ ⦃t : Located⦄ ⦃rest : Tokens⦄, us.map (·.token) = ts → d ≤ n →
      t.token ≠ .lparen → e.height ≤ maxDepth →
      primary (readers n).1 (us ++ t :: rest) = .ok ((e, e.height), t :: rest)) :
    ReadsTree .primary e ts d := by
  intro n us t rest hus hd hpauses hmax
  have hpos := height_pos e
  have hparen : t.token ≠ .lparen := beq_eq_false_iff_ne.mp (hpauses .primary (Nat.le_refl _))
  exact ⟨maxDepth, by omega, hprimary hus hd hparen hmax⟩

/-- A token that is a literal is read as its value. -/
theorem readsTree_literal {token : Token} {v : Value} (htoken : LiteralToken token v) :
    ReadsTree .primary (.literal v) [token] 0 := by
  refine readsTree_primary fun n us t rest hus _ _ _ => ?_
  obtain ⟨u, rfl, hu⟩ := List.map_eq_singleton_iff.mp hus
  cases htoken <;> simp [primary, peek, hu, advance, named, height]

private theorem named_ident {name : String} (hname : ¬ IsConstantName name) {t : Located}
    (ht : t.token ≠ .lparen) (expression : Reader Node) (rest : Tokens) :
    named expression name (t :: rest) = .ok ((.ident name, 1), t :: rest) := by
  simp only [IsConstantName, not_or] at hname
  simp only [named, beq_iff_eq, hname.1, hname.2.1, hname.2.2, peek_cons, ht, ↓reduceIte]

private theorem named_call {name : String} (hname : ¬ IsConstantName name) {t : Located} {ts rest : Tokens}
    (ht : t.token = .lparen) (hts : ts ≠ []) {expression : Reader Node} {args : List Expr} {h : Nat}
    (hargs : arguments expression .rparen ts = .ok ((args, h), rest)) :
    named expression name (t :: ts) = node (.call name args) h rest := by
  simp only [IsConstantName, not_or] at hname
  simp only [named, beq_iff_eq, hname.1, hname.2.1, hname.2.2, peek_cons, ht, advance_cons hts, hargs,
    ↓reduceIte]

/-- A name is read as a name unless it is that of a constant. -/
theorem readsTree_ident {name : String} (hname : ¬ IsConstantName name) :
    ReadsTree .primary (.ident name) [.ident name] 0 := by
  refine readsTree_primary fun n us t rest hus _ hparen _ => ?_
  obtain ⟨u, rfl, hu⟩ := List.map_eq_singleton_iff.mp hus
  rw [List.singleton_append, primary, peek_cons, hu]
  exact named_ident hname hparen _ rest

/-- The call of a function is read if its arguments are. Constants cannot be called. -/
theorem readsTree_call {name : String} {args : List Expr} {ts : List Token} {d : Nat}
    (hname : ¬ IsConstantName name) (hargs : ReadsArguments args ts d) :
    ReadsTree .primary (.call name args) (.ident name :: .lparen :: ts ++ [Token.rparen]) d := by
  refine readsTree_primary fun n us t rest hus hd _ hmax => ?_
  have hheight : (Expr.call name args).height = heightAll args + 1 := rfl
  obtain ⟨u, us, rfl, hu, hus⟩ := List.map_eq_cons_iff.mp hus
  obtain ⟨paren, us, rfl, hparen, hus⟩ := List.map_eq_cons_iff.mp hus
  obtain ⟨args', close, rfl, hargs', hclose⟩ := map_token_eq_append_singleton hus
  have harguments : arguments (readers n).1 .rparen (args' ++ close :: t :: rest) =
      .ok ((args, heightAll args), t :: rest) := hargs hargs' hd hclose rfl (by omega)
  simp only [List.append_assoc, List.cons_append, List.nil_append]
  rw [primary, peek_cons, hu]
  simp only [advance_cons (List.cons_ne_nil paren _)]
  rw [named_call hname hparen (append_cons_ne_nil args' close _) harguments]
  exact node_of_le hheight hmax _

/-- A tree in parentheses is read as the tree. -/
theorem readsTree_paren {e : Expr} {ts : List Token} {d : Nat} (he : ReadsTree .expression e ts d) :
    ReadsTree .primary e (.lparen :: ts ++ [Token.rparen]) d := by
  refine readsTree_primary fun n us t rest hus hd _ hmax => ?_
  obtain ⟨u, us, rfl, hu, hus⟩ := List.map_eq_cons_iff.mp hus
  obtain ⟨inner, close, rfl, hinner, hclose⟩ := map_token_eq_append_singleton hus
  have htree : (readers n).1 (inner ++ close :: t :: rest) = .ok ((e, e.height), close :: t :: rest) :=
    he.stopped hinner hd (Level.stops_of_endsTree hclose rfl _) hmax
  simp only [List.append_assoc, List.cons_append, List.nil_append]
  rw [primary, peek_cons, hu]
  simp only [advance_cons (append_cons_ne_nil inner close _), htree,
    expect_of_token hclose (List.cons_ne_nil t rest)]
  rfl

/-- A list is read if its members are. -/
theorem readsTree_list {es : List Expr} {ts : List Token} {d : Nat} (hes : ReadsArguments es ts d) :
    ReadsTree .primary (.list es) (.lbracket :: ts ++ [Token.rbracket]) d := by
  refine readsTree_primary fun n us t rest hus hd _ hmax => ?_
  have hheight : (Expr.list es).height = heightAll es + 1 := rfl
  obtain ⟨u, us, rfl, hu, hus⟩ := List.map_eq_cons_iff.mp hus
  obtain ⟨items, close, rfl, hitems, hclose⟩ := map_token_eq_append_singleton hus
  have harguments : arguments (readers n).1 .rbracket (items ++ close :: t :: rest) =
      .ok ((es, heightAll es), t :: rest) := hes hitems hd hclose rfl (by omega)
  simp only [List.append_assoc, List.cons_append, List.nil_append]
  rw [primary, peek_cons, hu]
  simp only [advance_cons (append_cons_ne_nil items close _), harguments]
  exact node_of_le hheight hmax _

/-- A map is read if its keys and values are. -/
theorem readsTree_map {ps : List (Expr × Expr)} {ts : List Token} {d : Nat}
    (hps : ReadsEntries ps ts d) :
    ReadsTree .primary (.map ps) (.lbrace :: ts ++ [Token.rbrace]) d := by
  refine readsTree_primary fun n us t rest hus hd _ hmax => ?_
  have hheight : (Expr.map ps).height = heightEntries ps + 1 := rfl
  obtain ⟨u, us, rfl, hu, hus⟩ := List.map_eq_cons_iff.mp hus
  obtain ⟨pairs, close, rfl, hpairs, hclose⟩ := map_token_eq_append_singleton hus
  have hentries : entries (readers n).1 (pairs ++ close :: t :: rest) =
      .ok ((ps, heightEntries ps), t :: rest) := hps hpairs hd hclose (by omega)
  simp only [List.append_assoc, List.cons_append, List.nil_append]
  rw [primary, peek_cons, hu]
  simp only [advance_cons (append_cons_ne_nil pairs close _), hentries]
  exact node_of_le hheight hmax _

end VulnProbe.Expr
