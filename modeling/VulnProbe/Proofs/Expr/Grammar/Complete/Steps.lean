import VulnProbe.Proofs.Expr.Grammar.Follow

namespace VulnProbe.Expr

open VulnProbe.Expr.Parser

namespace Parser

private theorem chainAfter_of_none {operator? : Token → Option BinaryOp} {ts : Tokens}
    (hop : operator? (peek ts) = none) (operand : Reader Node) (fuel : Nat) (lhs : Node) :
    chainAfter operator? operand fuel lhs ts = .ok (lhs, ts) := by
  cases fuel with
  | zero => rfl
  | succ fuel => rw [chainAfter, hop]

private theorem postfixAfter_of_continues {ts : Tokens} (hts : Level.postfixed.continues (peek ts) = false)
    (expression : Reader Node) (fuel : Nat) (operand : Node) :
    postfixAfter expression fuel operand ts = .ok (operand, ts) := by
  simp only [Level.continues, Bool.or_eq_false_iff, beq_eq_false_iff_ne] at hts
  cases fuel with
  | zero => rfl
  | succ fuel => rw [postfixAfter, if_neg hts.1, if_neg hts.2]

/-- Once its first operand is read, a chain goes on with its operators. -/
theorem chain_of_operand {operand : Reader Node} {ts rest : Tokens} {lhs : Node}
    (hoperand : operand ts = .ok (lhs, rest)) (operator? : Token → Option BinaryOp) :
    chain operator? operand ts = chainAfter operator? operand maxDepth lhs rest := by
  rw [chain, hoperand]

/-- Once an operand is read, its selections are. -/
theorem postfixed_of_primary {expression : Reader Node} {ts rest : Tokens} {operand : Node}
    (hprimary : primary expression ts = .ok (operand, rest)) :
    postfixed expression ts = postfixAfter expression maxDepth operand rest := by
  rw [postfixed, hprimary]

/-- Where no sign is seen, an operand with signs is one without. -/
theorem readers_of_signOp? {ts : Tokens} (hsign : signOp? (peek ts) = none) (n : Nat) :
    (readers n).2 ts = postfixed (readers n).1 ts := by
  cases n <;> simp only [readers, unary, hsign]

/-- A tree whose height is not above the bound is built. -/
theorem node_of_le {e : Expr} {h : Nat} (he : e.height = h + 1) (hmax : e.height ≤ maxDepth)
    (ts : Tokens) :
    node e h ts = .ok ((e, e.height), ts) := by
  rw [node, if_neg (by omega), he]

/-- A token that is the wanted one is passed. It is not the last, so that something stands behind it. -/
theorem expect_of_token {wanted : Token} {t : Located} {rest : Tokens} (ht : t.token = wanted)
    (hrest : rest ≠ []) : expect wanted (t :: rest) = .ok rest := by
  rw [expect, peek_cons, if_pos ht, advance_cons hrest]

end Parser

namespace Level

/-- What a reader goes on with after a tree of its level: it chains further trees, or selects from
    it. -/
def loop (l : Level) (n fuel : Nat) (node : Node) : Reader Node :=
  match l, l.tighter? with
  | .postfixed, _ => postfixAfter (readers n).1 fuel node
  | l, some l' => chainAfter l.operator? (l'.reader n) fuel node
  | _, none => fun ts => .ok (node, ts)

/-- At the level of a binary operator, what goes on after a tree is the chain of its operators. -/
theorem loop_eq_chainAfter {op : BinaryOp} {l' : Level} (hl : op.level.tighter? = some l')
    (n fuel : Nat) (node : Node) :
    op.level.loop n fuel node = chainAfter op.level.operator? (l'.reader n) fuel node := by
  cases op <;> cases hl <;> rfl

/-- Nothing is added to a tree before a token that ends it. -/
theorem loop_of_stops {l : Level} {ts : Tokens} (hstops : l.Stops (peek ts)) (n fuel : Nat)
    (node : Node) :
    l.loop n fuel node ts = .ok (node, ts) := by
  have hcontinues := hstops l (Nat.le_refl _)
  cases l with
  | expression | primary => rfl
  | sign => exact chainAfter_of_none rfl _ fuel node
  | postfixed => exact postfixAfter_of_continues hcontinues _ fuel node
  | _ =>
    have hop := Option.isNone_iff_eq_none.mp (Option.isSome_eq_false_iff.mp hcontinues)
    exact chainAfter_of_none hop _ fuel node

end Level

/-- The tokens of a tree are read as that tree, up to what may carry it on. The loop of the level has
    rounds left for every tree that is not too high. -/
def ReadsTree (l : Level) (e : Expr) (ts : List Token) (d : Nat) : Prop :=
  ∀ ⦃n : Nat⦄ ⦃us : Tokens⦄ ⦃t : Located⦄ ⦃rest : Tokens⦄, us.map (·.token) = ts → d ≤ n →
    l.Pauses t.token → e.height ≤ maxDepth →
    ∃ fuel, maxDepth < fuel + e.height ∧
      l.reader n (us ++ t :: rest) = l.loop n fuel (e, e.height) (t :: rest)

/-- A tree that is read is read whole if the token behind it ends every tree of its level: the loop has
    nothing to go on with. -/
theorem ReadsTree.stopped {l : Level} {e : Expr} {ts : List Token} {d n : Nat} {us rest : Tokens}
    {t : Located} (hreads : ReadsTree l e ts d) (hus : us.map (·.token) = ts) (hd : d ≤ n)
    (hstops : l.Stops t.token) (hmax : e.height ≤ maxDepth) :
    l.reader n (us ++ t :: rest) = .ok ((e, e.height), t :: rest) := by
  obtain ⟨fuel, -, hreader⟩ := hreads hus hd hstops.pauses hmax
  rw [hreader, Level.loop_of_stops hstops]

end VulnProbe.Expr
