import VulnProbe.Expr.Parser
import VulnProbe.Proofs.Expr.Grammar

namespace VulnProbe.Expr

open VulnProbe.Expr.Parser

namespace Level

/-- The operators that chain operands at a level. -/
def operator? : Level → Token → Option BinaryOp
  | .or => orOp?
  | .and => andOp?
  | .relation => relationOp?
  | .sum => sumOp?
  | .product => productOp?
  | _ => fun _ => none

/-- The operator that a level reads from a token is the one of this level that the token writes. -/
theorem operator?_eq_some_iff {l : Level} {t : Token} {op : BinaryOp} :
    l.operator? t = some op ↔ op.level = l ∧ op.token = t := by
  constructor
  · intro hop
    cases l with
    | or | and | sum | product =>
      cases t <;> cases hop
      all_goals exact ⟨rfl, rfl⟩
    | relation =>
      cases t with
      | ident name =>
        simp only [operator?, relationOp?, beq_iff_eq] at hop
        split at hop <;> cases hop
        subst name
        exact ⟨rfl, rfl⟩
      | _ => cases hop <;> exact ⟨rfl, rfl⟩
    | _ => cases hop
  · rintro ⟨rfl, rfl⟩
    cases op <;> rfl

/-- The reader of a level when so many more expressions and signs may be opened. -/
def reader (l : Level) (n : Nat) : Reader Node :=
  match l with
  | .expression => (readers n).1
  | .or => disjunction (readers n).2
  | .and => chain andOp? (chain relationOp? (chain sumOp? (chain productOp? (readers n).2)))
  | .relation => chain relationOp? (chain sumOp? (chain productOp? (readers n).2))
  | .sum => chain sumOp? (chain productOp? (readers n).2)
  | .product => chain productOp? (readers n).2
  | .sign => (readers n).2
  | .postfixed => Parser.postfixed (readers n).1
  | .primary => Parser.primary (readers n).1

end Level

namespace Parser

/-- With one more level to open, an expression is a conditional over the readers of one level less. -/
theorem readers_succ_expression (n : Nat) :
    (readers (n + 1)).1 = conditional (readers n).2 (readers n).1 :=
  rfl

/-- With one more level to open, a sign stands over the signs of one level less and the expressions of
    this one. -/
theorem readers_succ_sign (n : Nat) :
    (readers (n + 1)).2 = unary (readers n).2 (readers (n + 1)).1 :=
  rfl

/-- The sign that is read from a token is the one that the token writes. -/
theorem signOp?_eq_some_iff {t : Token} {op : UnaryOp} : signOp? t = some op ↔ t = op.token := by
  constructor
  · intro hop
    cases t <;> cases hop <;> rfl
  · rintro rfl
    cases op <;> rfl

/-- A sign is folded into an integer literal, or makes a tree one level higher. -/
theorem signed_cases (op : UnaryOp) (e : Expr) (ts : Tokens) :
    (op.over e).height = e.height ∧
        signed op (e, e.height) ts = .ok ((op.over e, (op.over e).height), ts) ∨
      op.over e = .unary op e ∧ signed op (e, e.height) ts = node (.unary op e) e.height ts := by
  by_cases hfold : op = .neg ∧ ∃ i, e = .literal (.int i)
  · obtain ⟨rfl, i, rfl⟩ := hfold
    exact .inl ⟨rfl, rfl⟩
  · refine .inr ⟨?_, ?_⟩
    · unfold UnaryOp.over
      split
      · exact absurd ⟨rfl, _, rfl⟩ hfold
      · rfl
    · unfold signed
      split
      · rename_i hoperand
        obtain ⟨rfl, _⟩ := Prod.mk.inj hoperand
        exact absurd ⟨rfl, _, rfl⟩ hfold
      · rename_i hoperand
        obtain ⟨rfl, rfl⟩ := Prod.mk.inj hoperand
        rfl

/-- The next token is the first one. -/
theorem peek_cons (t : Located) (rest : Tokens) : peek (t :: rest) = t.token :=
  rfl

/-- The first token is passed if another one follows it. -/
theorem advance_cons {t : Located} {rest : Tokens} (hrest : rest ≠ []) : advance (t :: rest) = rest := by
  cases rest with
  | nil => exact absurd rfl hrest
  | cons => rfl

/-- Located tokens can be parted where their tokens can. -/
theorem map_token_eq_append_cons {ts : Tokens} {us vs : List Token} {t : Token}
    (hts : ts.map (·.token) = us ++ t :: vs) :
    ∃ (before : Tokens) (o : Located) (after : Tokens), ts = before ++ o :: after ∧
      before.map (·.token) = us ∧ o.token = t ∧ after.map (·.token) = vs := by
  obtain ⟨before, rest, rfl, hbefore, hrest⟩ := List.map_eq_append_iff.mp hts
  obtain ⟨o, after, rfl, ho, hafter⟩ := List.map_eq_cons_iff.mp hrest
  exact ⟨before, o, after, rfl, hbefore, ho, hafter⟩

/-- Tokens with positions part where the tokens without them do. -/
theorem map_token_eq_append_singleton {ts : Tokens} {us : List Token} {t : Token}
    (hts : ts.map (·.token) = us ++ [t]) :
    ∃ (before : Tokens) (o : Located), ts = before ++ [o] ∧ before.map (·.token) = us ∧ o.token = t := by
  obtain ⟨before, o, after, rfl, hbefore, ho, hafter⟩ := map_token_eq_append_cons hts
  obtain rfl := List.map_eq_nil_iff.mp hafter
  exact ⟨before, o, rfl, hbefore, ho⟩

/-- Something is left as long as a token is. -/
theorem append_cons_ne_nil {α : Type} (us : List α) (t : α) (rest : List α) : us ++ t :: rest ≠ [] :=
  List.append_ne_nil_of_right_ne_nil us (List.cons_ne_nil t rest)

end Parser

end VulnProbe.Expr
