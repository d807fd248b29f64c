import VulnProbe.Proofs.Expr.Grammar.Readers

namespace VulnProbe.Expr

open VulnProbe.Expr.Parser

/-- The tokens that an operand without signs starts with. -/
def Token.opensOperand : Token → Bool
  | .int _ | .str _ | .bytes _ | .ident _ | .lparen | .lbracket | .lbrace => true
  | _ => false

/-- The tokens that an operand starts with. -/
def Token.opensTree (t : Token) : Bool :=
  Token.opensOperand t || (signOp? t).isSome

/-- A sequence that starts with a token of some kind. -/
def Starts (opens : Token → Bool) (ts : List Token) : Prop :=
  ∃ t us, ts = t :: us ∧ opens t = true

/-- Only the first token counts for how a sequence starts. -/
theorem Starts.append {opens : Token → Bool} {ts : List Token} (hstarts : Starts opens ts)
    (us : List Token) : Starts opens (ts ++ us) := by
  obtain ⟨t, vs, rfl, ht⟩ := hstarts
  exact ⟨t, vs ++ us, rfl, ht⟩

/-- The tokens that a tree of a level starts with. -/
def Level.opens : Level → Token → Bool
  | .postfixed | .primary => Token.opensOperand
  | _ => Token.opensTree

/-- The tokens that a phrase starts with, if it has any. -/
def Phrase.opens : Phrase → Token → Bool
  | .tree l _ => l.opens
  | _ => Token.opensTree

/-- Only bracketed lists may be empty. -/
def Phrase.MayBeEmpty : Phrase → Prop
  | .arguments _ | .entries _ => True
  | _ => False

private theorem Level.opensTree_of_opens {l : Level} {t : Token} (ht : l.opens t = true) :
    Token.opensTree t = true := by
  cases l with
  | postfixed | primary =>
    rw [Token.opensTree, show Token.opensOperand t = true from ht, Bool.true_or]
  | _ => exact ht

/-- The first token of a phrase is one that such a phrase starts with. -/
theorem Derives.starts {p : Phrase} {ts : List Token} {d : Nat} (hp : Derives p ts d) :
    p.MayBeEmpty ∨ Starts p.opens ts := by
  induction hp with
  | plain _ ih => exact .inr (ih.resolve_left id)
  | conditional _ _ _ ih =>
    rw [List.append_assoc]
    exact .inr ((ih.resolve_left id).append _)
  | @tighten l l' e _ _ hl _ ih =>
    obtain ⟨t, us, rfl, ht⟩ := ih.resolve_left id
    refine .inr ⟨t, us, rfl, ?_⟩
    cases l <;> cases hl <;> first | exact ht | exact Level.opensTree_of_opens (l := .postfixed) ht
  | binary _ _ _ ih => exact .inr ((ih.resolve_left id).append _)
  | @sign op => exact .inr ⟨op.token, _, rfl, by cases op <;> rfl⟩
  | select _ ih => exact .inr ((ih.resolve_left id).append _)
  | method _ _ ih =>
    rw [List.append_assoc]
    exact .inr ((ih.resolve_left id).append _)
  | index _ _ ih =>
    rw [List.append_assoc]
    exact .inr ((ih.resolve_left id).append _)
  | literal ht => exact .inr ⟨_, _, rfl, by cases ht <;> rfl⟩
  | ident | call | paren | list | map => exact .inr ⟨_, _, rfl, rfl⟩
  | noItems | someItems | noPairs | somePairs => exact .inl trivial
  | lastItem _ ih => exact .inr (ih.resolve_left id)
  | nextItem _ _ ih => exact .inr ((ih.resolve_left id).append _)
  | lastPair _ _ ih => exact .inr ((ih.resolve_left id).append _)
  | nextPair _ _ _ ih =>
    rw [List.append_assoc]
    exact .inr ((ih.resolve_left id).append _)

/-- Once an operand without signs has begun, no sign is seen. -/
theorem signOp?_of_opensOperand {t : Token} (ht : Token.opensOperand t = true) : signOp? t = none := by
  cases t <;> first | rfl | cases ht

namespace Level

/-- The tokens that carry a tree of a level on, if they follow it. -/
def continues : Level → Token → Bool
  | .expression, t => t == .question
  | .postfixed, t => t == .dot || t == .lbracket
  | .primary, t => t == .lparen
  | l, t => (l.operator? t).isSome

/-- A token ends every tree of a level. -/
def Stops (l : Level) (t : Token) : Prop :=
  ∀ l' : Level, l.rank ≤ l'.rank → l'.continues t = false

/-- A token ends every tree of the next tighter level. -/
def Pauses (l : Level) (t : Token) : Prop :=
  match l.tighter? with
  | some l' => l'.Stops t
  | none => l.Stops t

/-- A token that ends the trees of a level ends those of all levels that are as tight or tighter. -/
theorem Stops.of_rank_le {l l' : Level} {t : Token} (hstops : l.Stops t) (hl : l.rank ≤ l'.rank) :
    l'.Stops t :=
  fun m hm => hstops m (Nat.le_trans hl hm)

/-- A token that ends the trees of a level ends those of the next tighter one. -/
theorem Stops.tighter {l l' : Level} {t : Token} (hl : l.tighter? = some l') (hstops : l.Stops t) :
    l'.Stops t :=
  hstops.of_rank_le (by rw [rank_of_tighter hl]; omega)

/-- A token that ends the trees of a level ends those of the next tighter one, if there is one. -/
theorem Stops.pauses {l : Level} {t : Token} (hstops : l.Stops t) : l.Pauses t := by
  unfold Pauses
  split
  · rename_i hl
    exact hstops.tighter hl
  · exact hstops

/-- A token between the trees of a level ends those of the next tighter one. -/
theorem Pauses.stops_tighter {l l' : Level} {t : Token} (hpauses : l.Pauses t)
    (hl : l.tighter? = some l') : l'.Stops t := by
  unfold Pauses at hpauses
  rwa [hl] at hpauses

/-- A sign stands before its operand only, so that nothing carries it on but what carries on the
    operand. -/
theorem Pauses.stops_sign {t : Token} (hpauses : Level.sign.Pauses t) : Level.sign.Stops t := by
  intro l hl
  by_cases hsign : l = .sign
  · subst hsign
    rfl
  · refine hpauses l ?_
    cases l <;> first | exact absurd rfl hsign | exact absurd hl (by decide) | decide

/-- An operator ends the operands that it stands between. -/
theorem pauses_token (op : BinaryOp) : op.level.Pauses op.token := by
  have hstops : ∀ l' : Level, op.level.rank < l'.rank → l'.continues op.token = false := by
    intro l' hl'
    cases op <;> cases l' <;> first | rfl | exact absurd hl' (by decide)
  unfold Pauses
  split
  · rename_i l' hl
    have hrank := rank_of_tighter hl
    exact fun m hm => hstops m (by omega)
  · rename_i hl
    cases op <;> cases hl

/-- The tokens that end every tree: those that close or part bracketed trees, and the end of input. -/
def endsTree : Token → Bool
  | .rparen | .rbracket | .rbrace | .comma | .colon | .endOfInput => true
  | _ => false

/-- The tokens that close a bracketed list. -/
def closesList : Token → Bool
  | .rparen | .rbracket | .rbrace => true
  | _ => false

/-- The tokens that close lists end trees. -/
theorem endsTree_of_closesList {t : Token} (ht : closesList t = true) : endsTree t = true := by
  cases t <;> cases ht <;> rfl

/-- No tree starts with a token that closes a list. -/
theorem ne_of_closesList {t close : Token} (hclose : closesList close = true)
    (ht : Token.opensTree t = true) : t ≠ close := by
  rintro rfl
  cases t <;> cases hclose <;> cases ht

/-- A token that ends every tree ends those of each level. -/
theorem stops_of_endsTree {t wanted : Token} (ht : t = wanted) (hwanted : endsTree wanted = true)
    (l : Level) : l.Stops t := by
  intro l' _
  subst ht
  cases t <;> cases hwanted <;> cases l' <;> rfl

/-- The mark of a conditional ends its test. -/
theorem stops_of_question {t : Token} (ht : t = .question) : Level.or.Stops t := by
  intro l' hl'
  subst ht
  cases l' <;> first | rfl | exact absurd hl' (by decide)

/-- What starts a selection ends the operand before it. -/
theorem pauses_postfixed {t : Token} (ht : Level.postfixed.continues t = true) :
    Level.postfixed.Pauses t := by
  intro l' hl'
  simp only [continues, Bool.or_eq_true, beq_iff_eq] at ht
  rcases ht with rfl | rfl <;> cases l' <;> first | rfl | exact absurd hl' (by decide)

end Level

end VulnProbe.Expr
