import VulnProbe.Proofs.Expr.Counted.Basic

namespace VulnProbe.Expr.Parser.Counted

/-- A state that a call with a result leaves: the counter is as before, and no more than the greatest number
    of levels were open. -/
structure Cursor.Kept (s s' : Cursor) : Prop where
  count : s'.count = s.count
  deepest : s'.deepest ≤ max s.deepest maxDepth

/-- A call that changes nothing keeps its state. -/
theorem Cursor.Kept.refl (s : Cursor) : s.Kept s :=
  ⟨rfl, Nat.le_max_left _ _⟩

/-- What two calls keep, one after the other, is kept by both together. -/
theorem Cursor.Kept.trans {s s' s'' : Cursor} (h : s.Kept s') (h' : s'.Kept s'') : s.Kept s'' := by
  refine ⟨h'.count.trans h.count, ?_⟩
  have hfirst := h.deepest
  have hsecond := h'.deepest
  omega

private theorem Cursor.kept_rest (s : Cursor) (rest : Tokens) : s.Kept { s with rest := rest } :=
  ⟨rfl, Nat.le_max_left _ _⟩

/-- A call ends as a reader does: with the same fault, or with the same result and the same tokens left. -/
inductive Agrees {α : Type} (s : Cursor) :
    Except ExprError (α × Tokens) → Option (Except ExprError α × Cursor) → Prop where
  | error {e : ExprError} {s' : Cursor} (hdeepest : s'.deepest ≤ max s.deepest maxDepth) :
      Agrees s (.error e) (some (.error e, s'))
  | ok {a : α} {s' : Cursor} (hkept : s.Kept s') : Agrees s (.ok (a, s'.rest)) (some (.ok a, s'))

/-- A call follows a reader, with so many levels open around it, wherever the end of input closes the
    tokens. What the reader may still open, which bounds its recursion, is what is left to the bound of
    the counter. -/
def Follows {α : Type} (outer : Nat) (x : Call α) (p : Reader α) : Prop :=
  ∀ s : Cursor, Closed s.rest → s.count = outer → Agrees s (p s.rest) (outcome x s)

section Agreement

variable {α β : Type} {s s' : Cursor}

/-- A call that agrees with a reader from a kept state does so from the state before. -/
theorem Agrees.after {r : Except ExprError (α × Tokens)} {out : Option (Except ExprError α × Cursor)}
    (hagrees : Agrees s' r out) (hkept : s.Kept s') : Agrees s r out := by
  have hfirst := hkept.deepest
  cases hagrees with
  | error hdeepest => exact .error (by omega)
  | ok hkept' => exact .ok (hkept.trans hkept')

/-- A call goes on where a reader goes on, and stops where it stops. -/
theorem Agrees.bind {x : Call α} {f : α → Call β} {r : Except ExprError (α × Tokens)}
    {r' : Except ExprError (β × Tokens)} (hx : Agrees s r (outcome x s'))
    (herror : ∀ e, r = .error e → r' = .error e)
    (hok : ∀ a s'', r = .ok (a, s''.rest) → s.Kept s'' → Agrees s'' r' (outcome (f a) s'')) :
    Agrees s r' (outcome (x >>= f) s') := by
  rw [outcome_bind]
  generalize outcome x s' = out at hx
  cases hx with
  | error hdeepest =>
    rw [herror _ rfl]
    exact .error hdeepest
  | ok hkept => exact (hok _ _ rfl hkept).after hkept

/-- A sequence agrees with a reader if its first call follows the reader of the first part, the faults
    of this part are those of the whole, and what is called on its result agrees from there. -/
theorem Follows.bind {outer : Nat} {x : Call α} {p : Reader α} {f : α → Call β}
    {r : Except ExprError (β × Tokens)} (hx : Follows outer x p) (hclosed : Closed s.rest)
    (hcount : s.count = outer) (herror : ∀ e, p s.rest = .error e → r = .error e)
    (hok : ∀ a s', p s.rest = .ok (a, s'.rest) → s'.count = outer → Agrees s' r (outcome (f a) s')) :
    Agrees s r (outcome (x >>= f) s) :=
  (hx s hclosed hcount).bind herror fun a s' ha hkept => hok a s' ha (hkept.count.trans hcount)

private theorem agrees_pure (a : α) : Agrees s (.ok (a, s.rest)) (outcome (pure a) s) :=
  .ok (.refl s)

private theorem agrees_refuse (issue : SyntaxIssue) :
    Agrees s (fail s.rest issue) (outcome (refuse (α := α) issue) s) :=
  .error (Nat.le_max_left _ _)

private theorem agrees_above (e : Expr) (h : Nat) : Agrees s (node e h s.rest) (outcome (above e h) s) := by
  rw [outcome_above, node]
  split
  · exact .error (Nat.le_max_left _ _)
  · exact .ok (.refl s)

private theorem agrees_withSign (op : UnaryOp) (operand : Node) :
    Agrees s (signed op operand s.rest) (outcome (withSign op operand) s) := by
  fun_cases signed op operand s.rest with
  | case1 => exact agrees_pure _
  | case2 op e h hfold =>
    rw [withSign.eq_2 op e h hfold]
    exact agrees_above _ _

/-- A token that is eaten or not decides how a call goes on. -/
theorem agrees_eat {yes no : Call β} {wanted : Token} {r : Except ExprError (β × Tokens)}
    (hyes : peek s.rest = wanted →
      Agrees { s with rest := advance s.rest } r (outcome yes { s with rest := advance s.rest }))
    (hno : peek s.rest ≠ wanted → Agrees s r (outcome no s)) :
    Agrees s r (outcome (do if ← eat wanted then yes else no) s) := by
  rw [outcome_bind, outcome_eat]
  split
  · exact (hyes ‹_›).after (s.kept_rest _)
  · exact hno ‹_›

private theorem agrees_expect {f : Unit → Call β} {wanted : Token} {r : Except ExprError (β × Tokens)}
    (herror : ∀ e, Parser.expect wanted s.rest = .error e → r = .error e)
    (hok : ∀ rest, Parser.expect wanted s.rest = .ok rest →
      Agrees { s with rest := rest } r (outcome (f ()) { s with rest := rest })) :
    Agrees s r (outcome (expect wanted >>= f) s) := by
  rw [outcome_bind, outcome_expect]
  cases hexpect : Parser.expect wanted s.rest with
  | error e =>
    rw [herror e hexpect]
    exact .error (Nat.le_max_left _ _)
  | ok rest => exact (hok rest hexpect).after (s.kept_rest rest)

private theorem agrees_above_bind {f : Node → Call β} {e : Expr} {h : Nat} {r : Except ExprError (β × Tokens)}
    (herror : ∀ err, node e h s.rest = .error err → r = .error err)
    (hok : node e h s.rest = .ok ((e, h + 1), s.rest) → h + 1 ≤ maxDepth →
      Agrees s r (outcome (f (e, h + 1)) s)) :
    Agrees s r (outcome (above e h >>= f) s) := by
  rw [outcome_bind, outcome_above]
  by_cases hmax : h + 1 > maxDepth
  · have hnode : node e h s.rest = fail s.rest .tooDeep := if_pos hmax
    rw [hnode, herror _ hnode]
    exact .error (Nat.le_max_left _ _)
  · have hnode : node e h s.rest = .ok ((e, h + 1), s.rest) := if_neg hmax
    rw [hnode]
    exact hok hnode (Nat.le_of_not_lt hmax)

/-- The next token is passed. -/
theorem agrees_skip {x : Call β} {r : Except ExprError (β × Tokens)}
    (hx : Agrees { s with rest := advance s.rest } r (outcome x { s with rest := advance s.rest })) :
    Agrees s r (outcome (skip >>= fun _ => x) s) := by
  rw [outcome_bind, outcome_skip]
  exact hx.after (s.kept_rest _)

end Agreement

private theorem closed_advance {ts : Tokens} {token : Token} (hclosed : Closed ts) (hpeek : peek ts = token)
    (htoken : token ≠ .endOfInput) : Closed (advance ts) := by
  obtain ⟨_, rest, -, -, hrest, hadvance⟩ := hclosed.advance hpeek htoken
  rwa [hadvance]

/-- A token that was expected was there, and no other was passed. -/
theorem expect_ok (wanted : Token) {ts rest : Tokens} (hclosed : Closed ts)
    (hwanted : wanted ≠ .endOfInput) (hexpect : Parser.expect wanted ts = .ok rest) :
    Closed rest ∧ rest.length < ts.length := by
  rcases expect_cases hclosed wanted hwanted with ⟨_, herr, -⟩ | ⟨t, rest', hok, rfl, -, hrest⟩
  · cases herr.symm.trans hexpect
  · cases hok.symm.trans hexpect
    exact ⟨hrest, Nat.lt_succ_self _⟩

/-- What a sound reader leaves is closed, and the height that it gives is one of a tree that is not too
    high. -/
theorem sound_ok {l : Level} {bound h : Nat} {p : Reader Node} {e : Expr} {ts rest : Tokens}
    (hp : Sound l bound p) (hclosed : Closed ts) (hread : p ts = .ok ((e, h), rest)) :
    Closed rest ∧ rest.length ≤ ts.length ∧ 0 < h ∧ h ≤ maxDepth := by
  rcases hp.cases hclosed with ⟨_, herr, -⟩ | ⟨e', us, rest', _, hok, rfl, hrest, hmax, -⟩
  · cases herr.symm.trans hread
  · cases hok.symm.trans hread
    exact ⟨hrest, by simp, height_pos e, hmax⟩

private theorem arguments_ok {bound : Nat} {p : Reader Node} (close : Token) {ts rest : Tokens}
    {items : List Expr × Nat} (hp : Sound .expression bound p) (hbound : 0 < bound)
    (hclose : close ≠ .endOfInput) (hclosed : Closed ts)
    (hread : Parser.arguments p close ts = .ok (items, rest)) : Closed rest := by
  rcases arguments_cases hp hbound hclose hclosed with ⟨_, herr, -⟩ | ⟨_, _, _, rest', _, hok, -, -, hrest, -⟩
  · cases herr.symm.trans hread
  · cases hok.symm.trans hread
    exact hrest

section Chain

variable {l l' : Level} {bound outer : Nat} {p : Reader Node}

private theorem follows_chainAfter (hfollows : Follows outer (Entry.operand l outer).call p)
    (hsound : Sound l' bound p) (fuel : Nat) (lhs : Node) (s : Cursor) (hclosed : Closed s.rest)
    (hcount : s.count = outer) (hfuel : maxDepth < fuel + lhs.2) (hmax : lhs.2 ≤ maxDepth) :
    Agrees s (Parser.chainAfter l.operator? p fuel lhs s.rest)
      (outcome (Entry.chainAfter l outer lhs).call s) := by
  induction fuel generalizing lhs s with
  | zero => omega
  | succ fuel ih =>
    rw [Entry.call, Parser.chainAfter, outcome_bind, outcome_next, Option.bind_some]
    dsimp only
    cases hop : l.operator? (peek s.rest) with
    | none => exact agrees_pure _
    | some op =>
      dsimp only
      have hpeek := (Level.operator?_eq_some_iff.mp hop).2
      have hrest := closed_advance hclosed hpeek.symm (by cases op <;> decide)
      refine agrees_skip (hfollows.bind hrest hcount (fun e he => by simp only [he]) ?_)
      rintro ⟨rhs, h⟩ s' hr hcount
      have hrest := (sound_ok hsound hrest hr).1
      simp only [hr]
      refine agrees_above_bind (fun e he => by simp only [he]) fun hnode hmax => ?_
      simp only [hnode]
      exact ih _ s' hrest hcount (by dsimp only at *; omega) hmax

private theorem follows_chain (hfollows : Follows outer (Entry.operand l outer).call p)
    (hsound : Sound l' bound p) : Follows outer (Entry.chain l outer).call (Parser.chain l.operator? p) := by
  intro s hclosed hcount
  rw [Entry.call, Parser.chain]
  refine hfollows.bind hclosed hcount (fun e he => by simp only [he]) ?_
  rintro ⟨lhs, h⟩ s' hr hcount
  obtain ⟨hrest, -, hpos, hmax⟩ := sound_ok hsound hclosed hr
  simp only [hr]
  exact follows_chainAfter hfollows hsound maxDepth _ s' hrest hcount (by dsimp only; omega) hmax

end Chain

section Brackets

variable {outer bound : Nat} {p : Reader Node}

private theorem follows_argumentsAfter (hfollows : Follows outer (Entry.expression outer).call p)
    (hsound : Sound .expression bound p) (close : Token) (fuel : Nat)
    (read : List Expr) (height : Nat) (s : Cursor) (hclosed : Closed s.rest) (hcount : s.count = outer)
    (hfuel : s.rest.length < fuel) :
    Agrees s (Parser.argumentsAfter p close fuel read height s.rest)
      (outcome (Entry.argumentsAfter outer close read.reverse height).call s) := by
  induction fuel generalizing read height s with
  | zero => omega
  | succ fuel ih =>
    rw [Entry.call, Parser.argumentsAfter]
    refine hfollows.bind hclosed hcount (fun e he => by simp only [he]) ?_
    rintro ⟨e, h⟩ s' hr hcount
    obtain ⟨hrest, hlength, -⟩ := sound_ok hsound hclosed hr
    simp only [hr]
    refine agrees_eat (fun hpeek => ?_) (fun hpeek => ?_)
    · rw [if_pos hpeek, List.reverse_cons]
      exact agrees_pure _
    · rw [if_neg hpeek]
      refine agrees_expect (fun e he => by simp only [he]) fun rest hexpect => ?_
      simp only [hexpect]
      obtain ⟨hrest, hcomma⟩ := expect_ok .comma hrest (by decide) hexpect
      rw [← List.reverse_cons]
      exact ih (e :: read) (max height h) ⟨rest, s'.count, s'.deepest⟩ hrest hcount (by dsimp only; omega)

private theorem follows_arguments (hfollows : Follows outer (Entry.expression outer).call p)
    (hsound : Sound .expression bound p) (close : Token) :
    Follows outer (Entry.arguments outer close).call (Parser.arguments p close) := by
  intro s hclosed hcount
  rw [Entry.call, Parser.arguments]
  refine agrees_eat (fun hpeek => ?_) (fun hpeek => ?_)
  · rw [if_pos hpeek]
    exact agrees_pure _
  · rw [if_neg hpeek]
    exact follows_argumentsAfter hfollows hsound close _ [] 0 s hclosed hcount (Nat.lt_succ_self _)

private theorem follows_entriesAfter (hfollows : Follows outer (Entry.expression outer).call p)
    (hsound : Sound .expression bound p) (fuel : Nat) (read : List (Expr × Expr)) (height : Nat) (s : Cursor)
    (hclosed : Closed s.rest) (hcount : s.count = outer) (hfuel : s.rest.length < fuel) :
    Agrees s (Parser.entriesAfter p fuel read height s.rest)
      (outcome (Entry.entriesAfter outer read.reverse height).call s) := by
  induction fuel generalizing read height s with
  | zero => omega
  | succ fuel ih =>
    rw [Entry.call, Parser.entriesAfter]
    refine hfollows.bind hclosed hcount (fun e he => by simp only [he]) ?_
    rintro ⟨key, hk⟩ s' hr hcount
    obtain ⟨hrest, hkey, -⟩ := sound_ok hsound hclosed hr
    simp only [hr]
    refine agrees_expect (fun e he => by simp only [he]) fun rest hexpect => ?_
    obtain ⟨hrest, hcolon⟩ := expect_ok .colon hrest (by decide) hexpect
    simp only [hexpect]
    refine hfollows.bind hrest hcount (fun e he => by simp only [he]) ?_
    rintro ⟨value, hv⟩ s'' hr hcount
    obtain ⟨hrest, hvalue, -⟩ := sound_ok hsound hrest hr
    simp only [hr]
    refine agrees_eat (fun hpeek => ?_) (fun hpeek => ?_)
    · rw [if_pos hpeek, List.reverse_cons]
      exact agrees_pure _
    · rw [if_neg hpeek]
      refine agrees_expect (fun e he => by simp only [he]) fun rest hexpect => ?_
      simp only [hexpect]
      obtain ⟨hrest, hcomma⟩ := expect_ok .comma hrest (by decide) hexpect
      rw [← List.reverse_cons]
      exact ih ((key, value) :: read) _ ⟨rest, s''.count, s''.deepest⟩ hrest hcount
        (by dsimp only at *; omega)

private theorem follows_entries (hfollows : Follows outer (Entry.expression outer).call p)
    (hsound : Sound .expression bound p) : Follows outer (Entry.entries outer).call (Parser.entries p) := by
  intro s hclosed hcount
  rw [Entry.call, Parser.entries]
  refine agrees_eat (fun hpeek => ?_) (fun hpeek => ?_)
  · rw [if_pos hpeek]
    exact agrees_pure _
  · rw [if_neg hpeek]
    exact follows_entriesAfter hfollows hsound _ [] 0 s hclosed hcount (Nat.lt_succ_self _)

end Brackets

section Operands

variable {outer bound : Nat} {p : Reader Node}

private theorem follows_primary (hfollows : Follows outer (Entry.expression outer).call p)
    (hsound : Sound .expression bound p) : Follows outer (Entry.primary outer).call (Parser.primary p) := by
  intro s hclosed hcount
  have harguments := follows_arguments hfollows hsound
  rw [Entry.call, Parser.primary, outcome_bind, outcome_next, Option.bind_some]
  dsimp only
  refine agrees_skip ?_
  cases htoken : peek s.rest with
  | int i => exact agrees_pure _
  | str t => exact agrees_pure _
  | bytes bs => exact agrees_pure _
  | ident name =>
    have hrest := closed_advance hclosed htoken (by simp)
    dsimp only
    unfold named
    split
    · exact agrees_pure _
    split
    · exact agrees_pure _
    split
    · exact agrees_pure _
    refine agrees_eat (fun hpeek => ?_) (fun hpeek => ?_)
    · rw [if_pos hpeek]
      have hrest := closed_advance hrest hpeek (by decide)
      refine (harguments .rparen).bind hrest hcount (fun e he => by simp only [he]) ?_
      rintro ⟨args, h⟩ s' hr -
      simp only [hr]
      exact agrees_above _ _
    · rw [if_neg hpeek]
      exact agrees_pure _
  | lparen =>
    have hrest := closed_advance hclosed htoken (by decide)
    refine hfollows.bind hrest hcount (fun e he => by simp only [he]) ?_
    rintro inner s' hr hcount
    simp only [hr]
    refine agrees_expect (fun e he => by rw [he]; rfl) fun rest hexpect => ?_
    rw [hexpect]
    exact agrees_pure _
  | lbracket =>
    have hrest := closed_advance hclosed htoken (by decide)
    refine (harguments .rbracket).bind hrest hcount (fun e he => by simp only [he]) ?_
    rintro ⟨items, h⟩ s' hr -
    simp only [hr]
    exact agrees_above _ _
  | lbrace =>
    have hrest := closed_advance hclosed htoken (by decide)
    refine (follows_entries hfollows hsound).bind hrest hcount (fun e he => by simp only [he]) ?_
    rintro ⟨es, h⟩ s' hr -
    simp only [hr]
    exact agrees_above _ _
  | _ => exact agrees_refuse _

private theorem follows_postfixAfter (hfollows : Follows outer (Entry.expression outer).call p)
    (hsound : Sound .expression bound p) (hbound : 0 < bound) (fuel : Nat) (node : Node) (s : Cursor)
    (hclosed : Closed s.rest) (hcount : s.count = outer) (hfuel : maxDepth < fuel + node.2)
    (hmax : node.2 ≤ maxDepth) :
    Agrees s (Parser.postfixAfter p fuel node s.rest) (outcome (Entry.postfixAfter outer node).call s) := by
  induction fuel generalizing node s with
  | zero => omega
  | succ fuel ih =>
    rw [Entry.call, Parser.postfixAfter]
    refine agrees_eat (fun hpeek => ?_) (fun hpeek => ?_)
    · rw [if_pos hpeek, selection, outcome_bind, outcome_next, Option.bind_some]
      have hrest := closed_advance hclosed hpeek (by decide)
      dsimp only
      refine agrees_skip ?_
      cases hname : peek (advance s.rest) with
      | ident name =>
        have hrest := closed_advance hrest hname (by simp)
        dsimp only
        refine agrees_eat (fun hpeek => ?_) (fun hpeek => ?_) <;> dsimp only at hpeek ⊢
        · have hrest := closed_advance hrest hpeek (by decide)
          rw [if_pos hpeek]
          refine (follows_arguments hfollows hsound .rparen).bind hrest hcount
            (fun e he => by simp only [he]) ?_
          rintro ⟨args, h⟩ s' hr hcount
          simp only [hr]
          refine agrees_above_bind (fun e he => by simp only [he]) fun hnode hmax => ?_
          simp only [hnode]
          exact ih _ s' (arguments_ok .rparen hsound hbound (by decide) hrest hr) hcount
            (by dsimp only at *; omega) hmax
        · rw [if_neg hpeek]
          refine agrees_above_bind (fun e he => by simp only [he]) fun hnode hmax => ?_
          simp only [hnode]
          exact ih _ _ hrest hcount (by dsimp only at *; omega) hmax
      | _ => exact agrees_refuse _
    · rw [if_neg hpeek]
      refine agrees_eat (fun hpeek => ?_) (fun hpeek => ?_)
      · rw [if_pos hpeek, indexing]
        have hrest := closed_advance hclosed hpeek (by decide)
        refine hfollows.bind hrest hcount (fun e he => by simp only [he]) ?_
        rintro ⟨i, h⟩ s' hr hcount
        have hrest := (sound_ok hsound hrest hr).1
        simp only [hr]
        refine agrees_expect (fun e he => by simp only [he]) fun rest hexpect => ?_
        have hrest := (expect_ok .rbracket hrest (by decide) hexpect).1
        simp only [hexpect]
        refine agrees_above_bind (fun e he => by simp only [he]) fun hnode hmax => ?_
        simp only [hnode]
        exact ih _ _ hrest hcount (by dsimp only at *; omega) hmax
      · rw [if_neg hpeek]
        exact agrees_pure _

private theorem follows_postfixed (hfollows : Follows outer (Entry.expression outer).call p)
    (hsound : Sound .expression bound p) (hbound : 0 < bound) :
    Follows outer (Entry.postfixed outer).call (Parser.postfixed p) := by
  intro s hclosed hcount
  rw [Entry.call, Parser.postfixed]
  refine (follows_primary hfollows hsound).bind hclosed hcount (fun e he => by simp only [he]) ?_
  rintro ⟨e, h⟩ s' hr hcount
  obtain ⟨hrest, -, hpos, hmax⟩ := sound_ok (sound_primary hsound hbound) hclosed hr
  simp only [hr]
  exact follows_postfixAfter hfollows hsound hbound maxDepth _ s' hrest hcount (by dsimp only; omega) hmax

end Operands

section Levels

variable {outer n : Nat}

/-- The chains follow their readers if the operands with signs do. -/
theorem follows_chains (hunary : Follows outer (Entry.unary outer).call (Level.sign.reader n)) :
    Follows outer (Entry.chain .product outer).call (Level.product.reader n) ∧
      Follows outer (Entry.chain .sum outer).call (Level.sum.reader n) ∧
      Follows outer (Entry.chain .relation outer).call (Level.relation.reader n) ∧
      Follows outer (Entry.chain .and outer).call (Level.and.reader n) ∧
      Follows outer (Entry.chain .or outer).call (Level.or.reader n) := by
  have hproduct : Follows outer (Entry.chain .product outer).call (Level.product.reader n) :=
    follows_chain (by rwa [Entry.call]) (sound_reader .sign n)
  have hsum : Follows outer (Entry.chain .sum outer).call (Level.sum.reader n) :=
    follows_chain (by rwa [Entry.call]) (sound_reader .product n)
  have hrelation : Follows outer (Entry.chain .relation outer).call (Level.relation.reader n) :=
    follows_chain (by rwa [Entry.call]) (sound_reader .sum n)
  have hand : Follows outer (Entry.chain .and outer).call (Level.and.reader n) :=
    follows_chain (by rwa [Entry.call]) (sound_reader .relation n)
  have hor : Follows outer (Entry.chain .or outer).call (Level.or.reader n) :=
    follows_chain (by rwa [Entry.call]) (sound_reader .and n)
  exact ⟨hproduct, hsum, hrelation, hand, hor⟩

private theorem follows_conditional {inner p : Reader Node} {bound : Nat}
    (hor : Follows outer (Entry.chain .or outer).call (disjunction inner))
    (hinner : Sound .or bound (disjunction inner))
    (hexpression : Follows outer (Entry.expression outer).call p) :
    Follows outer (Entry.conditional outer).call (Parser.conditional inner p) := by
  intro s hclosed hcount
  rw [Entry.call, Parser.conditional]
  refine hor.bind hclosed hcount (fun e he => by simp only [he]) ?_
  rintro ⟨test, ht⟩ s₁ hr hcount
  have hrest := (sound_ok hinner hclosed hr).1
  simp only [hr]
  refine agrees_eat (fun hpeek => ?_) (fun hpeek => ?_)
  · rw [if_pos hpeek]
    have hrest := closed_advance hrest hpeek (by decide)
    refine hor.bind hrest hcount (fun e he => by simp only [he]) ?_
    rintro ⟨yes, hy⟩ s₂ hr hcount
    have hrest := (sound_ok hinner hrest hr).1
    simp only [hr]
    refine agrees_expect (fun e he => by simp only [he]) fun rest hexpect => ?_
    have hrest := (expect_ok .colon hrest (by decide) hexpect).1
    simp only [hexpect]
    refine hexpression.bind hrest hcount (fun e he => by simp only [he]) ?_
    rintro ⟨no, hn⟩ s₃ hr -
    simp only [hr]
    exact agrees_above _ _
  · rw [if_neg hpeek]
    exact agrees_pure _

/-- One more level is opened, or refused where no more may be open. -/
theorem agrees_enter {α : Type} {x : Call α} {r : Except ExprError (α × Tokens)} {s : Cursor}
    (hcount : s.count = outer) (hdeep : maxDepth ≤ outer → r = fail s.rest .tooDeep)
    (hx : ∀ s', s'.rest = s.rest → s'.count = outer + 1 → outer < maxDepth →
      s'.deepest ≤ max s.deepest maxDepth → Agrees s r (outcome x s')) :
    Agrees s r (outcome (enter outer >>= fun _ => x) s) := by
  rw [outcome_bind, outcome_enter]
  split
  · rw [hdeep (by omega)]
    exact .error (Nat.le_max_left _ _)
  · exact hx _ rfl (congrArg (· + 1) hcount) (by omega) (by dsimp only; omega)

/-- A level that is closed has the counter back where it was. -/
theorem Agrees.left {α : Type} {x : Call α} {r : Except ExprError (α × Tokens)} {s s' : Cursor}
    (hx : Agrees s' r (outcome x s')) (hcount : s'.count = s.count + 1)
    (hdeepest : s'.deepest ≤ max s.deepest maxDepth) :
    Agrees s r ((outcome x s').map fun out => (out.1, { out.2 with count := out.2.count - 1 })) := by
  generalize outcome x s' = out at hx
  cases hx with
  | error hdeepest' => exact .error (by dsimp only; omega)
  | @ok a s'' hkept =>
    have hcount' := hkept.count
    have hdeepest' := hkept.deepest
    have hclosed : s.Kept { s'' with count := s''.count - 1 } :=
      ⟨by dsimp only; omega, by dsimp only; omega⟩
    exact .ok hclosed

private theorem follows_expression {p : Reader Node} (hdeep : maxDepth ≤ outer → p = tooDeep)
    (hconditional : outer < maxDepth → Follows (outer + 1) (Entry.conditional (outer + 1)).call p) :
    Follows outer (Entry.expression outer).call p := by
  intro s hclosed hcount
  rw [Entry.call]
  refine agrees_enter hcount (fun houter => by rw [hdeep houter]; rfl)
    fun s' hrest hcount' houter hdeepest => ?_
  rw [outcome_closing, ← hrest]
  exact (hconditional houter s' (by rwa [hrest]) hcount').left (by omega) hdeepest

private theorem follows_unary {inner p : Reader Node} (hdeep : maxDepth ≤ outer → inner = tooDeep)
    (hinner : outer < maxDepth → Follows (outer + 1) (Entry.unary (outer + 1)).call inner)
    (hpostfixed : Follows outer (Entry.postfixed outer).call (Parser.postfixed p)) :
    Follows outer (Entry.unary outer).call (Parser.unary inner p) := by
  intro s hclosed hcount
  rw [Entry.call, Parser.unary, outcome_bind, outcome_next, Option.bind_some]
  dsimp only
  cases hop : signOp? (peek s.rest) with
  | none => exact hpostfixed s hclosed hcount
  | some op =>
    have hrest := closed_advance hclosed (signOp?_eq_some_iff.mp hop) (by cases op <;> decide)
    dsimp only
    refine agrees_skip (agrees_enter hcount (fun houter => by rw [hdeep houter]; rfl)
      fun s' hs' hcount' houter hdeepest => ?_)
    have hbody : Agrees ⟨advance s.rest, s.count, s.deepest⟩ (inner (advance s.rest))
        (outcome (Entry.closing (.unary (outer + 1))).call s') := by
      rw [outcome_closing, ← show s'.rest = advance s.rest from hs']
      exact (hinner houter s' (by rwa [hs']) hcount').left (by dsimp only; omega) hdeepest
    refine hbody.bind (fun e he => by simp only [he]) ?_
    intro operand s'' hr _
    simp only [hr]
    exact agrees_withSign op operand

/-- With so many levels open, the readers that are followed are those for the levels that are left. -/
theorem follows_readers (outer : Nat) :
    Follows outer (Entry.expression outer).call (Level.expression.reader (maxDepth - outer)) ∧
      Follows outer (Entry.unary outer).call (Level.sign.reader (maxDepth - outer)) := by
  induction hleft : maxDepth - outer generalizing outer with
  | zero =>
    have hexpression : Follows outer (Entry.expression outer).call tooDeep :=
      follows_expression (fun _ => rfl) (fun houter => by omega)
    have hpostfixed := follows_postfixed hexpression (sound_tooDeep .expression 1) Nat.one_pos
    exact ⟨hexpression, follows_unary (fun _ => rfl) (fun houter => by omega) hpostfixed⟩
  | succ n ih =>
    have hnot : ¬ maxDepth ≤ outer := by omega
    obtain ⟨hinner, hoperand⟩ := ih (outer + 1) (by omega)
    have hor := (follows_chains hoperand).2.2.2.2
    have hconditional := follows_conditional hor (sound_reader .or n) hinner
    have hexpression : Follows outer (Entry.expression outer).call (Level.expression.reader (n + 1)) :=
      follows_expression (fun houter => absurd houter hnot) fun _ => hconditional
    have hpostfixed := follows_postfixed hexpression (sound_reader .expression (n + 1)) (Nat.succ_pos _)
    exact ⟨hexpression, follows_unary (fun houter => absurd houter hnot) (fun _ => hoperand) hpostfixed⟩

/-- The calls of all levels follow their readers. -/
theorem follows_call (l : Level) (outer : Nat) :
    Follows outer (call l outer) (l.reader (maxDepth - outer)) := by
  obtain ⟨hexpression, hunary⟩ := follows_readers outer
  obtain ⟨hproduct, hsum, hrelation, hand, hor⟩ := follows_chains hunary
  have hsound := sound_reader .expression (maxDepth - outer)
  cases l with
  | expression => exact hexpression
  | or => exact hor
  | and => exact hand
  | relation => exact hrelation
  | sum => exact hsum
  | product => exact hproduct
  | sign => exact hunary
  | postfixed => exact follows_postfixed hexpression hsound (Nat.succ_pos _)
  | primary => exact follows_primary hexpression hsound

end Levels

end VulnProbe.Expr.Parser.Counted
