import VulnProbe.Proofs.Expr.Induction
import VulnProbe.Proofs.Expr.Spelling.Basic

namespace VulnProbe.Expr

private theorem Level.exists_tighter {l l' : Level} (hl : l ≠ .expression) (hrank : l.rank < l'.rank) :
    ∃ m, l.tighter? = some m ∧ m ≠ .expression ∧ m.rank ≤ l'.rank := by
  cases l with
  | expression => exact absurd rfl hl
  | primary => cases l' <;> exact absurd hrank (by decide)
  | _ => exact ⟨_, rfl, by decide, hrank⟩

private theorem Level.eq_of_rank {l l' : Level} (hrank : l.rank = l'.rank) : l = l' := by
  cases l <;> cases l' <;> first | rfl | cases hrank

/-- A tree of a level is one of every looser level, but that an expression is opened as such. -/
theorem Derives.loosen {l l' : Level} {e : Expr} {ts : List Token} {d : Nat}
    (he : Derives (.tree l' e) ts d) (hl : l ≠ .expression) (hrank : l.rank ≤ l'.rank) :
    Derives (.tree l e) ts d := by
  induction hn : l'.rank - l.rank generalizing l with
  | zero => rwa [Level.eq_of_rank (show l.rank = l'.rank by omega)]
  | succ n ih =>
    obtain ⟨m, hm, hexpression, hle⟩ := Level.exists_tighter hl (show l.rank < l'.rank by omega)
    have hmrank := Level.rank_of_tighter hm
    exact .tighten hm (ih hexpression hle (by omega))

/-- The pieces of a tree derive it at its own level, with fewer than two expressions and signs open at
    once for each level of its height. -/
def DerivesOwn (e : Expr) : Prop :=
  ∃ d < 2 * e.height, Derives (.tree e.level e) (e.pieces.flatMap Token.parts) d

/-- What derives a tree at its own level derives it as an expression, whose levels open at most one
    level more. -/
theorem DerivesOwn.expression {e : Expr} (he : DerivesOwn e) :
    ∃ d ≤ 2 * e.height, Derives (.tree .expression e) (e.pieces.flatMap Token.parts) d := by
  obtain ⟨d, hd, hder⟩ := he
  by_cases hlevel : e.level = .expression
  · rw [hlevel] at hder
    exact ⟨d, by omega, hder⟩
  · refine ⟨d + 1, by omega, .plain (hder.loosen (by decide) ?_)⟩
    cases hl : e.level <;> first | exact absurd hl hlevel | decide

/-- In parentheses where it has to be, a tree stands at any level but the loosest. -/
theorem DerivesOwn.enclose {e : Expr} (he : DerivesOwn e) {l : Level} (hl : l ≠ .expression) :
    ∃ d ≤ 2 * e.height, Derives (.tree l e) ((Expr.enclose l e e.pieces).flatMap Token.parts) d := by
  unfold Expr.enclose
  split
  · rename_i hrank
    obtain ⟨d, hd, hder⟩ := he
    exact ⟨d, by omega, hder.loosen hl hrank⟩
  · obtain ⟨d, hd, hder⟩ := he.expression
    have hparen : Derives (.tree l e) (.lparen :: e.pieces.flatMap Token.parts ++ [Token.rparen]) d :=
      Derives.loosen (.paren hder) hl (by cases l <;> decide)
    exact ⟨d, hd, by simpa [Token.parts] using hparen⟩

private theorem derivesItems {es : List Expr} (hes : ∀ e ∈ es, DerivesOwn e) (hne : es ≠ []) :
    ∃ d ≤ 2 * heightAll es, Derives (.items es) ((piecesAll es).flatMap Token.parts) d := by
  induction es with
  | nil => exact absurd rfl hne
  | cons e es ih =>
    obtain ⟨d, hd, hder⟩ := (hes e List.mem_cons_self).expression
    cases es with
    | nil => exact ⟨d, by simpa [heightAll] using hd, .lastItem hder⟩
    | cons e' es =>
      obtain ⟨ds, hds, hders⟩ := ih (fun e he => hes e (List.mem_cons_of_mem _ he))
        (List.cons_ne_nil e' es)
      refine ⟨max d ds, ?_, ?_⟩
      · rw [heightAll]
        omega
      · simpa [piecesAll, Token.parts] using DerivesBy.nextItem hder hders

private theorem derivesArguments {es : List Expr} (hes : ∀ e ∈ es, DerivesOwn e) :
    ∃ d ≤ 2 * heightAll es, Derives (.arguments es) ((piecesAll es).flatMap Token.parts) d := by
  cases es with
  | nil => exact ⟨0, by simp, .noItems⟩
  | cons e es =>
    obtain ⟨d, hd, hder⟩ := derivesItems hes (List.cons_ne_nil e es)
    exact ⟨d, hd, .someItems hder⟩

private theorem derivesPairs {ps : List (Expr × Expr)} (hps : ∀ p ∈ ps, DerivesOwn p.1 ∧ DerivesOwn p.2)
    (hne : ps ≠ []) :
    ∃ d ≤ 2 * heightEntries ps, Derives (.pairs ps) ((piecesEntries ps).flatMap Token.parts) d := by
  induction ps with
  | nil => exact absurd rfl hne
  | cons p ps ih =>
    obtain ⟨k, v⟩ := p
    obtain ⟨hk, hv⟩ : DerivesOwn k ∧ DerivesOwn v := hps (k, v) List.mem_cons_self
    obtain ⟨dk, hdk, hkder⟩ := hk.expression
    obtain ⟨dv, hdv, hvder⟩ := hv.expression
    cases ps with
    | nil =>
      refine ⟨max dk dv, ?_, ?_⟩
      · simp only [heightEntries]
        omega
      · simpa [piecesEntries, Token.parts] using DerivesBy.lastPair hkder hvder
    | cons p' ps =>
      obtain ⟨ds, hds, hders⟩ := ih (fun p hp => hps p (List.mem_cons_of_mem _ hp))
        (List.cons_ne_nil p' ps)
      refine ⟨max (max dk dv) ds, ?_, ?_⟩
      · rw [heightEntries]
        omega
      · simpa [piecesEntries, Token.parts] using DerivesBy.nextPair hkder hvder hders

private theorem derivesEntries {ps : List (Expr × Expr)} (hps : ∀ p ∈ ps, DerivesOwn p.1 ∧ DerivesOwn p.2) :
    ∃ d ≤ 2 * heightEntries ps, Derives (.entries ps) ((piecesEntries ps).flatMap Token.parts) d := by
  cases ps with
  | nil => exact ⟨0, by simp, .noPairs⟩
  | cons p ps =>
    obtain ⟨d, hd, hder⟩ := derivesPairs hps (List.cons_ne_nil p ps)
    exact ⟨d, hd, .somePairs hder⟩

attribute [local simp] pieces level

/-- A literal that can be written derives itself. A negative integer is a sign over digits. -/
theorem derivesOwn_literal {v : Value} (hv : isPrintableLiteral v = true) :
    DerivesOwn (.literal v) := by
  have hprimary {t : Token} {v : Value} (ht : LiteralToken t v) :
      Derives (.tree .primary (.literal v)) [t] 0 := .literal ht
  cases v with
  | null => exact ⟨0, by simp [height], hprimary .null⟩
  | bool b =>
    cases b with
    | false => exact ⟨0, by simp [height], hprimary .false⟩
    | true => exact ⟨0, by simp [height], hprimary .true⟩
  | string s => exact ⟨0, by simp [height], hprimary (.str s)⟩
  | bytes bs => exact ⟨0, by simp [height], hprimary (.bytes bs)⟩
  | int i =>
    by_cases hi : i < 0
    · -- the literal that is read is the positive one, and the minus is folded into it
      have hsign : Derives (.tree .sign (.literal (.int i))) [.minus, .int (-i)] 1 := by
        have hpositive : Derives (.tree .sign (.literal (.int (-i)))) [.int (-i)] 0 :=
          (hprimary (.int (-i))).loosen (by decide) (by decide)
        have hder : Derives (.tree .sign (UnaryOp.neg.over (.literal (.int (-i)))))
            [.minus, .int (-i)] 1 := .sign hpositive
        rwa [UnaryOp.over, Int.neg_neg] at hder
      refine ⟨1, by simp [height], ?_⟩
      simpa [literalPieces, Token.parts, hi] using hsign
    · refine ⟨0, by simp [height], ?_⟩
      simpa [literalPieces, Token.parts, hi] using hprimary (.int i)
  | _ => cases hv

private theorem derivesOwn_unary {op : UnaryOp} {operand : Expr} (hoperand : DerivesOwn operand)
    (hfolded : isFolded op operand = false) : DerivesOwn (.unary op operand) := by
  obtain ⟨d, hd, hder⟩ := hoperand.enclose (l := .sign) (by decide)
  have hover : op.over operand = .unary op operand := by
    unfold UnaryOp.over
    split
    · cases hfolded
    · rfl
  have hsign : Derives (.tree .sign (op.over operand))
      (op.token :: (Expr.enclose .sign operand operand.pieces).flatMap Token.parts) (d + 1) :=
    .sign hder
  rw [hover] at hsign
  refine ⟨d + 1, by rw [height]; omega, ?_⟩
  cases op <;> simpa [UnaryOp.token, Token.parts] using hsign

private theorem derivesOwn_binary {op : BinaryOp} {lhs rhs : Expr} (hlhs : DerivesOwn lhs)
    (hrhs : DerivesOwn rhs) : DerivesOwn (.binary op lhs rhs) := by
  have hlevel : op.level ≠ .expression := by cases op <;> decide
  have htighter : op.level.tighter? = some op.level.tighter := by cases op <;> rfl
  have hright : op.level.tighter ≠ .expression := by cases op <;> decide
  obtain ⟨dl, hdl, hl⟩ := hlhs.enclose hlevel
  obtain ⟨dr, hdr, hr⟩ := hrhs.enclose hright
  have hparts : op.token.parts = [op.token] := by cases op <;> rfl
  refine ⟨max dl dr, by rw [height]; omega, ?_⟩
  simpa [hparts] using DerivesBy.binary htighter hl hr

private theorem derivesOwn_cond {test yes no : Expr} (htest : DerivesOwn test) (hyes : DerivesOwn yes)
    (hno : DerivesOwn no) : DerivesOwn (.cond test yes no) := by
  obtain ⟨dt, hdt, ht⟩ := htest.enclose (l := .or) (by decide)
  obtain ⟨dy, hdy, hy⟩ := hyes.enclose (l := .or) (by decide)
  obtain ⟨dn, hdn, hn⟩ := hno.expression
  refine ⟨max (max dt dy) dn + 1, by rw [height]; omega, ?_⟩
  simpa [Token.parts] using DerivesBy.conditional ht hy hn

private theorem derivesOwn_select {operand : Expr} (hoperand : DerivesOwn operand) (field : String) :
    DerivesOwn (.select operand field) := by
  obtain ⟨d, hd, hder⟩ := hoperand.enclose (l := .postfixed) (by decide)
  have hselect : Derives (.tree .postfixed (.select operand field)) _ d := .select hder
  refine ⟨d, by rw [height]; omega, ?_⟩
  simpa [Token.parts] using hselect

private theorem derivesOwn_index {operand i : Expr} (hoperand : DerivesOwn operand) (hi : DerivesOwn i) :
    DerivesOwn (.index operand i) := by
  obtain ⟨d, hd, hder⟩ := hoperand.enclose (l := .postfixed) (by decide)
  obtain ⟨di, hdi, hider⟩ := hi.expression
  refine ⟨max d di, by rw [height]; omega, ?_⟩
  simpa [Token.parts] using DerivesBy.index hder hider

private theorem derivesOwn_method {receiver : Expr} {args : List Expr} (hreceiver : DerivesOwn receiver)
    (name : String) (hargs : ∀ e ∈ args, DerivesOwn e) : DerivesOwn (.method receiver name args) := by
  obtain ⟨d, hd, hder⟩ := hreceiver.enclose (l := .postfixed) (by decide)
  obtain ⟨da, hda, hargs⟩ := derivesArguments hargs
  have hmethod : Derives (.tree .postfixed (.method receiver name args)) _ (max d da) :=
    .method hder hargs
  refine ⟨max d da, by rw [height]; omega, ?_⟩
  simpa [Token.parts] using hmethod

private theorem derivesOwn_call {function : String} {args : List Expr} (hfunction : ¬ IsConstantName function)
    (hargs : ∀ e ∈ args, DerivesOwn e) : DerivesOwn (.call function args) := by
  obtain ⟨d, hd, hder⟩ := derivesArguments hargs
  refine ⟨d, by rw [height]; omega, ?_⟩
  simpa [Token.parts] using DerivesBy.call hfunction hder

private theorem derivesOwn_list {items : List Expr} (hitems : ∀ e ∈ items, DerivesOwn e) :
    DerivesOwn (.list items) := by
  obtain ⟨d, hd, hder⟩ := derivesArguments hitems
  refine ⟨d, by rw [height]; omega, ?_⟩
  simpa [Token.parts] using DerivesBy.list hder

private theorem derivesOwn_map {entries : List (Expr × Expr)}
    (hentries : ∀ p ∈ entries, DerivesOwn p.1 ∧ DerivesOwn p.2) : DerivesOwn (.map entries) := by
  obtain ⟨d, hd, hder⟩ := derivesEntries hentries
  refine ⟨d, by rw [height]; omega, ?_⟩
  simpa [Token.parts] using DerivesBy.map hder

/-- Every tree that can be written is derived by its pieces. -/
theorem derivesOwn_of_isPrintable {e : Expr} (he : e.isPrintable = true) : DerivesOwn e := by
  induction e using induct with
  | literal v => exact derivesOwn_literal he
  | ident name =>
    simp only [isPrintable, Bool.and_eq_true, Bool.not_eq_true', decide_eq_false_iff_not] at he
    exact ⟨0, by simp [height], .ident he.2⟩
  | list items ih =>
    rw [isPrintable, isPrintableAll_iff] at he
    exact derivesOwn_list fun item hitem => ih item hitem (he item hitem)
  | map entries ih =>
    rw [isPrintable, isPrintableEntries_iff] at he
    exact derivesOwn_map fun p hp => ⟨(ih p hp).1 (he p hp).1, (ih p hp).2 (he p hp).2⟩
  | select operand field ih =>
    simp only [isPrintable, Bool.and_eq_true] at he
    exact derivesOwn_select (ih he.1) field
  | index operand i ih ihi =>
    simp only [isPrintable, Bool.and_eq_true] at he
    exact derivesOwn_index (ih he.1) (ihi he.2)
  | call function args ih =>
    simp only [isPrintable, Bool.and_eq_true, Bool.not_eq_true', decide_eq_false_iff_not,
      isPrintableAll_iff] at he
    exact derivesOwn_call he.1.2 fun arg harg => ih arg harg (he.2 arg harg)
  | method receiver name args ih ihargs =>
    simp only [isPrintable, Bool.and_eq_true, isPrintableAll_iff] at he
    exact derivesOwn_method (ih he.1.1) name fun arg harg => ihargs arg harg (he.2 arg harg)
  | unary op operand ih =>
    simp only [isPrintable, Bool.and_eq_true, Bool.not_eq_true'] at he
    exact derivesOwn_unary (ih he.1) he.2
  | binary op lhs rhs ihlhs ihrhs =>
    simp only [isPrintable, Bool.and_eq_true] at he
    exact derivesOwn_binary (ihlhs he.1) (ihrhs he.2)
  | cond test yes no ihtest ihyes ihno =>
    simp only [isPrintable, Bool.and_eq_true] at he
    exact derivesOwn_cond (ihtest he.1.1) (ihyes he.1.2) (ihno he.2)

end VulnProbe.Expr
