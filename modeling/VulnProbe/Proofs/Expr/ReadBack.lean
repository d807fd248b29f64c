import VulnProbe.Proofs.Expr.Grammar.Acceptance
import VulnProbe.Proofs.Expr.Printer.Derivation
import VulnProbe.Proofs.Expr.Spelling

namespace VulnProbe.Expr

section Pieces

private theorem arePieces_enclose {e : Expr} (he : ArePieces e.pieces) (l : Level) :
    ArePieces (Expr.enclose l e e.pieces) := by
  unfold Expr.enclose
  split
  · exact he
  · simp [he, IsPiece]

private theorem arePieces_piecesAll {es : List Expr} (hes : ∀ e ∈ es, ArePieces e.pieces) :
    ArePieces (piecesAll es) := by
  induction es with
  | nil => simp [piecesAll]
  | cons e es ih =>
    obtain ⟨he, hes⟩ := List.forall_mem_cons.mp hes
    cases es with
    | nil => simpa [piecesAll] using he
    | cons e' es => simp [piecesAll, IsPiece, he, ih hes]

private theorem arePieces_piecesEntries {ps : List (Expr × Expr)}
    (hps : ∀ p ∈ ps, ArePieces p.1.pieces ∧ ArePieces p.2.pieces) : ArePieces (piecesEntries ps) := by
  induction ps with
  | nil => simp [piecesEntries]
  | cons p ps ih =>
    obtain ⟨hp, hps⟩ := List.forall_mem_cons.mp hps
    cases ps with
    | nil => simp [piecesEntries, IsPiece, hp]
    | cons p' ps => simp [piecesEntries, IsPiece, hp, ih hps]

private theorem arePieces_literalPieces {v : Value} (hv : isPrintableLiteral v = true) :
    ArePieces (literalPieces v) := by
  cases v with
  | null => exact arePieces_cons.mpr ⟨(rfl : isAsciiName "null" = true), arePieces_nil⟩
  | bool b =>
    cases b with
    | false => exact arePieces_cons.mpr ⟨(rfl : isAsciiName "false" = true), arePieces_nil⟩
    | true => exact arePieces_cons.mpr ⟨(rfl : isAsciiName "true" = true), arePieces_nil⟩
  | int i =>
    simp only [isPrintableLiteral, Bool.and_eq_true, decide_eq_true_eq] at hv
    exact arePieces_cons.mpr ⟨hv, arePieces_nil⟩
  | string | bytes => exact arePieces_cons.mpr ⟨trivial, arePieces_nil⟩
  | _ => cases hv

/-- Every piece of a tree that can be written can be read back. -/
theorem arePieces_of_isPrintable {e : Expr} (he : e.isPrintable = true) : ArePieces e.pieces := by
  induction e using induct with
  | literal v => exact arePieces_literalPieces he
  | ident name =>
    simp only [isPrintable, Bool.and_eq_true] at he
    simpa [pieces, IsPiece] using he.1
  | list items ih =>
    rw [isPrintable, isPrintableAll_iff] at he
    have hitems := arePieces_piecesAll fun item hitem => ih item hitem (he item hitem)
    simp [pieces, IsPiece, hitems]
  | map entries ih =>
    rw [isPrintable, isPrintableEntries_iff] at he
    have hentries := arePieces_piecesEntries fun p hp =>
      ⟨(ih p hp).1 (he p hp).1, (ih p hp).2 (he p hp).2⟩
    simp [pieces, IsPiece, hentries]
  | select operand field ih =>
    simp only [isPrintable, Bool.and_eq_true] at he
    simp [pieces, IsPiece, arePieces_enclose (ih he.1), he.2]
  | index operand i ih ihi =>
    simp only [isPrintable, Bool.and_eq_true] at he
    simp [pieces, IsPiece, arePieces_enclose (ih he.1), ihi he.2]
  | call function args ih =>
    simp only [isPrintable, Bool.and_eq_true, isPrintableAll_iff] at he
    have hargs := arePieces_piecesAll fun arg harg => ih arg harg (he.2 arg harg)
    simp [pieces, IsPiece, he.1.1, hargs]
  | method receiver name args ih ihargs =>
    simp only [isPrintable, Bool.and_eq_true, isPrintableAll_iff] at he
    have hargs := arePieces_piecesAll fun arg harg => ihargs arg harg (he.2 arg harg)
    simp [pieces, IsPiece, arePieces_enclose (ih he.1.1), he.1.2, hargs]
  | unary op operand ih =>
    simp only [isPrintable, Bool.and_eq_true] at he
    cases op <;> simp [pieces, UnaryOp.token, IsPiece, arePieces_enclose (ih he.1)]
  | binary op lhs rhs ihlhs ihrhs =>
    simp only [isPrintable, Bool.and_eq_true] at he
    have htoken : IsPiece op.token := by cases op <;> trivial
    simp [pieces, htoken, arePieces_enclose (ihlhs he.1), arePieces_enclose (ihrhs he.2)]
  | cond test yes no ihtest ihyes ihno =>
    simp only [isPrintable, Bool.and_eq_true] at he
    simp [pieces, IsPiece, arePieces_enclose (ihtest he.1.1), arePieces_enclose (ihyes he.1.2),
      ihno he.2]

end Pieces

/-- What is printed is read back: a tree that can be written and is not too high is parsed from its
    text. -/
theorem parse_print {e : Expr} (he : e.isPrintable = true) (hheight : e.height ≤ 60) :
    parse e.print = .ok e := by
  obtain ⟨us, last, htokens, hus⟩ := tokenize_intercalate (arePieces_of_isPrintable he)
  obtain ⟨d, hd, hder⟩ := (derivesOwn_of_isPrintable he).expression
  have haccepts : Accepts (us.map (·.token)) e := by
    rw [hus]
    have hmax : maxDepth = 128 := rfl
    exact ⟨by omega, d, by omega, hder⟩
  rw [parse, print, htokens]
  exact ofTokens_of_accepts haccepts last

/-- A tree with a negative receiver, names that look like marks or operators, conditionals in every
    place and signs under signs. -/
theorem parse_print_sample :
    let e : Expr :=
      .cond
        (.binary .or (.cond (.ident "in") (.literal (.int (-5))) (.literal .null))
          (.binary .isIn (.ident "in")
            (.list [.literal (.bytes [1, 255]), .literal (.string "a\"\\b")])))
        (.index (.method (.literal (.int (-7))) "true" [.ident "rb"])
          (.cond (.ident "r") (.ident "b") (.ident "R")))
        (.unary .neg (.unary .neg (.select (.map [(.cond (.ident "a") (.ident "b") (.ident "c"),
          .call "f" [])]) "x")))
    e.isPrintable = true ∧ e.height ≤ 60 ∧ parse e.print = .ok e :=
  ⟨by decide, by decide, parse_print (by decide) (by decide)⟩

end VulnProbe.Expr
