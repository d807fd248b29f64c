import VulnProbe.Proofs.Expr.TypeSoundness.Tables

namespace VulnProbe.Expr

/-- Bindings respect the types of names: a name with a known type is bound to a value of this type, if
    it is bound. -/
def Respects (typeOf : String → Option DeclType) (env : String → Option Value) : Prop :=
  ∀ name t v, typeOf name = some t → t ≠ .dyn → env name = some v → DeclType.ofValue v = some t

private theorem commonType_eq {a b t : DeclType} (hcommon : commonType a b = t) (ht : t ≠ .dyn) :
    a = t ∧ b = t := by
  unfold commonType at hcommon
  split at hcommon
  · rename_i hab
    exact ⟨hcommon, hab ▸ hcommon⟩
  · exact absurd hcommon.symm ht

/-- The value of an operator over two trees is a truth value, but for arithmetic, where it has the type
    of the value of the left tree. -/
theorem ofValue_value_binary {env : String → Option Value} {draws : Draws} {op : BinaryOp}
    {lhs rhs : Expr} {v : Value} (hvalue : value env draws (.binary op lhs rhs) = .ok v) :
    op.isArithmetic = false ∧ DeclType.ofValue v = some .bool ∨
      op.isArithmetic = true ∧
        ∃ l, value env (draws.child 0) lhs = .ok l ∧ DeclType.ofValue v = DeclType.ofValue l := by
  cases op with
  | and =>
    simp only [value, bind_eq_ok_iff] at hvalue
    obtain ⟨_, _, b, _, hvalue⟩ := hvalue
    refine .inl ⟨rfl, ?_⟩
    cases b with
    | true =>
      simp only [if_true, bind_eq_ok_iff] at hvalue
      obtain ⟨_, _, _, _, hvalue⟩ := hvalue
      cases hvalue
      rfl
    | false =>
      cases hvalue
      rfl
  | or =>
    simp only [value, bind_eq_ok_iff] at hvalue
    obtain ⟨_, _, b, _, hvalue⟩ := hvalue
    refine .inl ⟨rfl, ?_⟩
    cases b with
    | true =>
      cases hvalue
      rfl
    | false =>
      simp only [Bool.false_eq_true, if_false, bind_eq_ok_iff] at hvalue
      obtain ⟨_, _, _, _, hvalue⟩ := hvalue
      cases hvalue
      rfl
  | add | sub | mul | div | rem =>
    simp only [value, bind_eq_ok_iff] at hvalue
    obtain ⟨l, hl, r, _, happly⟩ := hvalue
    exact .inr ⟨rfl, l, hl, ofValue_applyBinary happly⟩
  | lt | le | gt | ge | eq | ne | isIn =>
    simp only [value, bind_eq_ok_iff] at hvalue
    obtain ⟨_, _, _, _, happly⟩ := hvalue
    exact .inl ⟨rfl, ofValue_applyBinary happly⟩

/-- The value of an expression has the type that the check found for it, if it found one. The draws are
    any, as each part has its own. -/
theorem ofValue_value {typeOf : String → Option DeclType} {env : String → Option Value}
    (henv : Respects typeOf env) (e : Expr) : ∀ (draws : Draws) (t : DeclType) (v : Value),
    check typeOf e = .ok t → t ≠ .dyn → value env draws e = .ok v → DeclType.ofValue v = some t := by
  induction e using induct with
  | literal v =>
    intro draws t w hcheck ht hvalue
    simp only [value] at hvalue
    cases hvalue
    simp only [check] at hcheck
    cases htype : DeclType.ofValue v <;> simp_all
  | ident name =>
    intro draws t v hcheck ht hvalue
    simp only [check] at hcheck
    simp only [value] at hvalue
    split at hcheck <;> cases hcheck
    split at hvalue <;> cases hvalue
    rename_i htype _ hbound
    exact henv name _ _ htype ht hbound
  | list items _ =>
    intro draws t v hcheck ht hvalue
    simp only [check, value, bind_eq_ok_iff] at hcheck hvalue
    obtain ⟨_, _, hcheck⟩ := hcheck
    obtain ⟨_, _, hvalue⟩ := hvalue
    cases hcheck
    cases hvalue
    rfl
  | map entries _ =>
    intro draws t v hcheck ht hvalue
    simp only [check, value, bind_eq_ok_iff] at hcheck hvalue
    obtain ⟨_, _, hcheck⟩ := hcheck
    obtain ⟨_, _, hvalue⟩ := hvalue
    cases hcheck
    cases hvalue
    rfl
  | select operand field ih =>
    intro draws t v hcheck ht hvalue
    simp only [check, value, bind_eq_ok_iff] at hcheck hvalue
    obtain ⟨s, hs, hcheck⟩ := hcheck
    obtain ⟨w, hw, hselect⟩ := hvalue
    split at hcheck <;> cases hcheck
    rename_i hfield
    exact ofValue_selectField (fun hdyn => ih _ _ _ hs hdyn hw) hfield ht hselect
  | index operand i _ _ =>
    intro draws t v hcheck ht hvalue
    simp only [check, bind_eq_ok_iff] at hcheck
    obtain ⟨_, _, _, _, hcheck⟩ := hcheck
    cases hcheck
    exact absurd rfl ht
  | call function args _ =>
    intro draws t v hcheck ht hvalue
    simp only [check, value, bind_eq_ok_iff] at hcheck hvalue
    obtain ⟨_, _, hcheck⟩ := hcheck
    obtain ⟨vs, _, hcall⟩ := hvalue
    unfold callFunction at hcall
    split at hcheck <;> cases hcheck
    rename_i hname
    rw [hname] at hcall
    exact Builtin.ofValue_apply hcall
  | method receiver name args ih _ =>
    intro draws t v hcheck ht hvalue
    simp only [check, value, bind_eq_ok_iff] at hcheck hvalue
    obtain ⟨s, hs, _, _, hcheck⟩ := hcheck
    obtain ⟨w, hw, vs, _, hcall⟩ := hvalue
    unfold callMethod at hcall
    split at hcheck <;> cases hcheck
    rename_i hname
    rw [hname] at hcall
    exact Method.ofValue_apply (fun hdyn => ih _ _ _ hs hdyn hw) ht hcall
  | unary op operand _ =>
    intro draws t v hcheck ht hvalue
    simp only [check, value, bind_eq_ok_iff] at hcheck hvalue
    obtain ⟨_, _, hcheck⟩ := hcheck
    obtain ⟨w, _, happly⟩ := hvalue
    cases hcheck
    unfold applyUnary at happly
    split at happly
    · cases happly
      rfl
    · exact ofValue_bounded happly
    · cases happly
  | binary op lhs rhs ihl _ =>
    intro draws t v hcheck ht hvalue
    simp only [check, bind_eq_ok_iff] at hcheck
    obtain ⟨l, hl, r, hr, hcheck⟩ := hcheck
    have hcheck := Except.ok.inj hcheck
    rcases ofValue_value_binary hvalue with ⟨hop, htype⟩ | ⟨hop, w, hw, htype⟩
    · rw [hop, if_neg Bool.false_ne_true] at hcheck
      rw [htype, hcheck]
    · rw [hop, if_pos rfl] at hcheck
      obtain ⟨rfl, _⟩ := commonType_eq hcheck ht
      rw [htype, ihl _ _ _ hl ht hw]
  | cond test yes no _ ihy ihn =>
    intro draws t v hcheck ht hvalue
    simp only [check, value, bind_eq_ok_iff] at hcheck hvalue
    obtain ⟨_, _, y, hy, n, hn, hcheck⟩ := hcheck
    obtain ⟨_, _, b, _, hvalue⟩ := hvalue
    obtain ⟨rfl, rfl⟩ := commonType_eq (Except.ok.inj hcheck) ht
    cases b with
    | true => exact ihy _ _ _ hy ht hvalue
    | false => exact ihn _ _ _ hn ht hvalue

/-- A value of an expression that passes the static check has the type that the check found, unless
    that promises nothing. -/
theorem ofValue_evaluate_of_check (e : Expr) (typeOf : String → Option DeclType)
    (env : String → Option Value) (draws : Draws) {t : DeclType} {v : Value}
    (henv : Respects typeOf env) (hcheck : e.check typeOf = .ok t) (ht : t ≠ .dyn)
    (hvalue : e.evaluate env draws = .ok v) : DeclType.ofValue v = some t := by
  unfold evaluate at hvalue
  split at hvalue <;> cases hvalue
  rename_i hvalue
  exact ofValue_value henv e draws t v hcheck ht hvalue

/-- The check of `ok ? s.concat(n + 1) : "none"` finds a text, and its value is one. -/
theorem ofValue_evaluate_of_check_concat :
    let typeOf : String → Option DeclType := fun name =>
      if name = "s" then some .string else if name = "n" then some .int else some .dyn
    let env : String → Option Value := fun name =>
      if name = "s" then some (.string "id-") else if name = "n" then some (.int 6)
      else some (.bool true)
    let e : Expr := .cond (.ident "ok")
      (.method (.ident "s") "concat" [.binary .add (.ident "n") (.literal (.int 1))])
      (.literal (.string "none"))
    Respects typeOf env ∧ e.check typeOf = .ok .string ∧
      e.evaluate env (Draws.ofSeed 0) = .ok (.string "id-7") ∧
      DeclType.ofValue (.string "id-7") = some .string := by
  intro typeOf env e
  have henv : Respects typeOf env := by
    intro name t v htype ht hbound
    simp only [typeOf] at htype
    simp only [env] at hbound
    split at htype
    · cases htype
      rw [if_pos (by assumption)] at hbound
      cases hbound
      rfl
    · split at htype <;> cases htype
      · rw [if_neg (by assumption), if_pos (by assumption)] at hbound
        cases hbound
        rfl
      · exact absurd rfl ht
  have hcheck : e.check typeOf = .ok .string := rfl
  have hvalue : e.evaluate env (Draws.ofSeed 0) = .ok (.string "id-7") := rfl
  exact ⟨henv, hcheck, hvalue, ofValue_evaluate_of_check e typeOf env _ henv hcheck (by decide) hvalue⟩

end VulnProbe.Expr
