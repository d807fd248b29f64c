import VulnProbe.Expr.Basic

namespace VulnProbe

/-- A sequence succeeds exactly if its first part does and so does what follows on its result. -/
theorem bind_eq_ok_iff {ε α β : Type} {x : Except ε α} {f : α → Except ε β} {b : β} :
    (x >>= f) = .ok b ↔ ∃ a, x = .ok a ∧ f a = .ok b := by
  cases x <;> simp [bind, Except.bind]

/-- A sequence fails as its first part, or as what follows on the result of that. -/
theorem bind_eq_error_iff {ε α β : Type} {x : Except ε α} {f : α → Except ε β} {issue : ε} :
    (x >>= f) = .error issue ↔ x = .error issue ∨ ∃ a, x = .ok a ∧ f a = .error issue := by
  cases x <;> simp [bind, Except.bind]

namespace Expr

/-- A property of all trees follows from its passage from the parts of a tree to the tree: the items,
    arguments, keys and values of a tree are among its parts. -/
@[elab_as_elim]
theorem induct {P : Expr → Prop}
    (literal : ∀ v, P (.literal v))
    (ident : ∀ name, P (.ident name))
    (list : ∀ items, (∀ e ∈ items, P e) → P (.list items))
    (map : ∀ entries : List (Expr × Expr), (∀ p ∈ entries, P p.1 ∧ P p.2) → P (.map entries))
    (select : ∀ operand field, P operand → P (.select operand field))
    (index : ∀ operand i, P operand → P i → P (.index operand i))
    (call : ∀ function args, (∀ e ∈ args, P e) → P (.call function args))
    (method : ∀ receiver name args, P receiver → (∀ e ∈ args, P e) → P (.method receiver name args))
    (unary : ∀ op operand, P operand → P (.unary op operand))
    (binary : ∀ op lhs rhs, P lhs → P rhs → P (.binary op lhs rhs))
    (cond : ∀ test yes no, P test → P yes → P no → P (.cond test yes no))
    (e : Expr) : P e :=
  @Expr.rec P (fun es => ∀ e ∈ es, P e) (fun ps => ∀ p ∈ ps, P p.1 ∧ P p.2) (fun p => P p.1 ∧ P p.2)
    literal ident list map select index call method unary binary cond
    (List.forall_mem_nil _)
    (fun _ _ he hes _ h => (List.mem_cons.mp h).elim (fun h => h ▸ he) (hes _))
    (List.forall_mem_nil _)
    (fun _ _ hp hps _ h => (List.mem_cons.mp h).elim (fun h => h ▸ hp) (hps _))
    (fun _ _ hk hv => ⟨hk, hv⟩)
    e

/-- The expressions that an expression is directly made of. -/
def parts : Expr → List Expr
  | .literal _ => []
  | .ident _ => []
  | .list items => items
  | .map entries => entries.flatMap fun p => [p.1, p.2]
  | .select operand _ => [operand]
  | .index operand i => [operand, i]
  | .call _ args => args
  | .method receiver _ args => receiver :: args
  | .unary _ operand => [operand]
  | .binary _ lhs rhs => [lhs, rhs]
  | .cond test yes no => [test, yes, no]

/-- An expression is another one or is nested in it. -/
inductive Within (sub : Expr) : Expr → Prop where
  | self : Within sub sub
  | part {e p : Expr} (hpart : p ∈ e.parts) (hwithin : Within sub p) : Within sub e

/-- The parts of a map are its keys and its values. -/
theorem mem_parts_map {entries : List (Expr × Expr)} {p : Expr} :
    p ∈ (Expr.map entries).parts ↔ ∃ entry ∈ entries, p = entry.1 ∨ p = entry.2 := by
  simp [parts]

/-- A property of all trees follows from its passage from the parts of a tree to the tree. -/
theorem inductParts {P : Expr → Prop} (step : ∀ e : Expr, (∀ p ∈ e.parts, P p) → P e) (e : Expr) :
    P e := by
  induction e using induct with
  | literal v => exact step _ (List.forall_mem_nil _)
  | ident name => exact step _ (List.forall_mem_nil _)
  | list items ih => exact step _ ih
  | map entries ih =>
    refine step _ fun p hp => ?_
    obtain ⟨entry, hentry, rfl | rfl⟩ := mem_parts_map.mp hp
    · exact (ih entry hentry).1
    · exact (ih entry hentry).2
  | select operand field ih => exact step _ (by simp [parts, ih])
  | index operand i iho ihi => exact step _ (by simp [parts, iho, ihi])
  | call function args ih => exact step _ ih
  | method receiver name args ihr iha => exact step _ (by simpa [parts, ihr] using iha)
  | unary op operand ih => exact step _ (by simp [parts, ih])
  | binary op lhs rhs ihl ihr => exact step _ (by simp [parts, ihl, ihr])
  | cond test yes no iht ihy ihn => exact step _ (by simp [parts, iht, ihy, ihn])

end Expr

end VulnProbe
