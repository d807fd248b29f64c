import VulnProbe.Expr.Typing
import VulnProbe.Proofs.Expr.Grammar
import VulnProbe.Proofs.Expr.Induction
import VulnProbe.Proofs.Expr.Yields

namespace VulnProbe.Expr

mutual
/-- A tree with the minus signs over its integer literals folded into them, from the inside out. -/
def folded : Expr → Expr
  | .literal v => .literal v
  | .ident name => .ident name
  | .list items => .list (foldedAll items)
  | .map entries => .map (foldedEntries entries)
  | .select operand field => .select (folded operand) field
  | .index operand i => .index (folded operand) (folded i)
  | .call function args => .call function (foldedAll args)
  | .method receiver name args => .method (folded receiver) name (foldedAll args)
  | .unary op operand => op.over (folded operand)
  | .binary op lhs rhs => .binary op (folded lhs) (folded rhs)
  | .cond test yes no => .cond (folded test) (folded yes) (folded no)

/-- Trees with their signs folded. -/
def foldedAll : List Expr → List Expr
  | [] => []
  | e :: rest => folded e :: foldedAll rest

/-- Keys and values with their signs folded. -/
def foldedEntries : List (Expr × Expr) → List (Expr × Expr)
  | [] => []
  | (k, v) :: rest => (folded k, folded v) :: foldedEntries rest
end

/-- Every integer literal of a tree is above the least integer and not above the greatest. -/
def LiteralsFit (e : Expr) : Prop :=
  ∀ i, Within (.literal (.int i)) e → minInt < i ∧ i ≤ maxInt

section LiteralsFit

variable {e p : Expr}

/-- What holds of the literals of a tree holds of those of its parts. -/
theorem LiteralsFit.part (he : LiteralsFit e) (hp : p ∈ e.parts) : LiteralsFit p :=
  fun i hwithin => he i (.part hp hwithin)

/-- The literals of a tree that is no integer literal itself are those of its parts. -/
theorem literalsFit_of_parts (hself : ∀ i, e ≠ .literal (.int i))
    (hparts : ∀ p ∈ e.parts, LiteralsFit p) : LiteralsFit e := by
  intro i hwithin
  cases hwithin with
  | self => exact absurd rfl (hself i)
  | part hp hwithin => exact hparts _ hp i hwithin

/-- An integer literal must be above the least integer and not above the greatest. -/
theorem literalsFit_int {i : Int} : LiteralsFit (.literal (.int i)) ↔ minInt < i ∧ i ≤ maxInt := by
  constructor
  · exact fun h => h i .self
  · rintro h j (_ | ⟨hp, _⟩)
    · exact h
    · cases hp

/-- A sign is folded into an integer literal, or is kept. -/
theorem over_cases (op : UnaryOp) (e : Expr) :
    (op = .neg ∧ ∃ i, e = .literal (.int i) ∧ op.over e = .literal (.int (-i))) ∨
      op.over e = .unary op e := by
  unfold UnaryOp.over
  split
  · exact .inl ⟨rfl, _, rfl, rfl⟩
  · exact .inr rfl

/-- The range of literals is the same on both sides of zero, so that a sign neither leads out of it nor
    into it. -/
theorem literalsFit_over {op : UnaryOp} : LiteralsFit (op.over e) ↔ LiteralsFit e := by
  rcases over_cases op e with ⟨-, i, rfl, hover⟩ | hover
  · rw [hover, literalsFit_int, literalsFit_int]
    simp only [minInt, maxInt]
    omega
  · rw [hover]
    exact ⟨fun h => h.part (by simp [parts]),
      fun h => literalsFit_of_parts (by simp) (by simpa [parts] using h)⟩

private theorem foldedAll_eq_map (es : List Expr) : foldedAll es = es.map folded := by
  induction es with
  | nil => rfl
  | cons e es ih => rw [foldedAll, ih, List.map_cons]

private theorem foldedEntries_eq_map (ps : List (Expr × Expr)) :
    foldedEntries ps = ps.map fun p => (p.1.folded, p.2.folded) := by
  induction ps with
  | nil => rfl
  | cons p ps ih => rw [foldedEntries, ih, List.map_cons]

/-- Any tree but a sign keeps its parts, which are folded. -/
theorem parts_folded (he : ∀ op operand, e ≠ .unary op operand) :
    (folded e).parts = e.parts.map folded := by
  cases e with
  | unary op operand => exact absurd rfl (he op operand)
  | list | call | method => simp [folded, parts, foldedAll_eq_map]
  | map entries => simp [folded, parts, foldedEntries_eq_map, List.map_flatMap, List.flatMap_map]
  | _ => rfl

private theorem LiteralsFit.folded_part (he : LiteralsFit (folded e)) (hp : p ∈ e.parts) :
    LiteralsFit (folded p) := by
  by_cases hsign : ∃ op operand, e = .unary op operand
  · obtain ⟨op, operand, rfl⟩ := hsign
    rw [folded, literalsFit_over] at he
    rw [List.mem_singleton.mp hp]
    exact he
  · refine he.part ?_
    rw [parts_folded fun op operand h => hsign ⟨op, operand, h⟩]
    exact List.mem_map_of_mem hp

end LiteralsFit

section Meaning

variable {env : String → Option Value} {typeOf : String → Option DeclType}

/-- A folded minus computes what the minus would compute. -/
theorem value_over {op : UnaryOp} {e : Expr} (hfit : LiteralsFit e) (draws : Draws) :
    value env draws (op.over e) = value env (draws.child 0) e >>= fun v => applyUnary op v := by
  rcases over_cases op e with ⟨rfl, i, rfl, hover⟩ | hover
  · have hrange : inRange (-i) = true := by
      have hi := literalsFit_int.mp hfit
      simp only [inRange_iff, minInt, maxInt] at hi ⊢
      omega
    rw [hover, value, value]
    exact (if_pos hrange).symm
  · rw [hover, value]

private theorem values_foldedAll (es : List Expr)
    (hes : ∀ e ∈ es, ∀ draws, value env draws (folded e) = value env draws e) (draws : Draws) (i : Nat) :
    values env draws i (foldedAll es) = values env draws i es := by
  induction es generalizing i with
  | nil => rfl
  | cons e es ih =>
    obtain ⟨he, hes⟩ := List.forall_mem_cons.mp hes
    simp only [foldedAll, values, he, ih hes]

private theorem mapEntries_foldedEntries {entries : List (Expr × Expr)}
    (hentries : ∀ e ∈ (Expr.map entries).parts, ∀ draws, value env draws (folded e) = value env draws e)
    (draws : Draws) (i : Nat) (known : Dict Value) :
    mapEntries env draws i known (foldedEntries entries) = mapEntries env draws i known entries := by
  induction entries generalizing i known with
  | nil => rfl
  | cons entry entries ih =>
    obtain ⟨k, v⟩ := entry
    have hk := hentries k (by simp [parts])
    have hv := hentries v (by simp [parts])
    have hrest := ih fun e he => hentries e (List.mem_append_right [k, v] he)
    simp only [foldedEntries, mapEntries, hk, hv, hrest]

/-- Folding the signs of a tree leaves its value as it is. -/
theorem value_folded (e : Expr) :
    LiteralsFit (folded e) → ∀ draws, value env draws (folded e) = value env draws e := by
  induction e using inductParts with
  | step e ih =>
    intro hfit draws
    have ih (p : Expr) (hp : p ∈ e.parts) := ih p hp (hfit.folded_part hp)
    cases e with
    | literal | ident => rfl
    | list items => simp only [folded, value, values_foldedAll items ih]
    | map entries => simp only [folded, value, mapEntries_foldedEntries ih]
    | select operand field => simp only [folded, value, ih operand (by simp [parts])]
    | index operand i =>
      simp only [folded, value, ih operand (by simp [parts]), ih i (by simp [parts])]
    | call function args => simp only [folded, value, values_foldedAll args ih]
    | method receiver name args =>
      have hargs := values_foldedAll args fun e he => ih e (List.mem_cons_of_mem _ he)
      simp only [folded, value, ih receiver List.mem_cons_self, hargs]
    | unary op operand =>
      have hoperand := hfit.folded_part (p := operand) (by simp [parts])
      simp only [folded, value_over hoperand, value, ih operand (by simp [parts])]
    | binary op lhs rhs =>
      have hlhs := ih lhs (by simp [parts])
      have hrhs := ih rhs (by simp [parts])
      cases op <;> simp only [folded, value, hlhs, hrhs]
    | cond test yes no =>
      have htest := ih test (by simp [parts])
      have hyes := ih yes (by simp [parts])
      have hno := ih no (by simp [parts])
      simp only [folded, value, htest, hyes, hno]

private theorem check_over (op : UnaryOp) (e : Expr) :
    check typeOf (op.over e) = check typeOf (.unary op e) := by
  rcases over_cases op e with ⟨rfl, i, rfl, hover⟩ | hover
  · rw [hover]
    rfl
  · rw [hover]

private theorem checkAll_foldedAll (es : List Expr)
    (hes : ∀ e ∈ es, check typeOf (folded e) = check typeOf e) :
    checkAll typeOf (foldedAll es) = checkAll typeOf es := by
  induction es with
  | nil => rfl
  | cons e es ih =>
    obtain ⟨he, hes⟩ := List.forall_mem_cons.mp hes
    simp only [foldedAll, checkAll, he, ih hes]

private theorem checkEntries_foldedEntries {entries : List (Expr × Expr)}
    (hentries : ∀ e ∈ (Expr.map entries).parts, check typeOf (folded e) = check typeOf e) :
    checkEntries typeOf (foldedEntries entries) = checkEntries typeOf entries := by
  induction entries with
  | nil => rfl
  | cons entry entries ih =>
    obtain ⟨k, v⟩ := entry
    have hk := hentries k (by simp [parts])
    have hv := hentries v (by simp [parts])
    have hrest := ih fun e he => hentries e (List.mem_append_right [k, v] he)
    simp only [foldedEntries, checkEntries, hk, hv, hrest]

/-- Folding the signs of a tree leaves what the static pass finds as it is. -/
theorem check_folded (e : Expr) : check typeOf (folded e) = check typeOf e := by
  induction e using inductParts with
  | step e ih =>
    cases e with
    | literal | ident => rfl
    | list items => simp only [folded, check, checkAll_foldedAll items ih]
    | map entries => simp only [folded, check, checkEntries_foldedEntries ih]
    | select operand field => simp only [folded, check, ih operand (by simp [parts])]
    | index operand i =>
      simp only [folded, check, ih operand (by simp [parts]), ih i (by simp [parts])]
    | call function args => simp only [folded, check, checkAll_foldedAll args ih]
    | method receiver name args =>
      have hargs := checkAll_foldedAll args fun e he => ih e (List.mem_cons_of_mem _ he)
      simp only [folded, check, ih receiver List.mem_cons_self, hargs]
    | unary op operand => simp only [folded, check_over, check, ih operand (by simp [parts])]
    | binary op lhs rhs =>
      simp only [folded, check, ih lhs (by simp [parts]), ih rhs (by simp [parts])]
    | cond test yes no =>
      have htest := ih test (by simp [parts])
      have hyes := ih yes (by simp [parts])
      have hno := ih no (by simp [parts])
      simp only [folded, check, htest, hyes, hno]

end Meaning

end VulnProbe.Expr
