import VulnProbe.Expr.Eval
import VulnProbe.Expr.Typing
import VulnProbe.Proofs.Expr.Induction

namespace VulnProbe.Expr

section Names

private theorem mem_namesAll {name : String} {es : List Expr} :
    name ∈ namesAll es ↔ ∃ e ∈ es, name ∈ e.names := by
  induction es with
  | nil => simp [namesAll]
  | cons e es ih => simp [namesAll, ih]

private theorem mem_namesEntries {name : String} {entries : List (Expr × Expr)} :
    name ∈ namesEntries entries ↔ ∃ p ∈ (Expr.map entries).parts, name ∈ p.names := by
  induction entries with
  | nil => simp [namesEntries, parts]
  | cons entry entries ih =>
    obtain ⟨k, v⟩ := entry
    rw [namesEntries, List.mem_append, List.mem_append, ih]
    simp [parts, or_assoc]

/-- The names that occur in a part of an expression occur in the expression. -/
theorem names_subset_of_mem_parts {e p : Expr} (hp : p ∈ e.parts) : p.names ⊆ e.names := by
  intro name hname
  cases e with
  | literal v => cases hp
  | ident found => cases hp
  | list items => exact mem_namesAll.mpr ⟨p, hp, hname⟩
  | map entries => exact mem_namesEntries.mpr ⟨p, hp, hname⟩
  | call function args => exact mem_namesAll.mpr ⟨p, hp, hname⟩
  | method receiver method args =>
    rcases List.mem_cons.mp hp with rfl | hp
    · exact List.mem_append_left _ hname
    · exact List.mem_append_right _ (mem_namesAll.mpr ⟨p, hp, hname⟩)
  | select operand field | index operand i | unary op operand | binary op lhs rhs | cond test yes no =>
    simp only [parts, List.mem_cons, List.not_mem_nil, or_false] at hp
    simp only [names, List.mem_append]
    grind

end Names

section Check

variable {typeOf typeOf' : String → Option DeclType}

private theorem checkAll_congr (es : List Expr) (hes : ∀ e ∈ es, check typeOf e = check typeOf' e) :
    checkAll typeOf es = checkAll typeOf' es := by
  induction es with
  | nil => rfl
  | cons e es ih =>
    obtain ⟨he, hes⟩ := List.forall_mem_cons.mp hes
    rw [checkAll, checkAll, he, ih hes]

/-- The entries of a map are checked alike if their keys and values are. -/
theorem checkEntries_congr {entries : List (Expr × Expr)}
    (hentries : ∀ e ∈ (Expr.map entries).parts, check typeOf e = check typeOf' e) :
    checkEntries typeOf entries = checkEntries typeOf' entries := by
  induction entries with
  | nil => rfl
  | cons entry entries ih =>
    obtain ⟨k, v⟩ := entry
    rw [checkEntries, checkEntries, hentries k (by simp [parts]), hentries v (by simp [parts]),
      ih fun e he => hentries e (List.mem_append_right [k, v] he)]

/-- The type of an expression, or what is wrong with it, is settled by the types of its names. -/
theorem check_congr (e : Expr) :
    (∀ name ∈ e.names, typeOf name = typeOf' name) → check typeOf e = check typeOf' e := by
  induction e using inductParts with
  | step e ih =>
    intro hnames
    have ih (p : Expr) (hp : p ∈ e.parts) : check typeOf p = check typeOf' p :=
      ih p hp fun name hname => hnames name (names_subset_of_mem_parts hp hname)
    cases e with
    | literal v => rfl
    | ident name => rw [check, check, hnames name List.mem_cons_self]
    | list items => rw [check, check, checkAll_congr items ih]
    | map entries => rw [check, check, checkEntries_congr ih]
    | call function args => rw [check, check, checkAll_congr args ih]
    | method receiver method args =>
      rw [check, check, ih receiver List.mem_cons_self,
        checkAll_congr args fun e he => ih e (List.mem_cons_of_mem _ he)]
    | select operand field | index operand i | unary op operand | binary op lhs rhs
      | cond test yes no =>
      simp only [parts, List.forall_mem_cons] at ih
      simp only [check, ih]

end Check

section Value

variable {env env' : String → Option Value}

private theorem values_congr (es : List Expr)
    (hes : ∀ e ∈ es, ∀ draws, value env draws e = value env' draws e) (draws : Draws) :
    ∀ i, values env draws i es = values env' draws i es := by
  induction es with
  | nil => exact fun _ => rfl
  | cons e es ih =>
    obtain ⟨he, hes⟩ := List.forall_mem_cons.mp hes
    intro i
    rw [values, values, he, ih hes]

private theorem mapEntries_congr {entries : List (Expr × Expr)}
    (hentries : ∀ e ∈ (Expr.map entries).parts, ∀ draws, value env draws e = value env' draws e)
    (draws : Draws) :
    ∀ i known, mapEntries env draws i known entries = mapEntries env' draws i known entries := by
  induction entries with
  | nil => exact fun _ _ => rfl
  | cons entry entries ih =>
    obtain ⟨k, v⟩ := entry
    have ih := ih fun e he => hentries e (List.mem_append_right [k, v] he)
    intro i known
    rw [mapEntries, mapEntries, hentries k (by simp [parts]), hentries v (by simp [parts])]
    simp only [ih]

/-- The value of an expression, or what makes it fail, is settled by the values of its names and by the
    draws. -/
theorem value_congr (e : Expr) : (∀ name ∈ e.names, env name = env' name) →
    ∀ draws, value env draws e = value env' draws e := by
  induction e using inductParts with
  | step e ih =>
    intro hnames
    have ih (p : Expr) (hp : p ∈ e.parts) : ∀ draws, value env draws p = value env' draws p :=
      ih p hp fun name hname => hnames name (names_subset_of_mem_parts hp hname)
    intro draws
    cases e with
    | literal v => rfl
    | ident name => rw [value, value, hnames name List.mem_cons_self]
    | list items => rw [value, value, values_congr items ih]
    | map entries => rw [value, value, mapEntries_congr ih]
    | call function args => rw [value, value, values_congr args ih]
    | method receiver method args =>
      rw [value, value, ih receiver List.mem_cons_self,
        values_congr args fun e he => ih e (List.mem_cons_of_mem _ he)]
    | binary op lhs rhs =>
      have hl := ih lhs (by simp [parts])
      have hr := ih rhs (by simp [parts])
      -- `&&` and `||` may leave out an operand, so that the operators differ in their equations
      cases op <;> simp only [value, hl, hr]
    | select operand field | index operand i | unary op operand | cond test yes no =>
      simp only [parts, List.forall_mem_cons] at ih
      simp only [value, ih]

end Value

end VulnProbe.Expr
