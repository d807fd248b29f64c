import VulnProbe.Expr.Typing
import VulnProbe.Proofs.Expr.Induction

namespace VulnProbe

/-- Two computations both succeed, or fail in the same way. -/
def FailAlike {ε α β : Type} (x : Except ε α) (y : Except ε β) : Prop :=
  ∀ issue, x = .error issue ↔ y = .error issue

section FailAlike

variable {ε α β α' β' : Type}

private theorem failAlike_ok (a : α) (b : β) : FailAlike (.ok a : Except ε α) (.ok b : Except ε β) :=
  fun issue => by simp

/-- A computation fails like itself. -/
theorem FailAlike.refl (x : Except ε α) : FailAlike x x :=
  fun _ => Iff.rfl

/-- Of two computations that fail alike both succeed or neither. -/
theorem FailAlike.exists_ok_iff {x : Except ε α} {y : Except ε β} (hxy : FailAlike x y) :
    (∃ a, x = .ok a) ↔ ∃ b, y = .ok b := by
  cases x with
  | error issue => simp [(hxy issue).mp rfl]
  | ok a =>
    cases y with
    | error issue => cases (hxy issue).mpr rfl
    | ok b => simp

/-- Sequences fail alike if their first parts do and, wherever both of these succeed, what follows them
    does. -/
theorem FailAlike.bind {x : Except ε α} {y : Except ε β} {f : α → Except ε α'} {g : β → Except ε β'}
    (hxy : FailAlike x y) (hfg : ∀ a b, x = .ok a → y = .ok b → FailAlike (f a) (g b)) :
    FailAlike (x >>= f) (y >>= g) := by
  cases x with
  | error issue =>
    rw [(hxy issue).mp rfl]
    exact fun _ => by simp [Bind.bind, Except.bind]
  | ok a =>
    obtain ⟨b, rfl⟩ := hxy.exists_ok_iff.mp ⟨a, rfl⟩
    exact hfg a b rfl rfl

end FailAlike

namespace Expr

section Failure

variable {typeOf : String → Option DeclType} {err : ExprError}

private theorem checkAll_eq_error {es : List Expr} (hcheck : checkAll typeOf es = .error err) :
    ∃ e ∈ es, check typeOf e = .error err := by
  induction es with
  | nil => cases hcheck
  | cons e es ih =>
    rw [checkAll] at hcheck
    rcases bind_eq_error_iff.mp hcheck with he | ⟨_, -, hrest⟩
    · exact ⟨e, List.mem_cons_self, he⟩
    · obtain ⟨e', he', hfault⟩ := ih hrest
      exact ⟨e', List.mem_cons_of_mem _ he', hfault⟩

private theorem checkEntries_eq_error {entries : List (Expr × Expr)}
    (hcheck : checkEntries typeOf entries = .error err) :
    ∃ e ∈ (Expr.map entries).parts, check typeOf e = .error err := by
  induction entries with
  | nil => cases hcheck
  | cons entry entries ih =>
    obtain ⟨k, v⟩ := entry
    simp only [checkEntries, bind_eq_error_iff] at hcheck
    rcases hcheck with hk | ⟨_, -, hv | ⟨_, -, hrest⟩⟩
    · exact ⟨k, by simp [parts], hk⟩
    · exact ⟨v, by simp [parts], hv⟩
    · obtain ⟨e, he, hfault⟩ := ih hrest
      exact ⟨e, List.mem_append_right [k, v] he, hfault⟩

/-- What a check refuses in a tree itself: a name without a type, a field that the type of its operand
    does not have, or a function or method that does not exist. -/
inductive Faults (typeOf : String → Option DeclType) : Expr → CheckIssue → Prop where
  | name {name : String} (htype : typeOf name = none) :
      Faults typeOf (.ident name) (.undeclaredName name)
  | field {operand : Expr} {field : String} {t : DeclType} {issue : FieldIssue}
      (hoperand : check typeOf operand = .ok t) (hfield : t.fieldType field = .error issue) :
      Faults typeOf (.select operand field) (.field issue)
  | function {function : String} {args : List Expr} (hfunction : Builtin.ofName? function = none) :
      Faults typeOf (.call function args) (.undeclaredFunction function)
  | method {receiver : Expr} {name : String} {args : List Expr} (hmethod : Method.ofName? name = none) :
      Faults typeOf (.method receiver name args) (.undeclaredMethod name)

/-- A check fails at a part, or for something it refuses in the tree itself. -/
theorem check_eq_error_cases {e : Expr} (hcheck : check typeOf e = .error err) :
    (∃ p ∈ e.parts, check typeOf p = .error err) ∨
      ∃ issue, err = .checkError issue ∧ Faults typeOf e issue := by
  cases e with
  | literal v => cases hcheck
  | ident name =>
    rw [check] at hcheck
    split at hcheck <;> cases hcheck
    exact .inr ⟨_, rfl, .name ‹_›⟩
  | list items =>
    simp only [check, bind_eq_error_iff] at hcheck
    rcases hcheck with hitems | ⟨_, -, hpure⟩
    · exact .inl (checkAll_eq_error hitems)
    · cases hpure
  | map entries =>
    simp only [check, bind_eq_error_iff] at hcheck
    rcases hcheck with hentries | ⟨_, -, hpure⟩
    · exact .inl (checkEntries_eq_error hentries)
    · cases hpure
  | select operand field =>
    simp only [check, bind_eq_error_iff] at hcheck
    rcases hcheck with hoperand | ⟨t, ht, hfield⟩
    · exact .inl ⟨operand, by simp [parts], hoperand⟩
    · split at hfield <;> cases hfield
      exact .inr ⟨_, rfl, .field ht ‹_›⟩
  | index operand i =>
    simp only [check, bind_eq_error_iff] at hcheck
    rcases hcheck with hoperand | ⟨_, -, hi | ⟨_, -, hpure⟩⟩
    · exact .inl ⟨operand, by simp [parts], hoperand⟩
    · exact .inl ⟨i, by simp [parts], hi⟩
    · cases hpure
  | call function args =>
    simp only [check, bind_eq_error_iff] at hcheck
    rcases hcheck with hargs | ⟨_, -, hname⟩
    · exact .inl (checkAll_eq_error hargs)
    · split at hname <;> cases hname
      exact .inr ⟨_, rfl, .function ‹_›⟩
  | method receiver name args =>
    simp only [check, bind_eq_error_iff] at hcheck
    rcases hcheck with hreceiver | ⟨_, -, hargs | ⟨_, -, hname⟩⟩
    · exact .inl ⟨receiver, List.mem_cons_self, hreceiver⟩
    · obtain ⟨p, hp, hfault⟩ := checkAll_eq_error hargs
      exact .inl ⟨p, List.mem_cons_of_mem _ hp, hfault⟩
    · split at hname <;> cases hname
      exact .inr ⟨_, rfl, .method ‹_›⟩
  | unary op operand =>
    simp only [check, bind_eq_error_iff] at hcheck
    rcases hcheck with hoperand | ⟨_, -, hpure⟩
    · exact .inl ⟨operand, by simp [parts], hoperand⟩
    · cases hpure
  | binary op lhs rhs =>
    simp only [check, bind_eq_error_iff] at hcheck
    rcases hcheck with hlhs | ⟨_, -, hrhs | ⟨_, -, hpure⟩⟩
    · exact .inl ⟨lhs, by simp [parts], hlhs⟩
    · exact .inl ⟨rhs, by simp [parts], hrhs⟩
    · cases hpure
  | cond test yes no =>
    simp only [check, bind_eq_error_iff] at hcheck
    rcases hcheck with htest | ⟨_, -, hyes | ⟨_, -, hno | ⟨_, -, hpure⟩⟩⟩
    · exact .inl ⟨test, by simp [parts], htest⟩
    · exact .inl ⟨yes, by simp [parts], hyes⟩
    · exact .inl ⟨no, by simp [parts], hno⟩
    · cases hpure

/-- A failing check refuses something in the tree, at some depth. -/
theorem exists_faults_of_check (e : Expr) (hcheck : check typeOf e = .error err) :
    ∃ sub issue, Within sub e ∧ err = .checkError issue ∧ Faults typeOf sub issue := by
  induction e using inductParts with
  | step e ih =>
    rcases check_eq_error_cases hcheck with ⟨p, hp, hpart⟩ | ⟨issue, herr, hfaults⟩
    · obtain ⟨sub, issue, hwithin, hfault⟩ := ih p hp hpart
      exact ⟨sub, issue, .part hp hwithin, hfault⟩
    · exact ⟨e, issue, .self, herr, hfaults⟩

/-- A name is refused only where it occurs and has no type. -/
theorem within_of_undeclaredName {e : Expr} {name : String}
    (hcheck : check typeOf e = .error (.checkError (.undeclaredName name))) :
    Within (.ident name) e ∧ typeOf name = none := by
  obtain ⟨sub, issue, hwithin, herr, hfaults⟩ := exists_faults_of_check e hcheck
  cases herr
  cases hfaults with
  | name htype => exact ⟨hwithin, htype⟩

end Failure

/-- The names that the type of an expression is that of, or is made of. A selection has its type from
    the field alone, once it passes. -/
def typeNames : Expr → List String
  | .ident name => [name]
  | .method receiver name _ => if name = Method.concat.name then typeNames receiver else []
  | .binary op lhs rhs => if op.isArithmetic then typeNames lhs ++ typeNames rhs else []
  | .cond _ yes no => typeNames yes ++ typeNames no
  | _ => []

/-- Somewhere in an expression a field is selected from an operand whose type is made of that of a
    name. -/
def SelectsFrom (e : Expr) (name : String) : Prop :=
  ∃ operand field, Within (.select operand field) e ∧ name ∈ operand.typeNames

private theorem selectsFrom_select {operand : Expr} {name : String} (field : String)
    (hname : name ∈ operand.typeNames) : (Expr.select operand field).SelectsFrom name :=
  ⟨operand, field, .self, hname⟩

private theorem SelectsFrom.of_part {e p : Expr} {name : String} (hselects : p.SelectsFrom name)
    (hp : p ∈ e.parts) : e.SelectsFrom name := by
  obtain ⟨operand, field, hwithin, hname⟩ := hselects
  exact ⟨operand, field, .part hp hwithin, hname⟩

section Agreement

variable {typeOf typeOf' : String → Option DeclType}

private theorem Method.resultType_eq {m : Method} (hm : m ≠ .concat) (t t' : DeclType) :
    m.resultType t = m.resultType t' := by
  cases m with
  | concat => exact absurd rfl hm
  | _ => rfl

private theorem Method.name_eq_of_ofName? {m : Method} {name : String} (hm : Method.ofName? name = some m) :
    name = m.name := by
  have hname := List.find?_some hm
  exact (eq_of_beq hname).symm

/-- Where types of names agree on what an expression selects from and on what its type is made of, they
    give it one type. -/
theorem check_type_unique (e : Expr) :
    (∀ name, e.SelectsFrom name → typeOf name = typeOf' name) →
      (∀ name ∈ e.typeNames, typeOf name = typeOf' name) →
      ∀ {t t' : DeclType}, check typeOf e = .ok t → check typeOf' e = .ok t' → t = t' := by
  induction e using inductParts with
  | step e ih =>
    intro hselects hnames t t' ht ht'
    have ih (p : Expr) (hp : p ∈ e.parts) := ih p hp fun name h => hselects name (h.of_part hp)
    cases e with
    | literal v => exact Except.ok.inj (ht.symm.trans ht')
    | ident name =>
      simp only [check, hnames name (by simp [typeNames])] at ht ht'
      exact Except.ok.inj (ht.symm.trans ht')
    | list items | map entries | index operand i | call function args | unary op operand =>
      simp only [check, bind_eq_ok_iff] at ht ht'
      grind
    | select operand field =>
      simp only [check, bind_eq_ok_iff] at ht ht'
      obtain ⟨s, hs, ht⟩ := ht
      obtain ⟨s', hs', ht'⟩ := ht'
      have hsame := ih operand (by simp [parts]) (fun name h => hselects name (selectsFrom_select field h))
        hs hs'
      rw [← hsame] at ht'
      split at ht <;> cases ht
      rename_i hfield
      rw [hfield] at ht'
      exact Except.ok.inj ht'
    | method receiver name args =>
      simp only [check, bind_eq_ok_iff] at ht ht'
      obtain ⟨s, hs, _, -, ht⟩ := ht
      obtain ⟨s', hs', _, -, ht'⟩ := ht'
      split at ht <;> cases ht
      rename_i m hm
      rw [hm] at ht'
      cases ht'
      by_cases hconcat : m = .concat
      · have hname : name = Method.concat.name := by rw [Method.name_eq_of_ofName? hm, hconcat]
        rw [typeNames, if_pos hname] at hnames
        exact congrArg m.resultType (ih receiver List.mem_cons_self hnames hs hs')
      · exact Method.resultType_eq hconcat s s'
    | binary op lhs rhs =>
      simp only [check, bind_eq_ok_iff] at ht ht'
      obtain ⟨l, hl, r, hr, ht⟩ := ht
      obtain ⟨l', hl', r', hr', ht'⟩ := ht'
      cases ht
      cases ht'
      by_cases hop : op.isArithmetic = true
      · rw [if_pos hop, if_pos hop]
        simp only [typeNames, if_pos hop, List.mem_append] at hnames
        have hleft := ih lhs (by simp [parts]) (fun n h => hnames n (.inl h)) hl hl'
        have hright := ih rhs (by simp [parts]) (fun n h => hnames n (.inr h)) hr hr'
        rw [hleft, hright]
      · rw [if_neg hop, if_neg hop]
    | cond test yes no =>
      simp only [check, bind_eq_ok_iff] at ht ht'
      obtain ⟨_, -, y, hy, n, hn, ht⟩ := ht
      obtain ⟨_, -, y', hy', n', hn', ht'⟩ := ht'
      cases ht
      cases ht'
      simp only [typeNames, List.mem_append] at hnames
      have hyes := ih yes (by simp [parts]) (fun n h => hnames n (.inl h)) hy hy'
      have hno := ih no (by simp [parts]) (fun n h => hnames n (.inr h)) hn hn'
      rw [hyes, hno]

private theorem failAlike_checkAll {es : List Expr}
    (hes : ∀ e ∈ es, FailAlike (check typeOf e) (check typeOf' e)) :
    FailAlike (checkAll typeOf es) (checkAll typeOf' es) := by
  induction es with
  | nil => exact .refl _
  | cons e es ih =>
    obtain ⟨he, hes⟩ := List.forall_mem_cons.mp hes
    rw [checkAll, checkAll]
    exact he.bind fun _ _ _ _ => ih hes

private theorem failAlike_checkEntries {entries : List (Expr × Expr)}
    (hentries : ∀ e ∈ (Expr.map entries).parts, FailAlike (check typeOf e) (check typeOf' e)) :
    FailAlike (checkEntries typeOf entries) (checkEntries typeOf' entries) := by
  induction entries with
  | nil => exact .refl _
  | cons entry entries ih =>
    obtain ⟨k, v⟩ := entry
    have hk := hentries k (by simp [parts])
    have hv := hentries v (by simp [parts])
    have hrest := ih fun e he => hentries e (List.mem_append_right [k, v] he)
    rw [checkEntries, checkEntries]
    exact hk.bind fun _ _ _ _ => hv.bind fun _ _ _ _ => hrest

/-- Checks of one expression fail alike under types that know the same names and agree on those that it
    selects from: a check never fails for the type of a name but where a field is selected. -/
theorem failAlike_check (hknown : ∀ name, (typeOf name).isSome = (typeOf' name).isSome) (e : Expr) :
    (∀ name, e.SelectsFrom name → typeOf name = typeOf' name) →
      FailAlike (check typeOf e) (check typeOf' e) := by
  induction e using inductParts with
  | step e ih =>
    intro hselects
    have ih (p : Expr) (hp : p ∈ e.parts) := ih p hp fun name h => hselects name (h.of_part hp)
    cases e with
    | literal v => exact .refl _
    | ident name =>
      have hname := hknown name
      rw [check, check]
      cases h : typeOf name <;> cases h' : typeOf' name <;> simp only [h, h'] at hname ⊢
      · exact .refl _
      · cases hname
      · cases hname
      · exact failAlike_ok _ _
    | list items =>
      rw [check, check]
      exact (failAlike_checkAll ih).bind fun _ _ _ _ => .refl _
    | map entries =>
      rw [check, check]
      exact (failAlike_checkEntries ih).bind fun _ _ _ _ => .refl _
    | select operand field =>
      rw [check, check]
      refine (ih operand (by simp [parts])).bind fun t t' ht ht' => ?_
      -- what is selected passes or not by the type of the operand, which is the same
      have hsame : t = t' :=
        check_type_unique operand
          (fun name h => hselects name (h.of_part (by simp [parts])))
          (fun name h => hselects name (selectsFrom_select field h)) ht ht'
      rw [hsame]
      exact .refl _
    | index operand i =>
      rw [check, check]
      exact (ih operand (by simp [parts])).bind fun _ _ _ _ =>
        (ih i (by simp [parts])).bind fun _ _ _ _ => .refl _
    | call function args =>
      rw [check, check]
      exact (failAlike_checkAll ih).bind fun _ _ _ _ => .refl _
    | method receiver name args =>
      rw [check, check]
      refine (ih receiver List.mem_cons_self).bind fun _ _ _ _ => ?_
      refine (failAlike_checkAll fun e he => ih e (List.mem_cons_of_mem _ he)).bind fun _ _ _ _ => ?_
      cases Method.ofName? name with
      | none => exact .refl _
      | some m => exact failAlike_ok _ _
    | unary op operand =>
      simp only [check]
      exact (ih operand (by simp [parts])).bind fun _ _ _ _ => .refl _
    | binary op lhs rhs =>
      rw [check, check]
      exact (ih lhs (by simp [parts])).bind fun _ _ _ _ =>
        (ih rhs (by simp [parts])).bind fun _ _ _ _ => failAlike_ok _ _
    | cond test yes no =>
      rw [check, check]
      exact (ih test (by simp [parts])).bind fun _ _ _ _ =>
        (ih yes (by simp [parts])).bind fun _ _ _ _ =>
          (ih no (by simp [parts])).bind fun _ _ _ _ => failAlike_ok _ _

end Agreement

end Expr

end VulnProbe
