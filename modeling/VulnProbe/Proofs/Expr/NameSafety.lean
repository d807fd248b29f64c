import VulnProbe.Proofs.Expr.NameSafety.Operations
import VulnProbe.Proofs.Expr.TypeSoundness
import VulnProbe.Proofs.Expr.Yields

namespace VulnProbe

/-- The types whose fields the check knows. -/
def DeclType.isStructured : DeclType → Bool
  | .response | .request | .reverse | .url => true
  | _ => false

namespace Expr

variable {typeOf : String → Option DeclType} {env : String → Option Value} {e : Expr} {t : DeclType}

section Check

private theorem exists_check_of_checkAll {es : List Expr} (hcheck : checkAll typeOf es = .ok ()) :
    ∀ e ∈ es, ∃ t, check typeOf e = .ok t := by
  induction es with
  | nil => exact List.forall_mem_nil _
  | cons head es ih =>
    simp only [checkAll, bind_eq_ok_iff] at hcheck
    obtain ⟨t, hhead, hrest⟩ := hcheck
    intro e he
    rcases List.mem_cons.mp he with rfl | he
    · exact ⟨t, hhead⟩
    · exact ih hrest e he

private theorem exists_check_of_checkEntries {entries : List (Expr × Expr)}
    (hcheck : checkEntries typeOf entries = .ok ()) :
    ∀ entry ∈ entries, (∃ t, check typeOf entry.1 = .ok t) ∧ ∃ t, check typeOf entry.2 = .ok t := by
  induction entries with
  | nil => exact List.forall_mem_nil _
  | cons head entries ih =>
    obtain ⟨k, v⟩ := head
    simp only [checkEntries, bind_eq_ok_iff] at hcheck
    obtain ⟨t, hk, s, hv, hrest⟩ := hcheck
    intro entry hentry
    rcases List.mem_cons.mp hentry with rfl | hentry
    · exact ⟨⟨t, hk⟩, ⟨s, hv⟩⟩
    · exact ih hrest entry hentry

/-- The check of a tree checks its parts. -/
theorem exists_check_of_mem_parts {e p : Expr} {t : DeclType} (hcheck : check typeOf e = .ok t)
    (hp : p ∈ e.parts) : ∃ s, check typeOf p = .ok s := by
  cases e with
  | literal v => cases hp
  | ident name => cases hp
  | list items =>
    simp only [check, bind_eq_ok_iff] at hcheck
    obtain ⟨_, hitems, -⟩ := hcheck
    exact exists_check_of_checkAll hitems p hp
  | map entries =>
    simp only [check, bind_eq_ok_iff] at hcheck
    obtain ⟨_, hentries, -⟩ := hcheck
    obtain ⟨entry, hentry, rfl | rfl⟩ := mem_parts_map.mp hp
    · exact (exists_check_of_checkEntries hentries entry hentry).1
    · exact (exists_check_of_checkEntries hentries entry hentry).2
  | select operand field =>
    simp only [check, bind_eq_ok_iff] at hcheck
    obtain ⟨s, hs, -⟩ := hcheck
    rw [List.mem_singleton.mp hp]
    exact ⟨s, hs⟩
  | index operand i =>
    simp only [check, bind_eq_ok_iff] at hcheck
    obtain ⟨s, hs, r, hr, -⟩ := hcheck
    simp only [parts, List.mem_cons, List.not_mem_nil, or_false] at hp
    rcases hp with rfl | rfl
    · exact ⟨s, hs⟩
    · exact ⟨r, hr⟩
  | call function args =>
    simp only [check, bind_eq_ok_iff] at hcheck
    obtain ⟨_, hargs, -⟩ := hcheck
    exact exists_check_of_checkAll hargs p hp
  | method receiver name args =>
    simp only [check, bind_eq_ok_iff] at hcheck
    obtain ⟨s, hs, _, hargs, -⟩ := hcheck
    rcases List.mem_cons.mp hp with rfl | hp
    · exact ⟨s, hs⟩
    · exact exists_check_of_checkAll hargs p hp
  | unary op operand =>
    simp only [check, bind_eq_ok_iff] at hcheck
    obtain ⟨s, hs, -⟩ := hcheck
    rw [List.mem_singleton.mp hp]
    exact ⟨s, hs⟩
  | binary op lhs rhs =>
    simp only [check, bind_eq_ok_iff] at hcheck
    obtain ⟨s, hs, r, hr, -⟩ := hcheck
    simp only [parts, List.mem_cons, List.not_mem_nil, or_false] at hp
    rcases hp with rfl | rfl
    · exact ⟨s, hs⟩
    · exact ⟨r, hr⟩
  | cond test yes no =>
    simp only [check, bind_eq_ok_iff] at hcheck
    obtain ⟨s, hs, y, hy, n, hn, -⟩ := hcheck
    simp only [parts, List.mem_cons, List.not_mem_nil, or_false] at hp
    rcases hp with rfl | rfl | rfl
    · exact ⟨s, hs⟩
    · exact ⟨y, hy⟩
    · exact ⟨n, hn⟩

/-- What is nested in a tree that passes the check passes it as well. -/
theorem Within.exists_check {sub e : Expr} (hwithin : Within sub e) {t : DeclType}
    (hcheck : check typeOf e = .ok t) : ∃ s, check typeOf sub = .ok s := by
  induction hwithin generalizing t with
  | self => exact ⟨t, hcheck⟩
  | part hpart _ ih =>
    obtain ⟨s, hs⟩ := exists_check_of_mem_parts hcheck hpart
    exact ih hs

end Check

section Fields

variable {s found : DeclType} {field : String} {v : Value}

private theorem fieldType_eq_ok (htype : s.fieldType field = .ok found) :
    s = .dyn ∨ s = .map ∨ s.isStructured = true ∧ DeclType.structField? s field = some found := by
  cases s with
  | dyn => exact .inl rfl
  | map => exact .inr (.inl rfl)
  | response | request | reverse | url =>
    simp only [DeclType.fieldType] at htype
    split at htype
    · cases htype
      exact .inr (.inr ⟨rfl, by assumption⟩)
    · cases htype
  | bool | int | string | bytes | list => cases htype

private theorem exists_structField? (hv : DeclType.ofValue v = some s)
    (htype : DeclType.structField? s field = some found) : ∃ w, structField? v field = some w := by
  unfold DeclType.structField? at htype
  split at htype <;> cases htype
  all_goals
    cases v <;> cases hv
    exact ⟨_, rfl⟩

/-- A field that the check finds in a structured type is there in every value of the type. -/
theorem exists_selectField (hs : s.isStructured = true) (htype : s.fieldType field = .ok found)
    (hv : DeclType.ofValue v = some s) : ∃ w, selectField v field = .ok w := by
  rcases fieldType_eq_ok htype with rfl | rfl | ⟨-, hfield⟩
  · cases hs
  · cases hs
  · obtain ⟨w, hw⟩ := exists_structField? hv hfield
    refine ⟨w, ?_⟩
    unfold selectField
    split
    · cases hv
      cases hs
    · simp only [hw]

/-- A selection fails for a key that a map does not have, or for a field of another value. -/
theorem selectField_eq_error {issue : RuntimeIssue} (hselect : selectField v field = .error issue) :
    issue.concernsName = false ∨
      (∃ type, issue = .noField field type) ∧ DeclType.ofValue v ≠ some .map := by
  cases v with
  | map entries =>
    simp only [selectField] at hselect
    split at hselect <;> cases hselect
    exact .inl rfl
  | _ =>
    simp only [selectField] at hselect
    split at hselect <;> cases hselect
    exact .inr ⟨⟨_, rfl⟩, by simp [DeclType.ofValue]⟩

end Fields

section Values

variable {draws : Draws} {issue : RuntimeIssue}

private theorem exists_value_of_values {es : List Expr} :
    ∀ {i : Nat}, values env draws i es = .error issue →
      ∃ e ∈ es, ∃ partDraws, value env partDraws e = .error issue := by
  induction es with
  | nil =>
    intro i hvalues
    cases hvalues
  | cons e es ih =>
    intro i hvalues
    simp only [values, bind_eq_error_iff] at hvalues
    rcases hvalues with he | ⟨v, -, hrest | ⟨vs, -, hok⟩⟩
    · exact ⟨e, List.mem_cons_self, _, he⟩
    · obtain ⟨e', he', partDraws, hvalue⟩ := ih hrest
      exact ⟨e', List.mem_cons_of_mem _ he', partDraws, hvalue⟩
    · cases hok

private theorem exists_value_of_mapEntries {entries : List (Expr × Expr)} :
    ∀ {i : Nat} {known : Dict Value}, mapEntries env draws i known entries = .error issue →
      issue.concernsName = false ∨
        ∃ p ∈ (Expr.map entries).parts, ∃ partDraws, value env partDraws p = .error issue := by
  induction entries with
  | nil =>
    intro i known hentries
    cases hentries
  | cons entry entries ih =>
    obtain ⟨k, v⟩ := entry
    intro i known hentries
    simp only [mapEntries, bind_eq_error_iff] at hentries
    rcases hentries with hk | ⟨key, -, hentries⟩
    · exact .inr ⟨k, by simp [parts], _, hk⟩
    · split at hentries
      · rcases bind_eq_error_iff.mp hentries with hv | ⟨w, -, hrest⟩
        · exact .inr ⟨v, by simp [parts], _, hv⟩
        · rcases ih hrest with hplain | ⟨p, hp, hvalue⟩
          · exact .inl hplain
          · refine .inr ⟨p, ?_, hvalue⟩
            obtain ⟨entry, hentry, hside⟩ := mem_parts_map.mp hp
            exact mem_parts_map.mpr ⟨entry, List.mem_cons_of_mem _ hentry, hside⟩
      · cases hentries
        exact .inl rfl

/-- Bindings provide for the types of names: each name with a known type is bound, to a value of this
    type unless that promises nothing. -/
def Provides (typeOf : String → Option DeclType) (env : String → Option Value) : Prop :=
  ∀ name t, typeOf name = some t →
    ∃ v, env name = some v ∧ (t ≠ .dyn → DeclType.ofValue v = some t)

private theorem Provides.respects (henv : Provides typeOf env) : Respects typeOf env := by
  intro name t v htype ht hbound
  obtain ⟨w, hw, hof⟩ := henv name t htype
  rw [hbound, Option.some.injEq] at hw
  rw [hw]
  exact hof ht

/-- A selection fails with an issue for the value of its operand, whose type the check left open. -/
structure MissesField (typeOf : String → Option DeclType) (env : String → Option Value)
    (operand : Expr) (field : String) (issue : RuntimeIssue) : Prop where
  open_type : check typeOf operand = .ok .dyn
  missing : ∃ partDraws v, value env partDraws operand = .ok v ∧ selectField v field = .error issue

private theorem missesField_of_selectField {operand : Expr} {field : String} {s found : DeclType}
    {v : Value} (henv : Provides typeOf env) (hs : check typeOf operand = .ok s)
    (htype : s.fieldType field = .ok found) (hv : value env draws operand = .ok v)
    (hselect : selectField v field = .error issue) (hname : issue.concernsName = true) :
    (∃ type, issue = .noField field type) ∧ MissesField typeOf env operand field issue := by
  have hof : s ≠ .dyn → DeclType.ofValue v = some s :=
    fun hdyn => ofValue_value henv.respects operand _ _ _ hs hdyn hv
  rcases selectField_eq_error hselect with hplain | ⟨hissue, hmap⟩
  · rw [hplain] at hname
    cases hname
  rcases fieldType_eq_ok htype with rfl | rfl | ⟨hstructured, -⟩
  · exact ⟨hissue, hs, _, v, hv, hselect⟩
  · exact absurd (hof (by decide)) hmap
  · have hdyn : s ≠ .dyn := by
      rintro rfl
      cases hstructured
    obtain ⟨w, hw⟩ := exists_selectField hstructured htype (hof hdyn)
    rw [hw] at hselect
    cases hselect

private theorem value_binary_eq_error {op : BinaryOp} {lhs rhs : Expr}
    (hvalue : value env draws (.binary op lhs rhs) = .error issue) :
    (∃ p ∈ [lhs, rhs], ∃ partDraws, value env partDraws p = .error issue) ∨ issue.concernsName = false := by
  cases op with
  | and =>
    simp only [value, bind_eq_error_iff] at hvalue
    rcases hvalue with hl | ⟨l, -, htruth | ⟨b, -, hvalue⟩⟩
    · exact .inl ⟨lhs, by simp, _, hl⟩
    · exact .inr (knowsNames_truth _ l issue htruth)
    · cases b with
      | false => cases hvalue
      | true =>
        simp only [if_true, bind_eq_error_iff] at hvalue
        rcases hvalue with hr | ⟨r, -, htruth | ⟨b, -, hok⟩⟩
        · exact .inl ⟨rhs, by simp, _, hr⟩
        · exact .inr (knowsNames_truth _ r issue htruth)
        · cases hok
  | or =>
    simp only [value, bind_eq_error_iff] at hvalue
    rcases hvalue with hl | ⟨l, -, htruth | ⟨b, -, hvalue⟩⟩
    · exact .inl ⟨lhs, by simp, _, hl⟩
    · exact .inr (knowsNames_truth _ l issue htruth)
    · cases b with
      | true => cases hvalue
      | false =>
        simp only [Bool.false_eq_true, if_false, bind_eq_error_iff] at hvalue
        rcases hvalue with hr | ⟨r, -, htruth | ⟨b, -, hok⟩⟩
        · exact .inl ⟨rhs, by simp, _, hr⟩
        · exact .inr (knowsNames_truth _ r issue htruth)
        · cases hok
  | add | sub | mul | div | rem | lt | le | gt | ge | eq | ne | isIn =>
    simp only [value, bind_eq_error_iff] at hvalue
    rcases hvalue with hl | ⟨l, -, hr | ⟨r, -, happly⟩⟩
    · exact .inl ⟨lhs, by simp, _, hl⟩
    · exact .inl ⟨rhs, by simp, _, hr⟩
    · exact .inr (knowsNames_applyBinary _ l r issue happly)

/-- What makes a checked expression fail, where its names are provided for: one of its parts, something
    that concerns no name, or a field that is missing in a selection from an operand of open type. -/
theorem value_eq_error_cases (henv : Provides typeOf env) (hcheck : check typeOf e = .ok t)
    (hvalue : value env draws e = .error issue) :
    (∃ p ∈ e.parts, ∃ partDraws, value env partDraws p = .error issue) ∨ issue.concernsName = false ∨
      ∃ operand field type, e = .select operand field ∧ issue = .noField field type ∧
        MissesField typeOf env operand field issue := by
  cases e with
  | literal v => cases hvalue
  | ident name =>
    simp only [check] at hcheck
    simp only [value] at hvalue
    split at hcheck
    · rename_i s hs
      obtain ⟨v, hv, -⟩ := henv name s hs
      simp only [hv] at hvalue
      cases hvalue
    · cases hcheck
  | list items =>
    simp only [value, bind_eq_error_iff] at hvalue
    rcases hvalue with hitems | ⟨vs, -, hok⟩
    · exact .inl (exists_value_of_values hitems)
    · cases hok
  | map entries =>
    simp only [value, bind_eq_error_iff] at hvalue
    rcases hvalue with hentries | ⟨found, -, hok⟩
    · rcases exists_value_of_mapEntries hentries with hplain | hpart
      · exact .inr (.inl hplain)
      · exact .inl hpart
    · cases hok
  | select operand field =>
    simp only [check, bind_eq_ok_iff] at hcheck
    simp only [value, bind_eq_error_iff] at hvalue
    obtain ⟨s, hs, hcheck⟩ := hcheck
    rcases hvalue with hoperand | ⟨v, hv, hselect⟩
    · exact .inl ⟨operand, by simp [parts], _, hoperand⟩
    · split at hcheck
      · rename_i found htype
        cases hname : issue.concernsName with
        | false => exact .inr (.inl rfl)
        | true =>
          obtain ⟨⟨type, hissue⟩, hmisses⟩ :=
            missesField_of_selectField henv hs htype hv hselect hname
          exact .inr (.inr ⟨operand, field, type, rfl, hissue, hmisses⟩)
      · cases hcheck
  | index operand i =>
    simp only [value, bind_eq_error_iff] at hvalue
    rcases hvalue with hoperand | ⟨v, -, hi | ⟨w, -, hselect⟩⟩
    · exact .inl ⟨operand, by simp [parts], _, hoperand⟩
    · exact .inl ⟨i, by simp [parts], _, hi⟩
    · exact .inr (.inl (knowsNames_selectIndex v w issue hselect))
  | call function args =>
    simp only [check, bind_eq_ok_iff] at hcheck
    simp only [value, bind_eq_error_iff] at hvalue
    obtain ⟨_, -, hcheck⟩ := hcheck
    rcases hvalue with hargs | ⟨vs, -, hcall⟩
    · exact .inl (exists_value_of_values hargs)
    · split at hcheck
      · rename_i f hf
        rw [callFunction, hf] at hcall
        exact .inr (.inl (f.knowsNames_apply vs _ issue hcall))
      · cases hcheck
  | method receiver name args =>
    simp only [check, bind_eq_ok_iff] at hcheck
    simp only [value, bind_eq_error_iff] at hvalue
    obtain ⟨_, -, _, -, hcheck⟩ := hcheck
    rcases hvalue with hreceiver | ⟨v, -, hargs | ⟨vs, -, hcall⟩⟩
    · exact .inl ⟨receiver, List.mem_cons_self, _, hreceiver⟩
    · obtain ⟨p, hp, hpart⟩ := exists_value_of_values hargs
      exact .inl ⟨p, List.mem_cons_of_mem _ hp, hpart⟩
    · split at hcheck
      · rename_i m hm
        rw [callMethod, hm] at hcall
        exact .inr (.inl (m.knowsNames_apply v vs issue hcall))
      · cases hcheck
  | unary op operand =>
    simp only [value, bind_eq_error_iff] at hvalue
    rcases hvalue with hoperand | ⟨v, -, happly⟩
    · exact .inl ⟨operand, by simp [parts], _, hoperand⟩
    · exact .inr (.inl (knowsNames_applyUnary op v issue happly))
  | binary op lhs rhs =>
    rcases value_binary_eq_error hvalue with hpart | hplain
    · exact .inl hpart
    · exact .inr (.inl hplain)
  | cond test yes no =>
    simp only [value, bind_eq_error_iff] at hvalue
    rcases hvalue with htest | ⟨v, -, htruth | ⟨b, -, hbranch⟩⟩
    · exact .inl ⟨test, by simp [parts], _, htest⟩
    · exact .inr (.inl (knowsNames_truth _ v issue htruth))
    · cases b with
      | true => exact .inl ⟨yes, by simp [parts], _, hbranch⟩
      | false => exact .inl ⟨no, by simp [parts], _, hbranch⟩

/-- The failures of a checked expression that concern a name at all are those of fields that are missing
    in selections, at any depth, from operands of open type. -/
theorem missesField_of_value (henv : Provides typeOf env) (e : Expr) :
    ∀ {t : DeclType} {draws : Draws} {issue : RuntimeIssue}, check typeOf e = .ok t →
      value env draws e = .error issue → issue.concernsName = true →
      ∃ operand field type, Within (.select operand field) e ∧ issue = .noField field type ∧
        MissesField typeOf env operand field issue := by
  induction e using inductParts with
  | step e ih =>
    intro t draws issue hcheck hvalue hname
    rcases value_eq_error_cases henv hcheck hvalue with ⟨p, hp, partDraws, hpart⟩ | hplain | hselect
    · obtain ⟨s, hs⟩ := exists_check_of_mem_parts hcheck hp
      obtain ⟨operand, field, type, hwithin, hmisses⟩ := ih p hp hs hpart hname
      exact ⟨operand, field, type, .part hp hwithin, hmisses⟩
    · rw [hplain] at hname
      cases hname
    · obtain ⟨operand, field, type, rfl, hmisses⟩ := hselect
      exact ⟨operand, field, type, .self, hmisses⟩

end Values

/-- A checked expression whose names are provided for is evaluated without meeting a variable, function
    or method that is not there. A field can be missing only in a selection from an operand whose type
    the check left open, and a selection from an operand of a structured type always succeeds. -/
theorem evaluate_knowsNames (e : Expr) {typeOf : String → Option DeclType}
    {env : String → Option Value} {t : DeclType} (henv : Provides typeOf env)
    (hcheck : e.check typeOf = .ok t) (draws : Draws) :
    (∀ name, e.evaluate env draws ≠ .error (.runtimeError (.unbound name))) ∧
    (∀ name, e.evaluate env draws ≠ .error (.runtimeError (.undeclaredFunction name))) ∧
    (∀ name type, e.evaluate env draws ≠ .error (.runtimeError (.noMethod name type))) ∧
    (∀ field type, e.evaluate env draws = .error (.runtimeError (.noField field type)) →
      ∃ operand, Within (.select operand field) e ∧ operand.check typeOf = .ok .dyn ∧
        ∃ partDraws v, operand.evaluate env partDraws = .ok v ∧
          selectField v field = .error (.noField field type)) ∧
    (∀ operand field s, Within (.select operand field) e → operand.check typeOf = .ok s →
      s.isStructured = true → ∀ partDraws v, operand.evaluate env partDraws = .ok v →
        ∃ w, selectField v field = .ok w) := by
  have hnames {issue : RuntimeIssue} (hvalue : e.evaluate env draws = .error (.runtimeError issue))
      (hname : issue.concernsName = true) :=
    missesField_of_value henv e hcheck (evaluate_eq_error_iff.mp hvalue) hname
  refine ⟨fun name hvalue => ?_, fun name hvalue => ?_, fun name type hvalue => ?_,
    fun field type hvalue => ?_, fun operand field s hwithin hs hstructured partDraws v hv => ?_⟩
  · obtain ⟨operand, field, type, -, hissue, -⟩ := hnames hvalue rfl
    cases hissue
  · obtain ⟨operand, field, type, -, hissue, -⟩ := hnames hvalue rfl
    cases hissue
  · obtain ⟨operand, field, type, -, hissue, -⟩ := hnames hvalue rfl
    cases hissue
  · obtain ⟨operand, field, type, hwithin, hissue, hopen, partDraws, v, hv, hselect⟩ := hnames hvalue rfl
    cases hissue
    exact ⟨operand, hwithin, hopen, partDraws, v, evaluate_eq_ok_iff.mpr hv, hselect⟩
  · obtain ⟨r, hr⟩ := hwithin.exists_check hcheck
    simp only [check, hs, bind_eq_ok_iff] at hr
    obtain ⟨s', hs', hr⟩ := hr
    cases hs'
    split at hr
    · rename_i found htype
      have hdyn : s ≠ .dyn := by
        rintro rfl
        cases hstructured
      exact exists_selectField hstructured htype
        (ofValue_value henv.respects operand _ _ _ hs hdyn (evaluate_eq_ok_iff.mp hv))
    · cases hr

/-- In `response.status == m.code` the field of `m` is missing, whose type is open; that of the
    response is there. -/
theorem evaluate_knowsNames_open :
    let response : Response := { status := 200, body := [], headers := [], contentType := "" }
    let typeOf : String → Option DeclType := fun name =>
      if name = "response" then some .response else if name = "m" then some .dyn else none
    let env : String → Option Value := fun name =>
      if name = "response" then some (.response response) else some (.int 7)
    let e : Expr := .binary .eq (.select (.ident "response") "status") (.select (.ident "m") "code")
    Provides typeOf env ∧ e.check typeOf = .ok .bool ∧
      e.evaluate env (Draws.ofSeed 0) = .error (.runtimeError (.noField "code" "int")) ∧
      (∃ operand, Within (.select operand "code") e ∧ operand.check typeOf = .ok .dyn ∧
        ∃ partDraws v, operand.evaluate env partDraws = .ok v ∧
          selectField v "code" = .error (.noField "code" "int")) ∧
      ∃ w, selectField (.response response) "status" = .ok w := by
  intro response typeOf env e
  have henv : Provides typeOf env := by
    intro name t htype
    simp only [typeOf] at htype
    simp only [env]
    split at htype
    · cases htype
      rw [if_pos (by assumption)]
      exact ⟨_, rfl, fun _ => rfl⟩
    · split at htype <;> cases htype
      rw [if_neg (by assumption)]
      exact ⟨_, rfl, fun hdyn => absurd rfl hdyn⟩
  have hcheck : e.check typeOf = .ok .bool := rfl
  have hvalue : e.evaluate env (Draws.ofSeed 0) = .error (.runtimeError (.noField "code" "int")) := rfl
  obtain ⟨-, -, -, hmissing, hstructured⟩ := evaluate_knowsNames e henv hcheck (Draws.ofSeed 0)
  have hwithin : Within (.select (.ident "response") "status") e := .part (by simp [e, parts]) .self
  exact ⟨henv, hcheck, hvalue, hmissing _ _ hvalue,
    hstructured _ _ .response hwithin rfl rfl (Draws.ofSeed 0) _ rfl⟩

end Expr

end VulnProbe
