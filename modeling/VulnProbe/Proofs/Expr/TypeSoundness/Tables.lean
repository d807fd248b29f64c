import VulnProbe.Expr.Eval
import VulnProbe.Expr.Typing
import VulnProbe.Proofs.Expr.Induction

namespace VulnProbe.Expr

/-- A function gives a value of the type that the table of functions promises. -/
theorem Builtin.ofValue_apply {f : Builtin} {args : List Value} {draws : Draws} {v : Value}
    (happly : f.apply args draws = .ok v) : DeclType.ofValue v = some f.resultType := by
  cases f with
  | newReverse => cases happly
  | randomInt =>
    simp only [Builtin.apply, bind_eq_ok_iff] at happly
    obtain ⟨_, _, _, _, _, _, happly⟩ := happly
    split at happly <;> cases happly
    rfl
  | base64Decode | urldecode | urlParse | randomLowercase =>
    simp only [Builtin.apply, bind_eq_ok_iff] at happly
    obtain ⟨_, _, _, _, happly⟩ := happly
    split at happly <;> cases happly
    rfl
  | substr =>
    simp only [Builtin.apply, bind_eq_ok_iff] at happly
    obtain ⟨_, _, _, _, _, _, _, _, happly⟩ := happly
    split at happly <;> cases happly
    rfl
  | base64 | urlencode | hexEncode | sha256 | bytes =>
    simp only [Builtin.apply, bind_eq_ok_iff] at happly
    obtain ⟨_, _, _, _, happly⟩ := happly
    cases happly
    rfl
  | string =>
    simp only [Builtin.apply, bind_eq_ok_iff] at happly
    obtain ⟨_, _, happly⟩ := happly
    cases happly
    rfl
  | int =>
    simp only [Builtin.apply, bind_eq_ok_iff] at happly
    obtain ⟨_, _, happly⟩ := happly
    split at happly
    · cases happly
      rfl
    · cases happly
      rfl
    · split at happly <;> cases happly
      rfl
    · cases happly
  | size =>
    simp only [Builtin.apply, bind_eq_ok_iff] at happly
    obtain ⟨_, _, happly⟩ := happly
    split at happly <;> cases happly <;> rfl

/-- A method gives a value of the type that the table of methods promises for the type of its receiver,
    unless it promises nothing. -/
theorem Method.ofValue_apply {m : Method} {receiver : Value} {args : List Value} {t : DeclType}
    {v : Value}
    (hreceiver : t ≠ .dyn → DeclType.ofValue receiver = some t) (hknown : m.resultType t ≠ .dyn)
    (happly : m.apply receiver args = .ok v) : DeclType.ofValue v = some (m.resultType t) := by
  cases m with
  | contains | icontains | bcontains | «matches» | bmatches | startsWith | endsWith | bstartsWith
  | submatch | bsubmatch =>
    simp only [Method.apply, bind_eq_ok_iff] at happly
    obtain ⟨_, _, _, _, _, _, happly⟩ := happly
    cases happly
    rfl
  | lower | upper =>
    simp only [Method.apply, bind_eq_ok_iff] at happly
    obtain ⟨_, _, _, _, happly⟩ := happly
    cases happly
    rfl
  | concat =>
    have ht : t = .string ∨ t = .bytes := Decidable.of_not_not fun hnot => hknown (if_neg hnot)
    rw [Method.resultType, if_pos ht]
    have htype := hreceiver (by rintro rfl; simp at ht)
    cases receiver with
    | string s =>
      cases happly
      exact htype
    | bytes bs =>
      simp only [Method.apply, bind_eq_ok_iff] at happly
      obtain ⟨_, _, happly⟩ := happly
      cases happly
      exact htype
    | _ => cases happly

private theorem ofValue_structField? {t found : DeclType} {field : String} {v w : Value}
    (hv : DeclType.ofValue v = some t) (htype : DeclType.structField? t field = some found)
    (hvalue : structField? v field = some w) : DeclType.ofValue w = some found := by
  unfold DeclType.structField? at htype
  split at htype <;> cases htype
  all_goals
    cases v <;> cases hv
    simp [structField?] at hvalue
    subst hvalue
    rfl

/-- A field that is selected has the type that is found for it, unless that is unknown. -/
theorem ofValue_selectField {t found : DeclType} {field : String} {v w : Value}
    (hv : t ≠ .dyn → DeclType.ofValue v = some t) (htype : t.fieldType field = .ok found)
    (hknown : found ≠ .dyn) (hselect : selectField v field = .ok w) :
    DeclType.ofValue w = some found := by
  have hstruct : DeclType.structField? t field = some found ∧ t ≠ .dyn ∧ t ≠ .map := by
    cases t with
    | dyn | map =>
      cases htype
      exact absurd rfl hknown
    | response | request | reverse | url =>
      simp only [DeclType.fieldType] at htype
      split at htype <;> cases htype
      exact ⟨by assumption, by decide, by decide⟩
    | _ => cases htype
  obtain ⟨hfield, hdyn, hmap⟩ := hstruct
  have htyped := hv hdyn
  unfold selectField at hselect
  split at hselect
  · cases htyped
    exact absurd rfl hmap
  · split at hselect <;> cases hselect
    exact ofValue_structField? htyped hfield (by assumption)

/-- A number that must have 64 bits is an integer if it does. -/
theorem ofValue_bounded {i : Int} {v : Value} (hbounded : bounded i = .ok v) :
    DeclType.ofValue v = some .int := by
  unfold bounded at hbounded
  split at hbounded <;> cases hbounded
  rfl

private theorem ofValue_applyDivision {q a b : Int} {v : Value} (hdivision : applyDivision q a b = .ok v) :
    DeclType.ofValue v = some .int := by
  unfold applyDivision at hdivision
  split at hdivision
  · cases hdivision
  · split at hdivision <;> cases hdivision
    rfl

private theorem ofValue_applyToInts {op : BinaryOp} {a b : Int} {v : Value}
    (happly : applyToInts op a b = .ok v) :
    DeclType.ofValue v = some (if op.isArithmetic then .int else .bool) := by
  cases op with
  | add | sub | mul => exact ofValue_bounded happly
  | div | rem => exact ofValue_applyDivision happly
  | lt | le | gt | ge =>
    cases happly
    rfl
  | eq | ne | isIn | and | or => cases happly

private theorem ofValue_applyToTexts {op : BinaryOp} {a b : String} {v : Value}
    (happly : applyToTexts op a b = .ok v) :
    DeclType.ofValue v = some (if op.isArithmetic then .string else .bool) := by
  cases op with
  | add | lt | le | gt | ge =>
    cases happly
    rfl
  | sub | mul | div | rem | eq | ne | isIn | and | or => cases happly

/-- Arithmetic keeps the type of the left operand, and every other operator gives a truth value. -/
theorem ofValue_applyBinary {op : BinaryOp} {l r v : Value} (happly : applyBinary op l r = .ok v) :
    DeclType.ofValue v = if op.isArithmetic then DeclType.ofValue l else some .bool := by
  unfold applyBinary at happly
  split at happly
  case h_3 => rw [ofValue_applyToInts happly]; split <;> rfl
  case h_4 => rw [ofValue_applyToTexts happly]; split <;> rfl
  case h_9 => cases happly
  all_goals
    cases happly
    rfl

end VulnProbe.Expr
