import VulnProbe.Proofs.Expr.Induction
import VulnProbe.Proofs.Run.Binding.Prepared

namespace VulnProbe

/-- Why an entry cannot be declared, if that is so. -/
def declarationFault? (entry : String × String) : Option Failure :=
  match inferType entry.2 with
  | .ok _ => none
  | .error issue => some (.typeDeclaration entry.1 issue)

/-- An entry cannot be declared exactly if its source has no type, and the failure names it. -/
theorem declarationFault?_eq_some_iff {name source : String} {f : Failure} :
    declarationFault? (name, source) = some f ↔
      ∃ issue, inferType source = .error issue ∧ f = .typeDeclaration name issue := by
  cases htype : inferType source with
  | ok t => simp [declarationFault?, htype]
  | error issue => simp [declarationFault?, htype, eq_comm]

namespace Registry

variable {registry registry' : Registry} {name source : String} {entries : List (String × String)}
  {f : Failure}

section Sources

private theorem declareSource_eq_ok {t : DeclType}
    (hdeclare : registry.declareSource name source = .ok (t, registry')) :
    registry' = if name = requestName ∨ name = responseName then registry
      else registry.insert name t := by
  rw [declareSource] at hdeclare
  cases htype : inferType source with
  | error issue => simp only [htype, reduceCtorEq] at hdeclare
  | ok t' =>
    simp only [htype, Bool.or_eq_true, beq_iff_eq] at hdeclare
    by_cases hreserved : name = requestName ∨ name = responseName
    · rw [if_pos hreserved] at hdeclare ⊢
      cases hdeclare
      rfl
    · rw [if_neg hreserved] at hdeclare ⊢
      cases hdeclare
      rfl

private theorem exists_declareSource (registry : Registry) (name : String) {t : DeclType}
    (htype : inferType source = .ok t) :
    ∃ registry', registry.declareSource name source = .ok (t, registry') := by
  rw [declareSource, htype]
  by_cases hreserved : (name == requestName || name == responseName) = true
  · exact ⟨registry, if_pos hreserved⟩
  · exact ⟨registry.insert name t, if_neg hreserved⟩

/-- Declaration of entries stops at the first one that cannot be declared. -/
theorem declareSources_eq_error_iff :
    registry.declareSources entries = .error f ↔ entries.findSome? declarationFault? = some f := by
  induction entries generalizing registry with
  | nil => simp [declareSources]
  | cons entry entries ih =>
    obtain ⟨name, source⟩ := entry
    rw [declareSources, List.findSome?_cons]
    cases htype : inferType source with
    | ok t =>
      obtain ⟨next, hnext⟩ := exists_declareSource registry name htype
      simp only [hnext, declarationFault?, htype]
      exact ih
    | error issue =>
      simp only [declareSource, declarationFault?, htype]
      simp [bind_eq_error_iff]

/-- Declaring entries leaves the types of other names, of the request and of the response as they
    are. -/
theorem get?_declareSources
    (hdeclare : registry.declareSources entries = .ok registry')
    (hname : name ∈ Dict.keys entries → name = requestName ∨ name = responseName) :
    Dict.get? name registry' = Dict.get? name registry := by
  induction entries generalizing registry with
  | nil =>
    cases hdeclare
    rfl
  | cons entry entries ih =>
    obtain ⟨head, source⟩ := entry
    obtain ⟨⟨t, next⟩, hhead, hrest⟩ := bind_eq_ok_iff.mp hdeclare
    rw [ih hrest fun h => hname (List.mem_cons_of_mem _ h), declareSource_eq_ok hhead]
    by_cases hreserved : head = requestName ∨ head = responseName
    · rw [if_pos hreserved]
    · have hne : name ≠ head := by
        rintro rfl
        exact hreserved (hname List.mem_cons_self)
      rw [if_neg hreserved, Dict.get?_insert_of_ne hne]

/-- Any other name that an entry has is declared by the look of its source. -/
theorem get?_declareSources_of_mem (hnames : (Dict.keys entries).Nodup)
    (hdeclare : registry.declareSources entries = .ok registry')
    (hmem : (name, source) ∈ entries) (hname : ¬ (name = requestName ∨ name = responseName)) :
    ∃ t, inferType source = .ok t ∧ Dict.get? name registry' = some t := by
  induction entries generalizing registry with
  | nil => cases hmem
  | cons entry entries ih =>
    obtain ⟨hfresh, hnames⟩ := List.nodup_cons.mp hnames
    obtain ⟨⟨t, next⟩, hhead, hrest⟩ := bind_eq_ok_iff.mp hdeclare
    rcases List.mem_cons.mp hmem with rfl | hmem
    · rw [get?_declareSources hrest fun h => absurd h hfresh, declareSource_eq_ok hhead, if_neg hname,
        Dict.get?_insert_self]
      rw [declareSource] at hhead
      split at hhead
      · cases hhead
      rename_i t' htype
      rw [if_neg (by simpa using hname)] at hhead
      cases hhead
      exact ⟨t, htype, rfl⟩
    · exact ih hnames hrest hmem

private theorem sorted_declareSources (hregistry : Dict.Sorted registry)
    (hdeclare : registry.declareSources entries = .ok registry') : Dict.Sorted registry' := by
  induction entries generalizing registry with
  | nil =>
    cases hdeclare
    exact hregistry
  | cons entry entries ih =>
    obtain ⟨⟨t, next⟩, hhead, hrest⟩ := bind_eq_ok_iff.mp hdeclare
    apply ih ?_ hrest
    rw [declareSource_eq_ok hhead]
    split
    · exact hregistry
    · exact Dict.sorted_insert _ _ hregistry

end Sources

section Values

private theorem declareValue_eq_ok {v : Value} {t : DeclType}
    (hdeclare : registry.declareValue name v = .ok (t, registry')) :
    DeclType.ofValue v = some t ∧ registry' = registry.insert name t := by
  rw [declareValue] at hdeclare
  cases htype : DeclType.ofValue v with
  | none => simp only [htype, reduceCtorEq] at hdeclare
  | some t' =>
    simp only [htype, Except.ok.injEq, Prod.mk.injEq] at hdeclare
    obtain ⟨rfl, rfl⟩ := hdeclare
    exact ⟨rfl, rfl⟩

/-- Declaring values fails for a value without a type only, and names it. -/
theorem declareValues_eq_error {values : List (String × Value)}
    (hdeclare : registry.declareValues values = .error f) :
    ∃ name issue, f = .typeDeclaration name issue := by
  induction values generalizing registry with
  | nil => cases hdeclare
  | cons entry values ih =>
    obtain ⟨name, v⟩ := entry
    rw [declareValues, declareValue] at hdeclare
    cases htype : DeclType.ofValue v with
    | none =>
      rw [htype] at hdeclare
      cases hdeclare
      exact ⟨name, _, rfl⟩
    | some t =>
      rw [htype] at hdeclare
      exact ih hdeclare

/-- Bound names are declared by what they are bound to, and other names stay as they are. -/
theorem get?_declareValues {values : Params} (hvalues : (Dict.keys values).Nodup)
    (hdeclare : registry.declareValues values = .ok registry') (name : String) :
    Dict.get? name registry' =
      ((Dict.get? name values).bind DeclType.ofValue).or (Dict.get? name registry) := by
  induction values generalizing registry with
  | nil =>
    cases hdeclare
    rfl
  | cons entry values ih =>
    obtain ⟨head, v⟩ := entry
    obtain ⟨hfresh, hvalues⟩ := List.nodup_cons.mp hvalues
    obtain ⟨⟨t, next⟩, hhead, hrest⟩ := bind_eq_ok_iff.mp hdeclare
    obtain ⟨htype, rfl⟩ := declareValue_eq_ok hhead
    rw [ih hvalues hrest, Dict.get?_cons]
    by_cases hname : head = name
    · subst hname
      have hnone : Dict.get? head values = none := Dict.get?_eq_none_iff.mpr hfresh
      rw [if_pos rfl, hnone, Dict.get?_insert_self, Option.bind_some, htype]
      rfl
    · rw [if_neg hname, Dict.get?_insert_of_ne (Ne.symm hname)]

end Values

section OfPoc

variable {poc : Poc} {declared : Registry}

/-- The request and the response are declared before any entry. -/
theorem get?_initial :
    Dict.get? requestName initial = some .request ∧
      Dict.get? responseName initial = some .response := by
  decide

private theorem get?_initial_of_ne (hname : ¬ (name = requestName ∨ name = responseName)) :
    Dict.get? name initial = none := by
  obtain ⟨hrequest, hresponse⟩ := not_or.mp hname
  rw [initial, Dict.ofList, Dict.insertAll, List.foldl_cons, List.foldl_cons, List.foldl_nil,
    Dict.get?_insert_of_ne hresponse, Dict.get?_insert_of_ne hrequest]
  rfl

/-- The types of the names that are declared first, and of all others the types that their sources
    declare. -/
theorem get?_ofPoc (hnames : poc.NamesOnce) (hdeclared : ofPoc poc = .ok declared) (name : String) :
    Dict.get? name declared = (Dict.get? name initial).or
      ((Dict.get? name poc.set).bind fun source => (inferType source).toOption) := by
  by_cases hreserved : name = requestName ∨ name = responseName
  · rw [get?_declareSources hdeclared fun _ => hreserved]
    rcases hreserved with rfl | rfl
    · rw [get?_initial.1, Option.some_or]
    · rw [get?_initial.2, Option.some_or]
  · rw [get?_initial_of_ne hreserved, Option.none_or]
    cases hentry : Dict.get? name poc.set with
    | none =>
      have hfresh := Dict.get?_eq_none_iff.mp hentry
      rw [get?_declareSources hdeclared fun hmem => absurd hmem hfresh, get?_initial_of_ne hreserved]
      rfl
    | some source =>
      obtain ⟨t, htype, ht⟩ :=
        get?_declareSources_of_mem hnames hdeclared (Dict.mem_of_get? hentry) hreserved
      rw [ht, Option.bind_some, htype]
      rfl

/-- The declarations of a definition are in order. -/
theorem sorted_ofPoc (hdeclared : ofPoc poc = .ok declared) : Dict.Sorted declared :=
  sorted_declareSources (Dict.sorted_ofList _) hdeclared

end OfPoc

end Registry

end VulnProbe
