import VulnProbe.Proofs.Json.RoundTrip
import VulnProbe.Proofs.Report.RunId
import VulnProbe.Proofs.Report.Summary
import VulnProbe.Proofs.Report.Timestamp
import VulnProbe.Report.Document

namespace VulnProbe

namespace RunState

private theorem ofJson?_name (s : RunState) : ofJson? (.string s.name) = some s := by
  cases s <;> rfl

end RunState

namespace Json

private theorem isExact_ofNat {n : Nat} (hn : n < countLimit) : (ofNat n).IsExact :=
  .int ⟨by omega, by exact_mod_cast hn⟩

/-- An object of members with different names is exact if their values are. -/
theorem isExact_ofMembers {members : List (String × Json)} (hmembers : ∀ m ∈ members, m.2.IsExact) :
    (ofMembers members).IsExact :=
  .object (Dict.sorted_ofList members) fun m hm => hmembers m (Dict.mem_of_mem_ofList hm)

/-- An object is as deep as its members, one more. -/
theorem nesting_ofMembers_le_iff {members : List (String × Json)} (hnames : (Dict.keys members).Nodup)
    {n : Nat} : (ofMembers members).nesting ≤ n + 1 ↔ ∀ m ∈ members, m.2.nesting ≤ n := by
  rw [ofMembers, nesting_object_le_iff]
  simp only [(Dict.perm_ofList hnames).mem_iff]

private theorem get?_ofMembers {members : List (String × Json)} (hnames : (Dict.keys members).Nodup)
    (name : String) : (ofMembers members).get? name = Dict.get? name members :=
  Dict.get?_ofList hnames name

end Json

namespace Report

section Fields

variable {r : Report}

/-- What the fields of a report can hold: counts have 64 bits, and the bindings are written without
    floating-point numbers. The years are those that a time writes with four digits. -/
structure IsRecordable (r : Report) : Prop where
  params : r.params.IsExact
  startedAt : 0 ≤ r.times.startedAt.year ∧ r.times.startedAt.year ≤ 9999
  finishedAt : 0 ≤ r.times.finishedAt.year ∧ r.times.finishedAt.year ≤ 9999
  durationMs : r.times.durationMs < countLimit
  rulesExecuted : r.rulesExecuted < countLimit

/-- The members of the JSON of a report. -/
def members (r : Report) : List (String × Json) :=
  r.contentMembers ++ r.timeMembers

private theorem toJson_eq (r : Report) : r.toJson = .ofMembers r.members :=
  rfl

private theorem nodup_keys_members (r : Report) : (Dict.keys r.members).Nodup := by
  unfold members contentMembers
  split <;> simp [Dict.keys, timeMembers]

/-- What is true of texts, truth values, counts and `null`, and of the bindings, is true of all members. -/
theorem forall_members {P : Json → Prop} (htext : ∀ s, P (.string s)) (hflag : ∀ b, P (.bool b))
    (hnull : P .null) (hduration : P (.ofNat r.times.durationMs)) (hrules : P (.ofNat r.rulesExecuted))
    (hparams : P r.params) : ∀ m ∈ r.members, P m.2 := by
  have hmatched : P (flagJson r.matched) := by
    cases r.matched with
    | none => exact hnull
    | some b => exact hflag b
  have hoptional (s : Option String) : P (.ofString? s) := by
    cases s with
    | none => exact hnull
    | some s => exact htext s
  unfold members contentMembers
  split
  all_goals simp [timeMembers, htext, hmatched, hoptional, hduration, hrules, hparams]

private theorem get?_params (r : Report) : (Dict.get? "params" r.members).getD .null = r.params := by
  unfold members contentMembers
  split
  · rename_i hnull
    simp [Dict.get?, timeMembers, hnull]
  · simp [Dict.get?]

private theorem isExact_toJson (hr : r.IsRecordable) : r.toJson.IsExact :=
  Json.isExact_ofMembers (forall_members .string .bool .null (Json.isExact_ofNat hr.durationMs)
    (Json.isExact_ofNat hr.rulesExecuted) hr.params)

/-- Only the bindings of a report can be deep. -/
theorem nesting_toJson_le_iff {n : Nat} : r.toJson.nesting ≤ n + 1 ↔ r.params.nesting ≤ n := by
  rw [toJson_eq, Json.nesting_ofMembers_le_iff r.nodup_keys_members]
  constructor
  · intro hmembers
    have hparams := r.get?_params
    cases hget : Dict.get? "params" r.members with
    | none =>
      rw [hget, Option.getD_none] at hparams
      rw [← hparams]
      exact Nat.zero_le n
    | some params =>
      rw [hget, Option.getD_some] at hparams
      exact hparams ▸ hmembers _ (Dict.mem_of_get? hget)
  · intro hparams
    have hflat {j : Json} (hj : j.nesting = 0) : j.nesting ≤ n := by omega
    exact forall_members (P := fun j => j.nesting ≤ n) (fun _ => hflat rfl) (fun _ => hflat rfl)
      (hflat rfl) (hflat rfl) (hflat rfl) hparams

end Fields

section Reading

variable {r : Report}

/-- A report is read back from its JSON. -/
theorem ofJson?_toJson (hr : r.IsRecordable) : ofJson? r.toJson = some r := by
  have hnames := r.nodup_keys_members
  obtain ⟨d, hd⟩ : ∃ d, d = Dict.ofList r.members := ⟨_, rfl⟩
  have hread : members? r.toJson = some d := by rw [hd]; rfl
  have hget : ∀ m ∈ r.members, Dict.get? m.1 d = some m.2 := fun m hm => by
    rw [hd, Dict.get?_ofList hnames, Dict.get?_eq_some_iff hnames]
    exact hm
  simp only [members, contentMembers, timeMembers, List.forall_mem_append, List.forall_mem_cons] at hget
  obtain ⟨⟨⟨hpoc, hpath, htarget, hmatched, hstate, herror, hkind, hrules, -⟩, -⟩, hrun, hstart, hfinish,
    hduration, -⟩ := hget
  have hflag : optionalFlag? ((Dict.get? "matched" d).getD .null) = some r.matched := by
    rw [hmatched]
    cases r.matched <;> rfl
  have htext {name : String} {s : Option String} (hs : Dict.get? name d = some (.ofString? s)) :
      optionalText? ((Dict.get? name d).getD .null) = some s := by
    rw [hs]
    cases s <;> rfl
  have hparams : (Dict.get? "params" d).getD .null = r.params := by
    rw [hd, Dict.get?_ofList hnames, r.get?_params]
  have hcount {n : Nat} (hn : n < countLimit) : count? (.ofNat n) = some n := by
    simp [count?, Json.ofNat, hn]
  have hnext {α : Type} {x : Option α} {v : α} {f : α → Option Report} (hx : x = some v)
      (hf : f v = some r) : x >>= f = some r := Option.bind_eq_some_iff.mpr ⟨v, hx, hf⟩
  -- The members are read in the order in which the reader asks for them.
  unfold ofJson?
  refine hnext hread (hnext hrun (hnext rfl (hnext (RunId.parse?_text _) ?_)))
  refine hnext hstart (hnext rfl (hnext (Timestamp.parse?_text hr.startedAt.1 hr.startedAt.2) ?_))
  refine hnext hfinish (hnext rfl (hnext (Timestamp.parse?_text hr.finishedAt.1 hr.finishedAt.2) ?_))
  refine hnext hduration (hnext (hcount hr.durationMs) ?_)
  refine hnext hpoc (hnext rfl (hnext hpath (hnext rfl (hnext htarget (hnext rfl ?_)))))
  refine hnext hflag (hnext hstate (hnext (RunState.ofJson?_name r.state) ?_))
  refine hnext (htext herror) (hnext (htext hkind) (hnext hrules (hnext (hcount hr.rulesExecuted) ?_)))
  simp only [hparams]

/-- Reports are read back from the array of their JSON, in their order. -/
theorem listOfJson?_map_toJson {reports : List Report} (hreports : ∀ r ∈ reports, r.IsRecordable) :
    listOfJson? (.array (reports.map toJson)) = some reports := by
  rw [listOfJson?]
  induction reports with
  | nil => rfl
  | cons r reports ih =>
    obtain ⟨hr, hreports⟩ := List.forall_mem_cons.mp hreports
    rw [List.map_cons, List.mapM_cons, ofJson?_toJson hr, Option.bind_eq_bind, Option.bind_some, ih hreports]
    rfl

end Reading

end Report

namespace Summary

/-- The JSON of a summary is an object of its four counts. -/
theorem toJson_eq (s : Summary) :
    s.toJson = .object [("errors", .int s.errors), ("matched", .int s.matched),
      ("rejected", .int s.rejected), ("total", .int s.total)] := by
  have horder : "matched" < "total" ∧ "rejected" < "total" ∧ ¬ "rejected" < "matched" ∧
      "rejected" ≠ "matched" ∧ "errors" < "matched" := by
    decide
  simp only [toJson, Json.ofMembers, Json.ofNat, Dict.ofList, Dict.insertAll, List.foldl_cons,
    List.foldl_nil, Dict.insert, horder, if_true, if_false]

private theorem isExact_toJson {reports : List Report} (hlength : reports.length < countLimit) :
    (ofReports reports).toJson.IsExact := by
  have hcount (p : Report → Bool) : (Json.ofNat (reports.countP p)).IsExact :=
    Json.isExact_ofNat (Nat.lt_of_le_of_lt List.countP_le_length hlength)
  refine Json.isExact_ofMembers ?_
  simp [ofReports_eq, hcount, Json.isExact_ofNat hlength]

private theorem nesting_toJson_le (s : Summary) (n : Nat) : s.toJson.nesting ≤ n + 1 := by
  rw [toJson, Json.nesting_ofMembers_le_iff (by simp [Dict.keys])]
  simp [Json.ofNat, Json.nesting]

end Summary

namespace Report

section Samples

/-- The report of a run that started in a second longer than others. -/
def leapReport : Report where
  times := {
    runId := ⟨List.range' 240 16 |>.map UInt8.ofNat, by simp⟩
    startedAt := ⟨2016, 12, 31, 23, 59, 59, 1500000000, by decide, by decide⟩
    finishedAt := ⟨2017, 1, 1, 0, 0, 0, 250000, by decide, by decide⟩
    durationMs := 1250 }
  poc := "caf\u00e9 \"x\""
  pocPath := "pocs\\a.yml"
  target := "http://a/\t"
  matched := some true
  state := .confirmed
  error := none
  errorType := none
  rulesExecuted := 2
  params := .null

private theorem isRecordable_leapReport {params : Json} (hparams : params.IsExact) :
    { leapReport with params }.IsRecordable := by
  have hleap : leapReport.IsRecordable :=
    ⟨.null, by decide, by decide, by decide, by decide⟩
  exact ⟨hparams, hleap.startedAt, hleap.finishedAt, hleap.durationMs, hleap.rulesExecuted⟩

/-- The same with bindings. -/
def boundReport : Report :=
  { leapReport with params := .ofMembers [("s", .array [.int (-7), .string "\n"])] }

private theorem isRecordable_boundReport : boundReport.IsRecordable := by
  have hlist : (Json.array [.int (-7), .string "\n"]).IsExact := by
    refine .array fun j hj => ?_
    rcases List.mem_pair.mp hj with rfl | rfl
    · exact .int ⟨by decide, by decide⟩
    · exact .string "\n"
  exact isRecordable_leapReport (Json.isExact_ofMembers (List.forall_mem_singleton.mpr hlist))

/-- Arrays inside one another, so many of them. -/
def nestedArrays : Nat → Json
  | 0 => .null
  | n + 1 => .array [nestedArrays n]

private theorem isExact_nestedArrays (n : Nat) : (nestedArrays n).IsExact := by
  induction n with
  | zero => exact .null
  | succ n ih => exact .array (List.forall_mem_singleton.mpr ih)

private theorem nesting_nestedArrays (n : Nat) : (nestedArrays n).nesting = n := by
  induction n with
  | zero => rfl
  | succ n ih => simp [nestedArrays, Json.nesting, Json.nestingOfItems, ih]

end Samples

section Whole

variable {reports : List Report}

private theorem isExact_document (hreports : ∀ r ∈ reports, r.IsRecordable)
    (hlength : reports.length < countLimit) : (document reports).IsExact := by
  have hresults : (Json.array (reports.map toJson)).IsExact := by
    refine .array fun j hj => ?_
    obtain ⟨r, hr, rfl⟩ := List.mem_map.mp hj
    exact isExact_toJson (hreports r hr)
  refine Json.isExact_ofMembers ?_
  simp [Summary.isExact_toJson hlength, hresults]

/-- The document, its results and a report stand around the bindings of a report. -/
theorem nesting_document_le_iff {n : Nat} :
    (document reports).nesting ≤ n + 3 ↔ ∀ r ∈ reports, r.params.nesting ≤ n := by
  rw [document, Json.nesting_ofMembers_le_iff (by simp [Dict.keys])]
  simp [Summary.nesting_toJson_le, Json.nesting_array_le_iff, nesting_toJson_le_iff]

/-- The document is read as it was written if the bindings of no report are deeper than the reader allows
    inside a report, and else not at all. -/
theorem parse?_renderDocument (hreports : ∀ r ∈ reports, r.IsRecordable)
    (hlength : reports.length < countLimit) :
    Json.parse? (renderDocument reports) =
      if ∀ r ∈ reports, r.params.nesting ≤ 124 then some (document reports) else none := by
  rw [renderDocument, Json.parse?_pretty (isExact_document hreports hlength)]
  simp only [nesting_document_le_iff]

/-- The document has its results and its summary under their names. -/
theorem get?_document (reports : List Report) :
    (document reports).get? "results" = some (.array (reports.map toJson)) ∧
      (document reports).get? "summary" = some (Summary.ofReports reports).toJson := by
  have hnames : (Dict.keys [("summary", (Summary.ofReports reports).toJson),
      ("results", Json.array (reports.map toJson))]).Nodup := by simp [Dict.keys]
  rw [document, Json.get?_ofMembers hnames, Json.get?_ofMembers hnames]
  exact ⟨rfl, rfl⟩

/-- The text of the document of a batch tells its reports, in their order, and the four counts of their
    summary, exactly if the bindings of no report have more than 124 arrays and objects open at once. -/
theorem renderDocument_told_iff (hreports : ∀ r ∈ reports, r.IsRecordable)
    (hlength : reports.length < countLimit) :
    (∀ r ∈ reports, r.params.nesting ≤ 124) ↔
      ∃ document results, Json.parse? (renderDocument reports) = some document ∧
        document.get? "results" = some results ∧ listOfJson? results = some reports ∧
        document.get? "summary" = some (.object
          [("errors", .int (Summary.ofReports reports).errors),
            ("matched", .int (Summary.ofReports reports).matched),
            ("rejected", .int (Summary.ofReports reports).rejected),
            ("total", .int (Summary.ofReports reports).total)]) := by
  obtain ⟨hresults, hsummary⟩ := get?_document reports
  rw [Summary.toJson_eq] at hsummary
  rw [parse?_renderDocument hreports hlength]
  constructor
  · intro hdeep
    exact ⟨_, _, if_pos hdeep, hresults, listOfJson?_map_toJson hreports, hsummary⟩
  · rintro ⟨document, results, hread, -⟩
    by_contra hdeep
    rw [if_neg hdeep] at hread
    cases hread

/-- A batch of one report with bindings, which is confirmed. -/
theorem renderDocument_told_iff_sample :
    boundReport.IsRecordable ∧ [boundReport].length < countLimit ∧
      ∃ document results, Json.parse? (renderDocument [boundReport]) = some document ∧
        document.get? "results" = some results ∧ listOfJson? results = some [boundReport] ∧
        document.get? "summary" = some (.object
          [("errors", .int 0), ("matched", .int 1), ("rejected", .int 0), ("total", .int 1)]) := by
  have hreports : ∀ r ∈ [boundReport], r.IsRecordable :=
    List.forall_mem_singleton.mpr isRecordable_boundReport
  have hlength : [boundReport].length < countLimit := by decide
  exact ⟨isRecordable_boundReport, hlength, (renderDocument_told_iff hreports hlength).mp (by decide)⟩

/-- One array more than the reader allows, and nothing of the document is told. -/
theorem renderDocument_not_told :
    { leapReport with params := nestedArrays 125 }.IsRecordable ∧
      Json.parse? (renderDocument [{ leapReport with params := nestedArrays 125 }]) = none := by
  have hreport := isRecordable_leapReport (isExact_nestedArrays 125)
  have hdeep : ¬ ∀ r ∈ [{ leapReport with params := nestedArrays 125 }], r.params.nesting ≤ 124 := by
    rw [List.forall_mem_singleton, nesting_nestedArrays]
    decide
  refine ⟨hreport, ?_⟩
  rw [parse?_renderDocument (List.forall_mem_singleton.mpr hreport) (by decide), if_neg hdeep]

end Whole

end Report

end VulnProbe
