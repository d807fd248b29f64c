import VulnProbe.Proofs.Config.NormalForm
import VulnProbe.Command.Batch

namespace VulnProbe

namespace Summary

variable {reports others : List Report}

private theorem foldl_count (s : Summary) (reports : List Report) :
    reports.foldl count s =
      ⟨s.total, s.matched + reports.countP (·.matched == some true),
        s.rejected + reports.countP (·.matched == some false),
        s.errors + reports.countP (·.matched.isNone)⟩ := by
  induction reports generalizing s with
  | nil => rfl
  | cons r reports ih =>
    rw [List.foldl_cons, ih, count]
    rcases hmatched : r.matched with _ | _ | _
    all_goals simp [hmatched, Nat.add_assoc, Nat.add_comm 1]

/-- A summary counts the reports, and those with either verdict and with none. -/
theorem ofReports_eq (reports : List Report) :
    ofReports reports =
      ⟨reports.length, reports.countP (·.matched == some true),
        reports.countP (·.matched == some false), reports.countP (·.matched.isNone)⟩ := by
  rw [ofReports, foldl_count]
  simp

/-- The order of the reports does not count. -/
theorem ofReports_perm (hperm : reports.Perm others) : ofReports reports = ofReports others := by
  simp only [ofReports_eq, hperm.length_eq, hperm.countP_eq]

/-- Every report is counted once. -/
theorem total_ofReports (reports : List Report) :
    (ofReports reports).total =
      (ofReports reports).matched + (ofReports reports).rejected + (ofReports reports).errors := by
  rw [ofReports_eq]
  induction reports with
  | nil => rfl
  | cons r reports ih =>
    rcases hmatched : r.matched with _ | _ | _
    all_goals
      simp only [List.length_cons, List.countP_cons, hmatched] at ih ⊢
      simp
      omega

end Summary

/-- A report tells of a definition, as it was loaded, and of a target: by the path of the definition, and
    by the target as it was given or, once there is a verdict, without its outer blanks. It has an error
    or a verdict and not both, and an error if the definition was not loaded. -/
structure Report.Tells (definition : String × Except Failure Poc) (target : String) (r : Report) :
    Prop where
  path : r.pocPath = definition.1
  target : r.target = if r.isError then target else Text.trim target
  verdict : r.isError = r.matched.isNone
  unloaded : ∀ f, definition.2 = .error f → r.isError = true

private theorem Report.tells_ofFailure (f : Failure) (name path target : String)
    (loaded : Except Failure Poc) (times : RunTimes) :
    Tells (path, loaded) target (.ofFailure f name path target times) :=
  ⟨rfl, rfl, rfl, fun _ _ => rfl⟩

/-- The report of a job tells of its definition and of its target. -/
theorem Job.tells_report (job : Job) (callbacks : Callbacks) (around : Surroundings)
    (times : RunTimes) :
    Report.Tells (job.path, job.poc) job.target (job.report callbacks around times) := by
  rw [report]
  cases hpoc : job.poc with
  | error f => exact Report.tells_ofFailure ..
  | ok poc =>
    dsimp only
    cases hresult : (poc.verify callbacks around.transport 0 job.target around.draws).result with
    | error f => exact Report.tells_ofFailure ..
    | ok o =>
      have htarget := (poc.verify_trims callbacks around.transport 0 job.target around.draws).1 o hresult
      refine ⟨rfl, htarget, rfl, ?_⟩
      rintro _ ⟨⟩

end VulnProbe
