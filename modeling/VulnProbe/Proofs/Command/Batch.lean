import Mathlib.Data.List.Perm.Basic
import Mathlib.Data.List.ProdSigma
import Mathlib.Logic.Relation
import VulnProbe.Proofs.Report.Summary

namespace VulnProbe

/-- Jobs in progress: those that have not started, those that run, and those that are complete, in the
    order in which they completed. -/
structure Batch (α : Type) where
  waiting : List α
  running : List α
  complete : List α

namespace Batch

variable {α : Type} {workers : Nat} {b later : Batch α} {given : List α}

/-- What may happen in a batch: the next job starts, if one of the workers is free, or any of the jobs
    that run completes. -/
inductive Step (workers : Nat) : Batch α → Batch α → Prop where
  | start {job : α} {waiting running complete : List α} (hfree : running.length < workers) :
      Step workers ⟨job :: waiting, running, complete⟩ ⟨waiting, running ++ [job], complete⟩
  | finish {job : α} {waiting before after complete : List α} :
      Step workers ⟨waiting, before ++ job :: after, complete⟩
        ⟨waiting, before ++ after, complete ++ [job]⟩

/-- A batch comes to another one in some steps. -/
def Reaches (workers : Nat) : Batch α → Batch α → Prop :=
  Relation.ReflTransGen (Step workers)

/-- A batch in which nothing can happen any more. -/
def Halted (workers : Nat) (b : Batch α) : Prop :=
  ∀ later, ¬ Step workers b later

/-- A batch of which no job has started. -/
def ofJobs (given : List α) : Batch α :=
  ⟨given, [], []⟩

/-- All jobs of a batch. -/
def jobs (b : Batch α) : List α :=
  b.complete ++ b.running ++ b.waiting

/-- The number of steps to come: a job that waits has still to start and to complete. -/
def stepsLeft (b : Batch α) : Nat :=
  2 * b.waiting.length + b.running.length

private theorem Step.jobs_perm (hstep : Step workers b later) : later.jobs.Perm b.jobs := by
  cases hstep with
  | start => simp [jobs]
  | @finish job waiting before after complete =>
    have hperm : (job :: (before ++ after)).Perm (before ++ job :: after) := List.perm_middle.symm
    simpa [jobs] using (hperm.append_left complete).append_right waiting

private theorem Step.stepsLeft_eq (hstep : Step workers b later) : later.stepsLeft + 1 = b.stepsLeft := by
  cases hstep with
  | start =>
    simp only [stepsLeft, List.length_cons, List.length_append, List.length_nil]
    omega
  | finish =>
    simp only [stepsLeft, List.length_cons, List.length_append]
    omega

/-- The jobs of a batch stay the same. -/
theorem Reaches.jobs_perm (hreaches : Reaches workers b later) : later.jobs.Perm b.jobs := by
  induction hreaches with
  | refl => exact .refl _
  | tail _ hstep ih => exact hstep.jobs_perm.trans ih

/-- No batch goes on for ever. -/
theorem wellFounded_step (workers : Nat) :
    WellFounded fun later b : Batch α => Step workers b later := by
  refine Subrelation.wf (fun {later b} hstep => ?_) (measure (stepsLeft (α := α))).wf
  have hleft := Step.stepsLeft_eq hstep
  change later.stepsLeft < b.stepsLeft
  omega

/-- With a worker, a batch halts only when all of its jobs are complete. -/
theorem eq_of_halted (hworkers : 0 < workers) (hhalted : Halted workers b) :
    b.waiting = [] ∧ b.running = [] := by
  obtain ⟨waiting, running, complete⟩ := b
  cases running with
  | cons job running => exact absurd (@Step.finish _ _ job waiting [] running complete) (hhalted _)
  | nil =>
    cases waiting with
    | cons job waiting => exact absurd (.start hworkers) (hhalted _)
    | nil => exact ⟨rfl, rfl⟩

private theorem complete_perm_of_halted (hworkers : 0 < workers) (hreaches : Reaches workers (ofJobs given) b)
    (hhalted : Halted workers b) : b.complete.Perm given := by
  obtain ⟨hwaiting, hrunning⟩ := eq_of_halted hworkers hhalted
  simpa [jobs, ofJobs, hwaiting, hrunning] using hreaches.jobs_perm

private theorem halted_of_complete (complete : List α) : Halted workers ⟨[], [], complete⟩ := by
  intro later hstep
  have hleft : later.stepsLeft + 1 = 0 := hstep.stepsLeft_eq
  omega

/-- The jobs may complete in the order in which they start. -/
theorem reaches_in_order (hworkers : 0 < workers) (waiting complete : List α) :
    Reaches workers ⟨waiting, [], complete⟩ ⟨[], [], complete ++ waiting⟩ := by
  induction waiting generalizing complete with
  | nil =>
    rw [List.append_nil]
    exact .refl
  | cons job waiting ih =>
    have hstart : Step workers ⟨job :: waiting, [], complete⟩ ⟨waiting, [] ++ [job], complete⟩ :=
      .start hworkers
    have hfinish : Step workers ⟨waiting, [] ++ [job], complete⟩ ⟨waiting, [], complete ++ [job]⟩ :=
      @Step.finish _ _ job waiting [] [] complete
    have hrest := ih (complete ++ [job])
    rw [List.append_assoc, List.singleton_append] at hrest
    exact .head hstart (.head hfinish hrest)

end Batch

namespace Job

/-- The report of a numbered job, each in surroundings of its own. -/
def reportIn (settings : Settings) (around : Nat → Surroundings) (job : Job × Nat) : Report :=
  job.1.numberedReport settings (around job.2) job.2

variable {definitions : List (String × Except Failure Poc)} {targets : List String}
  {settings : Settings} {around : Nat → Surroundings}

private theorem all_eq_map_product (definitions : List (String × Except Failure Poc))
    (targets : List String) :
    all definitions targets = (definitions ×ˢ targets).map fun p => ⟨p.1.1, p.1.2, p.2⟩ := by
  simp only [all, SProd.sprod, List.product, List.map_flatMap, List.map_map]
  rfl

private theorem tells_reportIn (job : Job × Nat) :
    Report.Tells (job.1.path, job.1.poc) job.1.target (reportIn settings around job) :=
  tells_report ..

end Job

/-- What the reports of a batch account for. They tell, one each, of every definition with every target;
    their summary counts each of them once, by its verdict or as an error; and a path of which no definition
    was loaded has an error for each target. -/
structure Accounts (definitions : List (String × Except Failure Poc)) (targets : List String)
    (reports : List Report) : Prop where
  pairs : ∃ pairs, pairs.Perm (definitions ×ˢ targets) ∧
    List.Forall₂ (fun pair r => Report.Tells pair.1 pair.2 r) pairs reports
  total : (Summary.ofReports reports).total = definitions.length * targets.length
  parts : (Summary.ofReports reports).total = (Summary.ofReports reports).matched +
    (Summary.ofReports reports).rejected + (Summary.ofReports reports).errors
  matched : (Summary.ofReports reports).matched = reports.countP (·.isMatch)
  errors : (Summary.ofReports reports).errors = reports.countP (·.isError)
  unloaded : ∀ path, (∀ definition ∈ definitions, definition.1 = path → ∃ f, definition.2 = .error f) →
    reports.countP (fun r => r.pocPath = path && r.isError) =
      (definitions.map (·.1)).count path * targets.length

section Accounting

variable {definitions : List (String × Except Failure Poc)} {targets : List String}
  {pairs : List ((String × Except Failure Poc) × String)} {reports : List Report}

private theorem countP_path_product (definitions : List (String × Except Failure Poc)) (targets : List String)
    (path : String) :
    (definitions ×ˢ targets).countP (fun pair => pair.1.1 = path) =
      (definitions.map (·.1)).count path * targets.length := by
  induction definitions with
  | nil => simp
  | cons definition definitions ih =>
    rw [List.product_cons, List.countP_append, List.countP_map, ih, List.map_cons, List.count_cons]
    by_cases hpath : definition.1 = path
    · simp [Function.comp_def, hpath, Nat.add_mul, Nat.add_comm]
    · simp [Function.comp_def, hpath]

private theorem countP_isError_of_tells
    (htells : List.Forall₂ (fun pair r => Report.Tells pair.1 pair.2 r) pairs reports) :
    reports.countP (·.matched.isNone) = reports.countP (·.isError) := by
  induction htells with
  | nil => rfl
  | cons hr _ ih => rw [List.countP_cons, List.countP_cons, ih, hr.verdict]

/-- The errors of a path of which no definition was loaded are the reports that tell of it. -/
theorem countP_unloaded_of_tells
    (htells : List.Forall₂ (fun pair r => Report.Tells pair.1 pair.2 r) pairs reports) {path : String}
    (hpath : ∀ pair ∈ pairs, pair.1.1 = path → ∃ f, pair.1.2 = .error f) :
    reports.countP (fun r => r.pocPath = path && r.isError) =
      pairs.countP fun pair => pair.1.1 = path := by
  induction htells with
  | nil => rfl
  | @cons pair r pairs reports hr _ ih =>
    obtain ⟨hfirst, hpath⟩ := List.forall_mem_cons.mp hpath
    rw [List.countP_cons, List.countP_cons, ih hpath, hr.path]
    by_cases hsame : pair.1.1 = path
    · obtain ⟨f, hf⟩ := hfirst hsame
      simp [hsame, hr.unloaded f hf]
    · simp [hsame]

private theorem accounts_of_tells (hpairs : pairs.Perm (definitions ×ˢ targets))
    (htells : List.Forall₂ (fun pair r => Report.Tells pair.1 pair.2 r) pairs reports) :
    Accounts definitions targets reports where
  pairs := ⟨pairs, hpairs, htells⟩
  total := by
    rw [Summary.ofReports_eq]
    exact htells.length_eq.symm.trans (hpairs.length_eq.trans (List.length_product _ _))
  parts := Summary.total_ofReports reports
  matched := by
    rw [Summary.ofReports_eq]
    rfl
  errors := by
    rw [Summary.ofReports_eq]
    exact countP_isError_of_tells htells
  unloaded := by
    intro path hpath
    rw [countP_unloaded_of_tells htells, hpairs.countP_eq, countP_path_product]
    intro pair hpair
    exact hpath pair.1 (List.mem_product.mp (hpairs.mem_iff.mp hpair)).1

end Accounting

/-- The reports of the jobs in any order account for all definitions and targets. -/
theorem Job.accounts_of_perm {definitions : List (String × Except Failure Poc)} {targets : List String}
    (settings : Settings) (around : Nat → Surroundings) {complete : List (Job × Nat)}
    (hcomplete : complete.Perm (all definitions targets).zipIdx) :
    Accounts definitions targets (complete.map (reportIn settings around)) := by
  let pairOf (job : Job × Nat) := ((job.1.path, job.1.poc), job.1.target)
  have hpairs : (complete.map pairOf).Perm (definitions ×ˢ targets) := by
    have hjobs := hcomplete.map pairOf
    have hmap : (all definitions targets).zipIdx.map pairOf = definitions ×ˢ targets := by
      have hfst : pairOf = (fun job : Job => ((job.path, job.poc), job.target)) ∘ Prod.fst := rfl
      rw [hfst, ← List.map_map, List.zipIdx_map_fst, all_eq_map_product, List.map_map]
      exact List.map_id _
    rwa [hmap] at hjobs
  refine accounts_of_tells hpairs ?_
  rw [List.forall₂_map_left_iff, List.forall₂_map_right_iff, List.forall₂_same]
  exact fun job _ => tells_reportIn job

namespace BatchOptions

open Files (Disk)

variable {o : BatchOptions} {disk : Disk} {settings : Settings} {jobs : List Job}

private theorem workers_pos_of_resolve {given : Overrides} {config : Config}
    (hsettings : Settings.resolve given config = .ok settings) : 0 < settings.workers := by
  unfold Settings.resolve at hsettings
  dsimp only at hsettings
  split at hsettings <;> cases hsettings
  exact Nat.pos_of_ne_zero ‹_›

/-- A batch has a worker, and a job for each file that was discovered and each target. -/
theorem prepare_eq_ok (hprepare : o.prepare disk = .ok (settings, jobs)) :
    0 < settings.workers ∧ ∃ paths targets, Poc.discover disk o.location = .ok paths ∧
      Target.collect disk o.targets o.targetsFile = .ok targets ∧
      jobs = Job.all (paths.map fun path => (path, Poc.load disk path)) targets := by
  have hconfig : ∃ config : Config, (do
      let settings ← Settings.resolve o.overrides config
      let paths ← Poc.discover disk o.location
      let targets ← Target.collect disk o.targets o.targetsFile
      if isHeaderValue settings.userAgent then
        .ok (settings, Job.all (paths.map fun path => (path, Poc.load disk path)) targets)
      else .error (.config .badUserAgent)) = .ok (settings, jobs) := by
    rw [prepare] at hprepare
    split at hprepare
    · obtain ⟨config, -, hprepare⟩ := bind_eq_ok_iff.mp hprepare
      exact ⟨config, hprepare⟩
    · exact ⟨.empty, hprepare⟩
  obtain ⟨config, hprepare⟩ := hconfig
  obtain ⟨_, hsettings, hprepare⟩ := bind_eq_ok_iff.mp hprepare
  obtain ⟨paths, hpaths, hprepare⟩ := bind_eq_ok_iff.mp hprepare
  obtain ⟨targets, htargets, hprepare⟩ := bind_eq_ok_iff.mp hprepare
  split at hprepare <;> cases hprepare
  exact ⟨workers_pos_of_resolve hsettings, paths, targets, hpaths, htargets, rfl⟩

private theorem run_of_prepare (hprepare : o.prepare disk = .ok (settings, jobs)) (quiet hasColor : Bool)
    (around : Surroundings) :
    o.run quiet hasColor disk around =
      o.present quiet hasColor disk (jobs.zipIdx.map (Job.reportIn settings fun _ => around)) := by
  rw [run, hprepare]
  dsimp only
  rw [List.mapIdx_eq_zipIdx_map]
  rfl

/-- A batch that is prepared has the files that were discovered as its definitions, loaded or not, and the
    targets that were collected. Whatever each job meets, and in whatever order the jobs complete: the batch
    does not go on for ever, it halts only when every job is complete, and then its reports account for all
    definitions and targets, with a summary that is the same for every order. One of these orders is that in
    which the batch is run. -/
theorem accounts_of_prepare (hprepare : o.prepare disk = .ok (settings, jobs))
    (around : Nat → Surroundings) :
    ∃ paths targets, Poc.discover disk o.location = .ok paths ∧
      Target.collect disk o.targets o.targetsFile = .ok targets ∧
      WellFounded (fun later b : Batch (Job × Nat) => Batch.Step settings.workers b later) ∧
      (∀ b, Batch.Reaches settings.workers (.ofJobs jobs.zipIdx) b → Batch.Halted settings.workers b →
        b.waiting = [] ∧ b.running = [] ∧
        Accounts (paths.map fun path => (path, Poc.load disk path)) targets
          (b.complete.map (Job.reportIn settings around)) ∧
        ∀ other, Batch.Reaches settings.workers (.ofJobs jobs.zipIdx) other →
          Batch.Halted settings.workers other →
          Summary.ofReports (other.complete.map (Job.reportIn settings around)) =
            Summary.ofReports (b.complete.map (Job.reportIn settings around))) ∧
      ∀ quiet hasColor once, ∃ b, Batch.Reaches settings.workers (.ofJobs jobs.zipIdx) b ∧
        Batch.Halted settings.workers b ∧
        o.run quiet hasColor disk once =
          o.present quiet hasColor disk (b.complete.map (Job.reportIn settings fun _ => once)) := by
  obtain ⟨hworkers, paths, targets, hpaths, htargets, rfl⟩ := prepare_eq_ok hprepare
  refine ⟨paths, targets, hpaths, htargets, Batch.wellFounded_step _, ?_, ?_⟩
  · intro b hreaches hhalted
    obtain ⟨hwaiting, hrunning⟩ := Batch.eq_of_halted hworkers hhalted
    have hcomplete := Batch.complete_perm_of_halted hworkers hreaches hhalted
    refine ⟨hwaiting, hrunning, Job.accounts_of_perm settings around hcomplete, ?_⟩
    intro other hother hotherHalted
    have hsame := (Batch.complete_perm_of_halted hworkers hother hotherHalted).trans hcomplete.symm
    exact Summary.ofReports_perm (hsame.map _)
  · intro quiet hasColor once
    refine ⟨_, Batch.reaches_in_order hworkers _ [], Batch.halted_of_complete _, ?_⟩
    exact run_of_prepare hprepare quiet hasColor once

/-- An empty file, which holds no definition, and two targets, with two jobs at a time: there are two
    errors. -/
theorem accounts_of_prepare_sample :
    let disk : Disk := ⟨[("pocs", .directory [("a.yml", .file [])])], []⟩
    let o : BatchOptions := ⟨"pocs", ["http://[::1]", "http://[::2]/"], none, none,
      ⟨none, none, some 2⟩, true, none⟩
    let settings : Settings := ⟨none, defaultUserAgent, 2⟩
    let definitions := ["pocs/a.yml"].map fun path => (path, Poc.load disk path)
    let jobs := Job.all definitions ["http://[::1]", "http://[::2]"]
    o.prepare disk = .ok (settings, jobs) ∧
      ∀ around b, Batch.Reaches 2 (.ofJobs jobs.zipIdx) b → Batch.Halted 2 b →
        let s := Summary.ofReports (b.complete.map (Job.reportIn settings around))
        s.total = 2 ∧ s.errors = 2 := by
  intro disk o settings definitions jobs
  have hpaths : Poc.discover disk "pocs" = .ok ["pocs/a.yml"] := by
    decide +kernel +zetaReduce
  have htargets : Target.collect disk o.targets none = .ok ["http://[::1]", "http://[::2]"] := by
    decide
  have hagent : isHeaderValue defaultUserAgent = true := by decide
  have hprepare : o.prepare disk = .ok (settings, jobs) := by
    change (do
      let paths ← Poc.discover disk "pocs"
      let targets ← Target.collect disk o.targets none
      if isHeaderValue defaultUserAgent then
        .ok (settings, Job.all (paths.map fun path => (path, Poc.load disk path)) targets)
      else .error (.config .badUserAgent)) = _
    rw [hpaths, htargets, hagent]
    rfl
  refine ⟨hprepare, fun around b hreaches hhalted => ?_⟩
  obtain ⟨paths, targets, hpaths', htargets', -, hall, -⟩ := accounts_of_prepare hprepare around
  obtain rfl := Except.ok.inj (hpaths.symm.trans hpaths')
  obtain rfl := Except.ok.inj (htargets.symm.trans htargets')
  obtain ⟨-, -, haccounts, -⟩ := hall b hreaches hhalted
  have hload : (Poc.load disk "pocs/a.yml").isOk = false := by decide +kernel +zetaReduce
  have hfails : ∃ f, Poc.load disk "pocs/a.yml" = .error f := by
    cases hresult : Poc.load disk "pocs/a.yml" with
    | error f => exact ⟨f, rfl⟩
    | ok poc => cases (hresult ▸ hload : (Except.ok poc : Except Failure Poc).isOk = false)
  have hunloaded := haccounts.unloaded "pocs/a.yml" fun definition hmem _ => by
    rwa [List.mem_singleton.mp hmem]
  have herrors : 2 ≤ (Summary.ofReports (b.complete.map (Job.reportIn settings around))).errors := by
    rw [haccounts.errors]
    refine hunloaded.symm.le.trans (List.countP_mono_left fun r _ hr => ?_)
    exact (Bool.and_eq_true_iff.mp hr).2
  have htotal := haccounts.total
  have hparts := haccounts.parts
  simp only [List.length_map, List.length_cons, List.length_nil] at htotal
  omega

end BatchOptions

end VulnProbe
