import KubeDataGuard.Operator.OneJob

/-!
# The branches of a pass

What a pass finds under the names of its run decides what it does. In a
reachable state nothing stored under them fails to decode, so that a report is
either read or not there, and every Job goes by the names of its owner. Slots
are counted by a clock that starts at the epoch or later.
-/

namespace KubeDataGuard

open Runs

section Branches

variable (c : Cluster) (invariant : Unstructured)

/-- A pass, by what it read. -/
inductive Branch : Outcome → Prop
  | noRun (e : Error) (hrun : currentCheckRun invariant c.now = .error e) : Branch (.fail e)
  | unreadable (run : CheckRun) (duty : Duty) (e : Error)
      (hrun : currentCheckRun invariant c.now = .ok run)
      (read : statusFromReportConfigMap c invariant (duty.configMapName invariant.name run.id) run =
        .error e) : Branch (.fail e)
  | repaired (run : CheckRun) (status : Fields) (hrun : currentCheckRun invariant c.now = .ok run)
      (read : statusFromReportConfigMap c invariant (repairConfigMapName invariant.name run.id) run =
        .ok (some status)) :
      Branch (applyReport invariant (repairConfigMapName invariant.name run.id) status run)
  | unreported (run : CheckRun) (hrun : currentCheckRun invariant c.now = .ok run)
      (unrepaired : statusFromReportConfigMap c invariant
        (repairConfigMapName invariant.name run.id) run = .ok none)
      (absent : statusFromReportConfigMap c invariant
        (reportConfigMapName invariant.name run.id) run = .ok none) :
      Branch (reconcileCheckerJob c invariant run)
  | repairing (run : CheckRun) (status : Fields) (outcome : Outcome)
      (hrun : currentCheckRun invariant c.now = .ok run)
      (unrepaired : statusFromReportConfigMap c invariant
        (repairConfigMapName invariant.name run.id) run = .ok none)
      (read : statusFromReportConfigMap c invariant (reportConfigMapName invariant.name run.id) run =
        .ok (some status))
      (drift : stringField status "phase" = some "DriftDetected")
      (repair : reconcileRepairForDrift c invariant status
        (reportConfigMapName invariant.name run.id) run = some outcome) : Branch outcome
  | reported (run : CheckRun) (status : Fields) (hrun : currentCheckRun invariant c.now = .ok run)
      (unrepaired : statusFromReportConfigMap c invariant
        (repairConfigMapName invariant.name run.id) run = .ok none)
      (read : statusFromReportConfigMap c invariant (reportConfigMapName invariant.name run.id) run =
        .ok (some status))
      (calm : stringField status "phase" = some "DriftDetected" →
        reconcileRepairForDrift c invariant status (reportConfigMapName invariant.name run.id) run =
          none) :
      Branch (applyReport invariant (reportConfigMapName invariant.name run.id) status run)

theorem reconcile_branch : Branch c invariant (reconcileJobBackedInvariant c invariant) := by
  unfold reconcileJobBackedInvariant
  split
  · rename_i e hrun
    exact .noRun e hrun
  rename_i run hrun
  simp only
  split
  · rename_i e read
    exact .unreadable run .repair e hrun read
  · rename_i status read
    exact .repaired run status hrun read
  rename_i unrepaired
  split
  · rename_i e read
    exact .unreadable run .check e hrun read
  · rename_i absent
    exact .unreported run hrun unrepaired absent
  rename_i status read
  split
  · rename_i drift
    split
    · rename_i outcome repair
      exact .repairing run status outcome hrun unrepaired read drift repair
    · rename_i none
      exact .reported run status hrun unrepaired read fun _ => none
  · rename_i calm
    exact .reported run status hrun unrepaired read fun drift => absurd drift calm

end Branches

/-! ## What a reachable state lets a pass read -/

section Reads

variable {history : Past} {c : Cluster} {invariant : Unstructured} {run : CheckRun} {name : String}

/-- Enriching a report leaves its phase. -/
theorem enriched_phase (report : Fields) (now : Int) (run : CheckRun) :
    stringField (enrichScheduledStatus report now run) "phase" = stringField report "phase" := by
  unfold stringField
  rw [get?_enrichScheduledStatus _ _ _ (by decide)]

/-- Every stored ConfigMap decodes, so reading one never fails. -/
theorem report_read (reached : Run Fresh (Recorded Step) history c) (invariant : Unstructured)
    (name : String) (run : CheckRun) :
    ∃ status, statusFromReportConfigMap c invariant name run = .ok status := by
  cases stored : c.configMaps name with
  | none => exact ⟨none, statusFromReportConfigMap_absent stored⟩
  | some configMap =>
    obtain ⟨job, calls, scan, c₁, jobName, event, found, target, published⟩ :=
      configMap_publishedBy reached stored
    obtain ⟨report, healthy, decoded, -⟩ := published_reads published
    unfold statusFromReportConfigMap
    rw [stored]
    simp only
    split
    · rename_i empty
      rw [empty] at decoded
      cases decoded
    · rw [decoded]
      simp only
      split
      · exact ⟨none, rfl⟩
      split
      · exact ⟨none, rfl⟩
      · exact ⟨_, rfl⟩

theorem report_unread_iff (reached : Run Fresh (Recorded Step) history c) (id : run.id ≠ "") :
    statusFromReportConfigMap c invariant name run = .ok none ↔
      ¬Readable c name invariant.generation run.id := by
  constructor
  · rintro unread ⟨configMap, report, stored⟩
    rw [statusFromReportConfigMap_of_report stored] at unread
    cases unread
  · intro absent
    obtain ⟨status, read⟩ := report_read reached invariant name run
    cases status with
    | none => exact read
    | some status =>
      obtain ⟨configMap, report, stored, -⟩ := statusFromReportConfigMap_some id read
      exact absurd ⟨configMap, report, stored⟩ absent

end Reads

/-! ## Whose a Job is -/

/-- A Job is for the Invariant that owns it: its names are that Invariant's for its check ID. -/
structure JobOf (invariant : Unstructured) (k : String) (job : Job) : Prop where
  owner : job.ownerReferences = invariantOwnerReferences invariant
  named : k = job.duty.jobName invariant.name job.args.check.checkId
  configMap : job.args.configMap = job.duty.configMapName invariant.name job.args.check.checkId

section Owners

variable {history : Past} {c : Cluster} {k : String} {job : Job}

theorem job_owned (reached : Run Fresh (Recorded Step) history c) (h : c.jobs k = some job) :
    ∃ invariant, JobOf invariant k job := by
  have all : ∀ k job, c.jobs k = some job → ∃ invariant, JobOf invariant k job := by
    refine reached.recorded_invariant
      (I := fun _ c => ∀ k job, c.jobs k = some job → ∃ invariant, JobOf invariant k job) ?_ ?_
    · intro c fresh k job h
      rw [fresh.jobs k] at h
      cases h
    · intro history c e t _ ih step k job' h'
      obtain ⟨job, before, args, owners⟩ | ⟨name, writes, rfl, created, named⟩ := step_job step h'
      · obtain ⟨invariant, of⟩ := ih k job before
        have duty : job'.duty = job.duty := by rw [Job.duty, Job.duty, args]
        refine ⟨invariant, owners.trans of.owner, ?_, ?_⟩
        · rw [duty, args]
          exact of.named
        · rw [duty, args]
          exact of.configMap
      · obtain ⟨invariant, found, write⟩ := reconcile_write step created
        obtain ⟨run, made⟩ := write.created
        refine ⟨invariant, made.built.owner, ?_, ?_⟩
        · rw [← named, made.built.checkId]
          exact made.named
        · rw [made.built.checkId]
          exact made.built.configMap
  exact all k job h

/-- An owner's name decides the names. -/
theorem job_of (reached : Run Fresh (Recorded Step) history c) (h : c.jobs k = some job)
    {invariant : Unstructured} (owner : job.ownerReferences = invariantOwnerReferences invariant) :
    JobOf invariant k job := by
  obtain ⟨invariant', of⟩ := job_owned reached h
  have same := owner.symm.trans of.owner
  simp only [invariantOwnerReferences, List.cons.injEq, OwnerReference.mk.injEq] at same
  refine ⟨owner, ?_, ?_⟩
  · rw [same.1.2.1]
    exact of.named
  · rw [same.1.2.1]
    exact of.configMap

end Owners

/-! ## The clock -/

/-- A namespace as it starts out, with a clock that is not before the epoch. -/
structure Started (c : Cluster) : Prop extends Fresh c where
  clock : 0 ≤ c.now

section Clock

variable {history : Past} {c : Cluster}

theorem started_run (reached : Run Started (Recorded Step) history c) :
    Run Fresh (Recorded Step) history c := by
  induction reached with
  | start started => exact .start started.toFresh
  | next _ step ih => exact .next ih step

theorem started_clock (reached : Run Started (Recorded Step) history c) : 0 ≤ c.now := by
  refine reached.recorded_invariant (I := fun _ c => 0 ≤ c.now) ?_ ?_
  · exact fun c started => started.clock
  · intro history c e t _ clock step
    exact le_trans clock (step_now step)

end Clock

end KubeDataGuard
