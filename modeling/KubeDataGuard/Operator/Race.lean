import KubeDataGuard.Operator.ScheduledCheck

/-!
# Passes in steps

A pass reads the repair ConfigMap, the report ConfigMap and the Job one after
the other, and then writes; workers publish and Jobs finish in between. A
status that says a Job ended without a report is right unless the report landed
after its ConfigMap was read and before the Job was.
-/

namespace KubeDataGuard

open Runs

/-- `reconcileJobBackedInvariant` once both ConfigMaps are read. -/
def reconcileReports (c : Cluster) (invariant : Unstructured) (run : CheckRun)
    (repairRead reportRead : Except Error (Option Fields)) : Outcome :=
  match repairRead with
  | .error e => .fail e
  | .ok (some repairStatus) =>
    applyReport invariant (repairConfigMapName invariant.name run.id) repairStatus run
  | .ok none =>
    match reportRead with
    | .error e => .fail e
    | .ok none => reconcileCheckerJob c invariant run
    | .ok (some status) =>
      if stringField status "phase" = some "DriftDetected" then
        match reconcileRepairForDrift c invariant status
            (reportConfigMapName invariant.name run.id) run with
        | some outcome => outcome
        | none => applyReport invariant (reportConfigMapName invariant.name run.id) status run
      else applyReport invariant (reportConfigMapName invariant.name run.id) status run

def readConfigMap (c : Cluster) (invariant : Unstructured) (run : CheckRun) (duty : Duty) :
    Except Error (Option Fields) :=
  statusFromReportConfigMap c invariant (duty.configMapName invariant.name run.id) run

/-- A pass that nothing comes between is the pass of one instant. -/
theorem reconcileReports_at_once {c : Cluster} {invariant : Unstructured} {run : CheckRun}
    (hrun : currentCheckRun invariant c.now = .ok run) :
    reconcileReports c invariant run (readConfigMap c invariant run .repair)
      (readConfigMap c invariant run .check) = reconcileJobBackedInvariant c invariant := by
  unfold reconcileJobBackedInvariant
  rw [hrun]
  rfl

/-- How far a pass has come, with what it has read. -/
inductive Pass
  | begun (invariant : Unstructured) (run : CheckRun)
  | repairRead (invariant : Unstructured) (run : CheckRun) (repair : Except Error (Option Fields))
  | reportRead (invariant : Unstructured) (run : CheckRun) (repair report : Except Error (Option Fields))
  | writing (invariant : Unstructured) (run : CheckRun) (writes : List Write)

/-- The namespace and the operator, which works on one Invariant at a time. -/
structure Operating where
  cluster : Cluster
  pass : Option Pass := none

inductive Action
  | begin (name : String)
  | readRepair
  | readReport
  | readJob
  | write
  | stop
  | outside (event : Event)

/-- What happens besides the operator's passes. -/
def Event.outside : Event → Prop
  | .reconcile _ _ => False
  | _ => True

inductive Operate : Operating → Action → Operating → Prop
  | begin (c : Cluster) (name : String) (invariant : Unstructured) (run : CheckRun)
      (found : c.invariant name = some invariant) (mode : checkerMode invariant = "job")
      (hrun : currentCheckRun invariant c.now = .ok run) :
      Operate ⟨c, none⟩ (.begin name) ⟨c, some (.begun invariant run)⟩
  | readRepair (c : Cluster) (invariant : Unstructured) (run : CheckRun) :
      Operate ⟨c, some (.begun invariant run)⟩ .readRepair
        ⟨c, some (.repairRead invariant run (readConfigMap c invariant run .repair))⟩
  | readReport (c : Cluster) (invariant : Unstructured) (run : CheckRun)
      (repair : Except Error (Option Fields)) :
      Operate ⟨c, some (.repairRead invariant run repair)⟩ .readReport
        ⟨c, some (.reportRead invariant run repair (readConfigMap c invariant run .check))⟩
  | readJob (c : Cluster) (invariant : Unstructured) (run : CheckRun)
      (repair report : Except Error (Option Fields)) :
      Operate ⟨c, some (.reportRead invariant run repair report)⟩ .readJob
        ⟨c, some (.writing invariant run (reconcileReports c invariant run repair report).writes)⟩
  | write (c : Cluster) (invariant : Unstructured) (run : CheckRun) (w : Write) (writes : List Write) :
      Operate ⟨c, some (.writing invariant run (w :: writes))⟩ .write
        ⟨c.apply invariant.name w, some (.writing invariant run writes)⟩
  -- a pass ends, or fails on the way
  | stop (c : Cluster) (pass : Pass) : Operate ⟨c, some pass⟩ .stop ⟨c, none⟩
  | outside (c t : Cluster) (pass : Option Pass) (event : Event) (other : event.outside)
      (step : Step c event t) : Operate ⟨c, pass⟩ (.outside event) ⟨t, pass⟩

def Idling (s : Operating) : Prop := Started s.cluster ∧ s.pass = none

/-! ## What a status says of a Job -/

def Duty.failedPhase : Duty → String
  | .check => "CheckFailed"
  | .repair => "RepairFailed"

/-- The status says that the duty's Job failed or completed without a report. -/
def Blames (duty : Duty) : Write → Prop
  | .patchStatus .built status => stringField status "phase" = some duty.failedPhase
  | _ => False

section Blame

variable {c : Cluster} {invariant : Unstructured} {run : CheckRun} {duty : Duty} {w : Write}

/-- A built status blames by its phase. -/
theorem Blames.phase {status : Fields} {phase : String} (h : Blames duty (.patchStatus .built status))
    (shown : stringField status "phase" = some phase) : phase = duty.failedPhase :=
  Option.some.inj (shown.symm.trans h)

theorem rbac_blames {serviceAccountName : String}
    (mem : w ∈ ensureCheckerRBAC c serviceAccountName) : ¬Blames duty w := by
  obtain rfl | rfl | rfl := mem_ensureCheckerRBAC mem <;> exact id

theorem failedPhase_inj {own : Duty} (h : own.failedPhase = duty.failedPhase) : duty = own := by
  cases own <;> cases duty
  · rfl
  · exact absurd h (by decide)
  · exact absurd h (by decide)
  · rfl

/-- What both halves make of a Job that is there. -/
def jobOutcome (job : Job) (failed complete : Fields) (running : List Write)
    (ended unended : Except Error Requeue) : Outcome :=
  if jobFailed job then ⟨[.patchStatus .built failed], ended⟩
  else if jobComplete job then ⟨[.patchStatus .built complete], ended⟩
  else ⟨running, unended⟩

/-- A Job that is there is blamed only when it has ended, and no other Job is made then. -/
theorem jobOutcome_blames (own : Duty) {account : String} {job : Job} {failed complete : Fields}
    {running : List Write} {ended unended : Except Error Requeue}
    (failedPhase : stringField failed "phase" = some own.failedPhase)
    (completePhase : stringField complete "phase" = some own.failedPhase)
    (calm : w ∈ running → ¬Blames duty w)
    (mem : w ∈ (Outcome.after (ensureCheckerRBAC c account)
      (jobOutcome job failed complete running ended unended)).writes) (h : Blames duty w) :
    duty = own ∧ (jobFailed job = true ∨ jobComplete job = true) ∧
      createdJobs (Outcome.after (ensureCheckerRBAC c account)
        (jobOutcome job failed complete running ended unended)).writes = [] := by
  have alone : ∀ status,
      createdJobs (ensureCheckerRBAC c account ++ [.patchStatus .built status]) = [] := by
    intro status
    rw [createdJobs_append, createdJobs_rbac]
    rfl
  unfold jobOutcome Outcome.after at mem ⊢
  replace mem := (List.mem_append.mp mem).resolve_left fun rbac => rbac_blames rbac h
  by_cases hfailed : jobFailed job = true
  · rw [if_pos hfailed] at mem ⊢
    rw [List.mem_singleton.mp mem] at h
    exact ⟨failedPhase_inj (h.phase failedPhase), Or.inl hfailed, alone failed⟩
  rw [if_neg hfailed] at mem ⊢
  by_cases hcomplete : jobComplete job = true
  · rw [if_pos hcomplete] at mem ⊢
    rw [List.mem_singleton.mp mem] at h
    exact ⟨failedPhase_inj (h.phase completePhase), Or.inr hcomplete, alone complete⟩
  · rw [if_neg hcomplete] at mem
    exact absurd h (calm mem)

/-- The duty's Job was found over by a pass that makes none itself. -/
structure FoundOver (c : Cluster) (invariant : Unstructured) (run : CheckRun) (duty : Duty)
    (writes : List Write) : Prop where
  ended : ∃ job, c.jobs (duty.jobName invariant.name run.id) = some job ∧
    (jobFailed job = true ∨ jobComplete job = true)
  alone : createdJobs writes = []

theorem applyReport_blames {name : String} {status : Fields}
    (mem : w ∈ (applyReport invariant name status run).writes) : ¬Blames duty w := by
  unfold applyReport at mem
  split at mem
  · cases mem
  · rw [List.mem_singleton.mp mem]
    exact nofun

theorem running_blames {jobName : String}
    (mem : w ∈ (if shouldPatchCheckerRunningStatus invariant then
      [Write.patchStatus .built (buildJobRunningStatus invariant c.now run jobName)] else [])) :
    ¬Blames duty w := by
  split at mem
  · rw [List.mem_singleton.mp mem]
    intro h
    have phase := h.phase (lifecycleStatus_phase _ _ _ _ _)
    cases duty <;> exact absurd phase (by decide)
  · cases mem

theorem reconcileCheckerJob_blames (mem : w ∈ (reconcileCheckerJob c invariant run).writes)
    (h : Blames duty w) : duty = .check ∧
      FoundOver c invariant run .check (reconcileCheckerJob c invariant run).writes := by
  unfold reconcileCheckerJob at mem ⊢
  cases found : c.jobs (checkerJobName invariant.name run.id) with
  | none =>
    simp only [found, Outcome.after] at mem
    replace mem := (List.mem_append.mp mem).resolve_left fun rbac => rbac_blames rbac h
    split at mem
    · cases mem
    split at mem
    · cases mem
    obtain rfl | running := List.mem_cons.mp mem
    · exact h.elim
    · exact absurd h (running_blames running)
  | some job =>
    simp only [found] at mem ⊢
    obtain ⟨own, ended, alone⟩ := jobOutcome_blames .check
      (checkerFailure_phase _ _ _ _ _ _) (lifecycleStatus_phase _ _ _ _ _) running_blames mem h
    exact ⟨own, ⟨job, found, ended⟩, alone⟩

theorem reconcileRepairForDrift_blames {status : Fields} {source : String} {outcome : Outcome}
    (repair : reconcileRepairForDrift c invariant status source run = some outcome)
    (mem : w ∈ outcome.writes) (h : Blames duty w) :
    duty = .repair ∧ FoundOver c invariant run .repair outcome.writes := by
  have running : ∀ driftCount, ¬Blames duty (.patchStatus .built (buildRepairRunningStatus invariant
      c.now run (repairJobName invariant.name run.id) driftCount)) := by
    intro driftCount h
    have phase : "Repairing" = duty.failedPhase := h.phase (lifecycleStatus_phase _ _ _ _ _)
    cases duty <;> exact absurd phase (by decide)
  unfold reconcileRepairForDrift at repair
  split at repair
  · rw [← Option.some.inj repair] at mem
    cases mem
  · cases repair
  rw [← Option.some.inj repair] at mem ⊢
  cases found : c.jobs (repairJobName invariant.name run.id) with
  | none =>
    simp only [found, Outcome.after] at mem
    replace mem := (List.mem_append.mp mem).resolve_left fun rbac => rbac_blames rbac h
    split at mem
    · cases mem
    split at mem
    · cases mem
    obtain rfl | mem := List.mem_cons.mp mem
    · exact h.elim
    · rw [List.mem_singleton.mp mem] at h
      exact absurd h (running _)
  | some job =>
    simp only [found] at mem ⊢
    obtain ⟨own, ended, alone⟩ := jobOutcome_blames .repair
      (repairFailure_phase _ _ _ _ _ _ _) (lifecycleStatus_phase _ _ _ _ _)
      (fun mem => List.mem_singleton.mp mem ▸ running _) mem h
    exact ⟨own, ⟨job, found, ended⟩, alone⟩

/-- What the pass had read of a duty's report. -/
def Duty.readOf (repair report : Except Error (Option Fields)) : Duty → Except Error (Option Fields)
  | .check => report
  | .repair => repair

/-- A status that blames a Job was decided on a report not found and a Job found over. -/
theorem reconcileReports_blames {repair report : Except Error (Option Fields)}
    (mem : w ∈ (reconcileReports c invariant run repair report).writes) (h : Blames duty w) :
    duty.readOf repair report = .ok none ∧
      FoundOver c invariant run duty (reconcileReports c invariant run repair report).writes := by
  unfold reconcileReports at mem ⊢
  split at mem
  · cases mem
  · exact absurd h (applyReport_blames mem)
  split at mem
  · cases mem
  · obtain ⟨rfl, ended⟩ := reconcileCheckerJob_blames mem h
    exact ⟨rfl, ended⟩
  split at mem
  · rename_i drift
    split at mem
    · rename_i outcome taken
      obtain ⟨rfl, ended⟩ := reconcileRepairForDrift_blames taken mem h
      refine ⟨rfl, ?_⟩
      rw [if_pos drift]
      exact ended
    · exact absurd h (applyReport_blames mem)
  · exact absurd h (applyReport_blames mem)

theorem rbac_creates {serviceAccountName : String} {job : Job} :
    .createJob job ∉ ensureCheckerRBAC c serviceAccountName := by
  rw [← mem_createdJobs, createdJobs_rbac]
  exact List.not_mem_nil

theorem applyReport_creates {name : String} {status : Fields} {job : Job} :
    .createJob job ∉ (applyReport invariant name status run).writes := by
  rw [← mem_createdJobs, createdJobs_applyReport]
  exact List.not_mem_nil

theorem running_creates {status : Fields} {job : Job} :
    .createJob job ∉ (if shouldPatchCheckerRunningStatus invariant then
      [Write.patchStatus .built status] else []) := by
  rw [← mem_createdJobs, createdJobs_running]
  exact List.not_mem_nil

/-- A Job starts out unfinished. -/
theorem reconcileCheckerJob_created {job : Job}
    (mem : .createJob job ∈ (reconcileCheckerJob c invariant run).writes) : job.conditions = [] := by
  unfold reconcileCheckerJob at mem
  replace mem := (List.mem_append.mp mem).resolve_left rbac_creates
  split at mem
  · split at mem
    · cases mem
    split at mem
    · cases mem
    rename_i made built
    obtain same | mem := List.mem_cons.mp mem
    · rw [Write.createJob.inj same]
      exact (buildCheckerJobWithEnv_ok built).1.unfinished
    · exact absurd mem running_creates
  · split at mem
    · exact nomatch List.mem_singleton.mp mem
    split at mem
    · exact nomatch List.mem_singleton.mp mem
    · exact absurd mem running_creates

theorem reconcileRepairForDrift_created {status : Fields} {source : String} {outcome : Outcome}
    {job : Job} (repair : reconcileRepairForDrift c invariant status source run = some outcome)
    (mem : .createJob job ∈ outcome.writes) : job.conditions = [] := by
  unfold reconcileRepairForDrift at repair
  split at repair
  · rw [← Option.some.inj repair] at mem
    cases mem
  · cases repair
  rw [← Option.some.inj repair] at mem
  replace mem := (List.mem_append.mp mem).resolve_left rbac_creates
  split at mem
  · split at mem
    · cases mem
    split at mem
    · cases mem
    rename_i made built
    obtain same | mem := List.mem_cons.mp mem
    · rw [Write.createJob.inj same]
      exact (buildRepairJobWithEnv_ok built).1.unfinished
    · exact nomatch List.mem_singleton.mp mem
  · split at mem
    · exact nomatch List.mem_singleton.mp mem
    split at mem
    · exact nomatch List.mem_singleton.mp mem
    · exact nomatch List.mem_singleton.mp mem

theorem reconcileReports_created {repair report : Except Error (Option Fields)} {job : Job}
    (mem : .createJob job ∈ (reconcileReports c invariant run repair report).writes) :
    job.conditions = [] := by
  unfold reconcileReports at mem
  split at mem
  · cases mem
  · exact absurd mem applyReport_creates
  split at mem
  · cases mem
  · exact reconcileCheckerJob_created mem
  split at mem
  · split at mem
    · rename_i outcome taken
      exact reconcileRepairForDrift_created taken mem
    · exact absurd mem applyReport_creates
  · exact absurd mem applyReport_creates

end Blame

/-! ## Schedules -/

/-- No report of the duty is there for the pass. -/
def Missing (c : Cluster) (invariant : Unstructured) (run : CheckRun) (duty : Duty) : Prop :=
  ¬Readable c (duty.configMapName invariant.name run.id) invariant.generation run.id

/-- The pass has looked for the duty's report in vain, and has not looked at its Job yet. -/
inductive Between : Option Pass → Unstructured → CheckRun → Duty → Prop
  | repair (invariant : Unstructured) (run : CheckRun) :
      Between (some (.repairRead invariant run (.ok none))) invariant run .repair
  | report (invariant : Unstructured) (run : CheckRun) (repair report : Except Error (Option Fields))
      (duty : Duty) (unread : duty.readOf repair report = .ok none) :
      Between (some (.reportRead invariant run repair report)) invariant run duty

/-- The pass still relies on not having found the duty's report. -/
inductive Relies (pass : Option Pass) (invariant : Unstructured) (run : CheckRun) (duty : Duty) : Prop
  | between (h : Between pass invariant run duty)
  | writing (writes : List Write) (h : pass = some (.writing invariant run writes))

/-- No Job finishes with its report published while a pass is between the two looks, and
only the Job of a name publishes under the name that goes with it. -/
def Orderly (s : Operating) : Action → Prop
  | .outside (.finish k _) => ∀ invariant run duty, Between s.pass invariant run duty →
      k = duty.jobName invariant.name run.id → Missing s.cluster invariant run duty
  | .outside (.work k _ _) => ∀ job invariant run duty, s.cluster.jobs k = some job →
      Relies s.pass invariant run duty →
      job.args.configMap = duty.configMapName invariant.name run.id →
      k = duty.jobName invariant.name run.id
  | _ => True

/-- A Job that shows an end has finished. -/
def Concluded (c : Cluster) : Prop :=
  ∀ k job, c.jobs k = some job → jobFailed job = true ∨ jobComplete job = true →
    job.finishedAt ≠ none

/-- What the rest of a pass's writes relies on. -/
structure Decided (c : Cluster) (invariant : Unstructured) (run : CheckRun) (writes : List Write) :
    Prop where
  unfinished : ∀ job, .createJob job ∈ writes → job.conditions = []
  alone : ∀ duty w, w ∈ writes → Blames duty w → createdJobs writes = []
  missing : ∀ duty w, w ∈ writes → Blames duty w → Missing c invariant run duty
  finished : ∀ duty w, w ∈ writes → Blames duty w → ∀ job,
    c.jobs (duty.jobName invariant.name run.id) = some job → job.finishedAt ≠ none

structure Steady (s : Operating) : Prop where
  concluded : Concluded s.cluster
  between : ∀ invariant run duty, Between s.pass invariant run duty → ∀ job,
    s.cluster.jobs (duty.jobName invariant.name run.id) = some job → job.finishedAt ≠ none →
    Missing s.cluster invariant run duty
  writing : ∀ invariant run writes, s.pass = some (.writing invariant run writes) →
    Decided s.cluster invariant run writes

section Steps

variable {c t : Cluster} {e : Event} {invariant : Unstructured} {run : CheckRun} {duty : Duty}

theorem missing_of_read (unread : readConfigMap c invariant run duty = .ok none) :
    Missing c invariant run duty := by
  rintro ⟨configMap, report, there⟩
  unfold readConfigMap at unread
  rw [statusFromReportConfigMap_of_report there] at unread
  cases unread

theorem Missing.of_configMaps (h : Missing c invariant run duty)
    (same : t.configMaps (duty.configMapName invariant.name run.id) =
      c.configMaps (duty.configMapName invariant.name run.id)) : Missing t invariant run duty := by
  intro there
  exact h (there.of_configMaps same.symm)

/-- Outside a pass a Job stays as it is, or finishes. -/
theorem outside_job (step : Step c e t) (outside : e.outside) {k : String} {job' : Job}
    (h' : t.jobs k = some job') : c.jobs k = some job' ∨
      ∃ job condition, e = .finish k condition ∧ c.jobs k = some job ∧ job.finishedAt = none ∧
        job'.finishedAt ≠ none := by
  cases step_jobs step k with
  | kept same => exact Or.inl (same ▸ h')
  | finished job condition event found running after =>
    rw [after] at h'
    rw [← Option.some.inj h']
    exact Or.inr ⟨job, condition, event, found, running, Option.some_ne_none _⟩
  | expired _ after =>
    rw [after, removeJob_self] at h'
    cases h'
  | collected _ _ _ after =>
    rw [after] at h'
    cases h'
  | created name writes job event =>
    subst event
    exact outside.elim

/-- A report stays missing unless the worker of an unfinished Job publishes under its name. -/
theorem outside_missing (step : Step c e t) (h : Missing c invariant run duty) :
    Missing t invariant run duty ∨ ∃ k job calls scan, e = .work k calls scan ∧
      c.jobs k = some job ∧ job.finishedAt = none ∧
      job.args.configMap = duty.configMapName invariant.name run.id := by
  obtain kept | ⟨k, job, calls, scan, configMap, rfl, found, target, -⟩ :=
    step_configMap step (duty.configMapName invariant.name run.id)
  · exact Or.inl (h.of_configMaps kept)
  · cases step with
    | work _ job' _ _ found' running =>
      rw [found] at found'
      obtain rfl := Option.some.inj found'
      exact Or.inr ⟨k, job, calls, scan, rfl, found, running, target⟩

theorem concluded_step (concluded : Concluded c) (step : Step c e t) (outside : e.outside) :
    Concluded t := by
  intro k job' h' ended
  obtain kept | ⟨job, condition, -, -, -, finished⟩ := outside_job step outside h'
  · exact concluded k job' kept ended
  · exact finished

theorem concluded_apply (concluded : Concluded c) {name : String} {w : Write}
    (unfinished : ∀ job, w = .createJob job → job.conditions = []) : Concluded (c.apply name w) := by
  intro k job' h' ended
  obtain kept | ⟨job, made, -, created⟩ := apply_jobs c name w k
  · exact concluded k job' (kept ▸ h') ended
  · rw [h'] at created
    obtain rfl := Option.some.inj created
    simp [jobFailed, jobComplete, unfinished job' made] at ended

/-- What the pass relies on outlasts what happens outside. -/
theorem missing_kept {s : Operating} {t : Cluster} {event : Event} (step : Step s.cluster event t)
    (orderly : Orderly s (.outside event)) (relies : Relies s.pass invariant run duty)
    (missing : Missing s.cluster invariant run duty)
    (finished : ∀ job, s.cluster.jobs (duty.jobName invariant.name run.id) = some job →
      job.finishedAt ≠ none) : Missing t invariant run duty := by
  obtain kept | ⟨k, job, calls, scan, rfl, found, running, target⟩ := outside_missing step missing
  · exact kept
  · have own := orderly job invariant run duty found relies target
    exact absurd running (finished job (own ▸ found))

theorem steady_outside {s : Operating} {t : Cluster} {event : Event} (steady : Steady s)
    (orderly : Orderly s (.outside event)) (outside : event.outside)
    (step : Step s.cluster event t) : Steady ⟨t, s.pass⟩ := by
  refine ⟨concluded_step steady.concluded step outside, ?_, ?_⟩
  · intro invariant run duty between job' h' ended
    obtain kept | ⟨job, condition, rfl, found, running, -⟩ := outside_job step outside h'
    · refine missing_kept step orderly (.between between)
        (steady.between _ _ _ between job' kept ended) ?_
      intro job found
      obtain rfl := Option.some.inj (kept.symm.trans found)
      exact ended
    · have missing := orderly invariant run duty between rfl
      cases step with
      | finish => exact missing.of_configMaps rfl
  · intro invariant run writes writing
    have decided := steady.writing invariant run writes writing
    refine ⟨decided.unfinished, decided.alone, ?_, ?_⟩
    · intro duty w mem blames
      exact missing_kept step orderly (.writing writes writing) (decided.missing duty w mem blames)
        (decided.finished duty w mem blames)
    · intro duty w mem blames job' h'
      obtain kept | ⟨job, condition, -, found, running, -⟩ := outside_job step outside h'
      · exact decided.finished duty w mem blames job' kept
      · exact absurd running (decided.finished duty w mem blames job found)

/-- A write leaves the reports alone, and a blaming pass leaves the Jobs alone. -/
theorem decided_write {w : Write} {writes : List Write}
    (decided : Decided c invariant run (w :: writes)) :
    Decided (c.apply invariant.name w) invariant run writes := by
  have jobs : ∀ duty w', w' ∈ writes → Blames duty w' →
      ∀ k job, (c.apply invariant.name w).jobs k = some job → c.jobs k = some job := by
    intro duty w' mem blames k job h
    obtain kept | ⟨made, rfl, -⟩ := apply_jobs c invariant.name w k
    · exact kept ▸ h
    · exact nomatch decided.alone duty w' (List.mem_cons_of_mem _ mem) blames
  constructor
  · exact fun job mem => decided.unfinished job (List.mem_cons_of_mem w mem)
  · intro duty w' mem blames
    have none := decided.alone duty w' (List.mem_cons_of_mem w mem) blames
    rw [← List.singleton_append, createdJobs_append] at none
    exact (List.append_eq_nil_iff.mp none).2
  · intro duty w' mem blames
    refine (decided.missing duty w' (List.mem_cons_of_mem w mem) blames).of_configMaps ?_
    rw [(apply_frame c invariant.name w).1]
  · intro duty w' mem blames job h
    exact decided.finished duty w' (List.mem_cons_of_mem w mem) blames job
      (jobs duty w' mem blames _ job h)

theorem step_steady {s u : Operating} {a : Action} (steady : Steady s) (orderly : Orderly s a)
    (step : Operate s a u) : Steady u := by
  cases step with
  | begin c name invariant run found mode hrun => exact ⟨steady.concluded, nofun, nofun⟩
  | readRepair c invariant run =>
    refine ⟨steady.concluded, ?_, nofun⟩
    rintro _ _ _ between job found ended
    generalize read : readConfigMap c invariant run .repair = repair at between
    cases between
    exact missing_of_read read
  | readReport c invariant run repair =>
    refine ⟨steady.concluded, ?_, nofun⟩
    rintro _ _ duty between job found ended
    generalize read : readConfigMap c invariant run .check = report at between
    cases between with
    | report _ _ _ _ _ unread =>
      cases duty with
      | check => exact missing_of_read (read.trans unread)
      | repair =>
        have unread : repair = .ok none := unread
        subst unread
        exact steady.between invariant run .repair (.repair invariant run) job found ended
  | readJob c invariant run repair report =>
    refine ⟨steady.concluded, nofun, ?_⟩
    rintro _ _ _ ⟨⟩
    have found : ∀ duty w, w ∈ (reconcileReports c invariant run repair report).writes →
        Blames duty w → ∀ job, c.jobs (duty.jobName invariant.name run.id) = some job →
        job.finishedAt ≠ none := by
      intro duty w mem blames job found
      obtain ⟨job', found', ended⟩ := (reconcileReports_blames mem blames).2.ended
      obtain rfl := Option.some.inj (found.symm.trans found')
      exact steady.concluded _ job found ended
    refine ⟨fun job => reconcileReports_created, ?_, ?_, found⟩
    · exact fun duty w mem blames => (reconcileReports_blames mem blames).2.alone
    · intro duty w mem blames
      obtain ⟨unread, ⟨job, there, ended⟩, -⟩ := reconcileReports_blames mem blames
      exact steady.between invariant run duty (.report invariant run repair report duty unread) job there
        (found duty w mem blames job there)
  | write c invariant run w writes =>
    have decided := steady.writing invariant run _ rfl
    refine ⟨concluded_apply steady.concluded ?_, nofun, ?_⟩
    · rintro job rfl
      exact decided.unfinished job List.mem_cons_self
    · rintro _ _ _ ⟨⟩
      exact decided_write decided
  | stop c pass => exact ⟨steady.concluded, nofun, nofun⟩
  | outside c t pass event outside step => exact steady_outside steady orderly outside step

end Steps

/-! ## Runs of whole passes -/

section Whole

variable {history : Past} {c : Cluster}

/-- With no pass under way nothing is out of order. -/
theorem orderly_idle (event : Event) : Orderly ⟨c, none⟩ (.outside event) := by
  cases event with
  | finish => exact fun _ _ _ between => nomatch between
  | work =>
    rintro job invariant run duty found (between | ⟨writes, writing⟩) target
    · exact nomatch between
    · exact nomatch writing
  | _ => trivial

theorem operates {actions : List Action} {s u : Operating} {a : Action}
    (reached : Run Idling (Guarded Orderly Operate) actions s) (step : Operate s a u)
    (orderly : Orderly s a) : Run Idling (Guarded Orderly Operate) (a :: actions) u :=
  reached.next ⟨orderly, step⟩

theorem operates_outside {s : Operating} {t : Cluster} {event : Event}
    (step : Step s.cluster event t) (other : event.outside) :
    Operate s (.outside event) ⟨t, s.pass⟩ :=
  .outside s.cluster t s.pass event other step

theorem operate_writes {actions : List Action} {invariant : Unstructured} {run : CheckRun}
    {writes rest : List Write}
    (reached : Run Idling (Guarded Orderly Operate) actions
      ⟨c, some (.writing invariant run (writes ++ rest))⟩) :
    ∃ actions', Run Idling (Guarded Orderly Operate) actions'
      ⟨c.applyAll invariant.name writes, some (.writing invariant run rest)⟩ := by
  induction writes generalizing c actions with
  | nil => exact ⟨actions, reached⟩
  | cons w writes ih => exact ih (operates reached (.write c invariant run w (writes ++ rest)) trivial)

/-- A pass of one instant is one whose steps nothing comes between: every run of the namespace is
a run of the operator in steps. -/
theorem operate_run (reached : Run Started (Recorded Step) history c) :
    ∃ actions, Run Idling (Guarded Orderly Operate) actions ⟨c, none⟩ := by
  induction reached with
  | start started => exact ⟨[], .start ⟨started, rfl⟩⟩
  | @next history c moment t _ recorded ih =>
    obtain ⟨rfl, step⟩ := recorded
    obtain ⟨actions, reached⟩ := ih
    have outside : moment.2.outside →
        ∃ actions, Run Idling (Guarded Orderly Operate) actions ⟨t, none⟩ := fun other =>
      ⟨_, operates reached (operates_outside step other) (orderly_idle moment.2)⟩
    obtain ⟨c, event⟩ := moment
    cases step with
    | reconcile name invariant writes found mode made =>
      cases hrun : currentCheckRun invariant c.now with
      | error e =>
        unfold reconcileJobBackedInvariant at made
        rw [hrun] at made
        rw [List.prefix_nil.mp made]
        exact ⟨actions, reached⟩
      | ok run =>
        obtain ⟨rest, whole⟩ := made
        obtain rfl := (invariant_some found).2
        have begun := operates reached (.begin c _ invariant run found mode hrun) trivial
        have repairRead := operates begun (.readRepair c invariant run) trivial
        have reportRead := operates repairRead (.readReport c invariant run _) trivial
        have writing := operates reportRead (.readJob c invariant run _ _) trivial
        rw [reconcileReports_at_once hrun, ← whole] at writing
        obtain ⟨actions', written⟩ := operate_writes writing
        exact ⟨_, operates written (.stop _ _) trivial⟩
    | _ => exact outside trivial

end Whole

/-! ## Statuses that blame a Job -/

/-- In every orderly run, a status that says a Job ended without a report is written only while
no report of its check is there. -/
theorem blame_true_when_orderly {history : List Action} {s : Operating}
    (reached : Run Idling (Guarded Orderly Operate) history s) {invariant : Unstructured}
    {run : CheckRun} {w : Write} {writes : List Write} {duty : Duty}
    (writing : s.pass = some (.writing invariant run (w :: writes))) (blames : Blames duty w) :
    ¬Readable s.cluster (duty.configMapName invariant.name run.id) invariant.generation run.id := by
  have steady : Steady s := by
    refine reached.invariant (I := fun _ s => Steady s) ?_ ?_
    · rintro ⟨c, pass⟩ ⟨started, rfl⟩
      refine ⟨?_, nofun, nofun⟩
      intro k job found
      rw [started.jobs k] at found
      cases found
    · exact fun _ _ _ _ _ steady step => step_steady steady step.1 step.2
  exact (steady.writing invariant run _ writing).missing duty w List.mem_cons_self blames

/-- Without reports a Job that is over is blamed. -/
theorem orders_blames {now : Int} {status : Option Fields} {jobs : String → Option Job}
    {configMaps : String → Option ConfigMap} (run : CheckRun) (job : Job)
    (found : jobs (checkerJobName "orders" run.id) = some job)
    (ended : jobFailed job = true ∨ jobComplete job = true) :
    ∃ w, Blames .check w ∧ (reconcileReports (orders now status jobs configMaps)
      (ordersInvariant status) run (.ok none) (.ok none)).writes = [w] := by
  have there : (orders now status jobs configMaps).jobs
      (checkerJobName (ordersInvariant status).name run.id) = some job := found
  have account : checkerServiceAccountName (ordersInvariant status) = "dataguard-checker" := by
    cases status <;> rfl
  unfold reconcileReports reconcileCheckerJob
  simp only [there, account, orders_account, Outcome.after, List.nil_append]
  split
  · refine ⟨_, ?_, rfl⟩
    exact checkerFailure_phase _ _ _ _ _ _
  · rename_i running
    rw [if_pos (ended.resolve_left running)]
    refine ⟨_, ?_, rfl⟩
    exact lifecycleStatus_phase _ _ _ _ _

theorem orders_unread {now : Int} {status : Option Fields} {jobs : String → Option Job}
    (run : CheckRun) (duty : Duty) : readConfigMap (orders now status jobs noConfigMaps)
      (ordersInvariant status) run duty = .ok none :=
  statusFromReportConfigMap_absent rfl

/-- A Job that failed without a report is blamed, and rightly. -/
theorem blame_true_when_orderly_failed : ∃ history s invariant run w writes,
    Run Idling (Guarded Orderly Operate) history s ∧
    s.pass = some (.writing invariant run (w :: writes)) ∧ Blames .check w ∧
    ¬Readable s.cluster (reportConfigMapName invariant.name run.id) invariant.generation run.id := by
  obtain ⟨_, checked⟩ := orders_checking
  have finish : Step (orders 0 (some ordersRunning) firstJobs noConfigMaps)
      (.finish (checkerJobName "orders" "g1-t0") _)
      (orders 0 (some ordersRunning) failedJobs noConfigMaps) :=
    orders_finishes (ordersJob firstSlot) ⟨.failed, true, "BackoffLimitExceeded", ""⟩
      firstJobs_checker rfl
  obtain ⟨_, reached⟩ := operate_run (checked.record finish)
  have begun := operates reached (.begin _ "orders" _ _ (orders_invariant 0 (some ordersRunning) _ _) rfl
    (orders_first (some ordersRunning))) trivial
  have repairRead := operates begun (.readRepair _ _ _) trivial
  have reportRead := operates repairRead (.readReport _ _ _ _) trivial
  have writing := operates reportRead (.readJob _ _ _ _ _) trivial
  rw [orders_unread, orders_unread] at writing
  obtain ⟨w, blames, one⟩ := orders_blames firstSlot failedJob failedJobs_checker (Or.inl rfl)
  rw [one] at writing
  exact ⟨_, _, _, _, w, [], writing, rfl, blames, blame_true_when_orderly writing rfl blames⟩

/-- The report lands and the Job completes after the pass looked for the report and before it
looks at the Job: the status says the Job published nothing, next to its report. -/
theorem false_blame : ∃ history s invariant run w writes, Run Idling Operate history s ∧
    s.pass = some (.writing invariant run (w :: writes)) ∧ Blames .check w ∧
    Readable s.cluster (reportConfigMapName invariant.name run.id) invariant.generation run.id := by
  obtain ⟨_, checked⟩ := orders_checking
  obtain ⟨_, reached⟩ := operate_run checked
  obtain ⟨payload, published⟩ := orders_agreement_published noConfigMaps
  have begun := reached.unguarded.next (.begin _ "orders" _ _
    (orders_invariant 0 (some ordersRunning) firstJobs noConfigMaps) rfl
    (orders_first (some ordersRunning)))
  have repairRead := begun.next (.readRepair _ _ _)
  have reportRead := repairRead.next (.readReport _ _ _ _)
  have landed := reportRead.next (operates_outside (orders_reported published) trivial)
  have finish : Step (orders 0 (some ordersRunning) firstJobs (reportMaps firstSlot payload twoOrders))
      (.finish (checkerJobName "orders" "g1-t0") _)
      (orders 0 (some ordersRunning) doneJobs (reportMaps firstSlot payload twoOrders)) :=
    orders_finishes (ordersJob firstSlot) ⟨.complete, true, "", ""⟩ firstJobs_checker rfl
  have ended := landed.next (operates_outside finish trivial)
  have writing := ended.next (.readJob _ _ _ _ _)
  rw [orders_unread, orders_unread] at writing
  obtain ⟨w, blames, one⟩ := orders_blames firstSlot doneJob doneJobs_checker (Or.inr rfl)
  rw [one] at writing
  exact ⟨_, _, _, _, w, [], writing, rfl, blames, _, _,
    orders_report (by decide) (reportMaps_stored firstSlot payload twoOrders)⟩

end KubeDataGuard
