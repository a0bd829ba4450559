import KubeDataGuard.Operator.JobSpec
import KubeDataGuard.Operator.Policy

/-!
# Reconciling an Invariant

One pass of `reconcileJobBackedInvariant` over what it reads of its namespace.
The outcome lists the writes in order; a pass that fails midway has made the
first of them. A patched status carries where it comes from.
-/

namespace KubeDataGuard

/-- What the API server holds for one namespace, and the clock. -/
structure Cluster where
  ns : String
  now : Int
  nextUid : Uid
  invariants : String → Option Resource
  jobs : String → Option Job
  configMaps : String → Option ConfigMap
  policies : List Unstructured
  derivedViews : String → Option Resource
  dataSources : String → Option Resource
  serviceAccounts : List String
  roles : List String
  roleBindings : List String

namespace Cluster

variable (c : Cluster)

def invariant (name : String) : Option Unstructured :=
  (c.invariants name).map fun r => { r with ns := c.ns, name := name }

def derivedView (name : String) : Option Unstructured :=
  (c.derivedViews name).map fun r => { r with ns := c.ns, name := name }

def dataSource (name : String) : Option Unstructured :=
  (c.dataSources name).map fun r => { r with ns := c.ns, name := name }

end Cluster

inductive Origin
  | built
  | copied (configMap : String)
  deriving DecidableEq, Repr

inductive Write
  | createServiceAccount (name : String)
  | createRole (name : String)
  | createRoleBinding (name : String)
  | createJob (job : Job)
  | patchStatus (origin : Origin) (status : Fields)

structure Outcome where
  writes : List Write
  result : Except Error Requeue

namespace Outcome

def fail (e : Error) : Outcome := ⟨[], .error e⟩

def after (writes : List Write) (o : Outcome) : Outcome := { o with writes := writes ++ o.writes }

end Outcome

def requeueSoon : Requeue := some 5000000000

section Reconcile

variable (c : Cluster) (invariant : Unstructured)

/-- A report that is not for this generation and this run reads as absent. -/
def statusFromReportConfigMap (name : String) (run : CheckRun) : Except Error (Option Fields) :=
  match c.configMaps name with
  | none => .ok none
  | some configMap =>
    match configMap.statusJson with
    | .empty =>
      .error (.message ("report ConfigMap " ++ c.ns ++ "/" ++ name ++ " is missing status.json"))
    | raw =>
      match decodeStatusPayload raw with
      | .error e => .error (.because ("decode status.json from " ++ c.ns ++ "/" ++ name) e)
      | .ok status =>
        if int64Field status "observedGeneration" ≠ some invariant.generation then .ok none
        else if run.id ≠ "" ∧ stringField status "checkID" ≠ some run.id then .ok none
        else .ok (some (enrichScheduledStatus status c.now run))

def ensureCheckerRBAC (serviceAccountName : String) : List Write :=
  (if serviceAccountName ∈ c.serviceAccounts then [] else [.createServiceAccount serviceAccountName]) ++
  (if serviceAccountName ∈ c.roles then [] else [.createRole serviceAccountName]) ++
  (if serviceAccountName ∈ c.roleBindings then [] else [.createRoleBinding serviceAccountName])

def resolveCheckerEnv : Except Error (List EnvVar) :=
  let env := checkerEnv invariant
  let derivedViewName := specString invariant "derivedViewRef"
  if derivedViewName = "" then .ok env
  else
    match c.derivedView derivedViewName with
    | none => .error (.message ("Invariant " ++ invariant.ns ++ "/" ++ invariant.name ++
        " references missing DerivedView " ++ derivedViewName))
    | some derivedView =>
      match readError ("DerivedView " ++ derivedView.name ++ " spec.sourceRef")
          (nestedString derivedView.object ["spec", "sourceRef"]) with
      | .error e => .error e
      | .ok sourceRef =>
        if sourceRef.getD "" = "" then .ok (applyDerivedViewEnv env derivedView)
        else
          match c.dataSource (sourceRef.getD "") with
          | none => .error (.message ("DerivedView " ++ derivedView.ns ++ "/" ++ derivedView.name ++
              " references missing DataSource " ++ sourceRef.getD ""))
          | some dataSource =>
            .ok (applyDerivedViewEnv (applyDataSourceEnv env dataSource) derivedView)

/-- The report branches: a status that is there already is not written again. -/
def applyReport (configMapName : String) (status : Fields) (run : CheckRun) : Outcome :=
  if reportStatusAlreadyApplied invariant status then ⟨[], .ok (requeueForRun run)⟩
  else ⟨[.patchStatus (.copied configMapName) status], .ok (requeueForRun run)⟩

/-- None where no policy allows a repair: the drift is then reported as it is. -/
def reconcileRepairForDrift (driftStatus : Fields) (checkReportConfigMapName : String)
    (run : CheckRun) : Option Outcome :=
  match findAutoRepairPolicy invariant c.policies with
  | .error e => some (.fail e)
  | .ok none => none
  | .ok (some (policy, repairMode)) =>
    let rbac := ensureCheckerRBAC c (repairServiceAccountName invariant)
    let jobName := repairJobName invariant.name run.id
    let driftCount := (int64Field driftStatus "driftCount").getD 0
    some (Outcome.after rbac (match c.jobs jobName with
      | none =>
        match resolveCheckerEnv c invariant with
        | .error e => .fail e
        | .ok env =>
          match buildRepairJobWithEnv invariant checkReportConfigMapName run
              (env ++ repairPolicyEnv policy repairMode) repairMode with
          | .error e => .fail e
          | .ok job =>
            ⟨[.createJob job, .patchStatus .built
              (buildRepairRunningStatus invariant c.now run jobName driftCount)], .ok requeueSoon⟩
      | some job =>
        if jobFailed job then
          ⟨[.patchStatus .built (repairFailureStatusForJob invariant c.now run jobName driftCount job
            "repair job failed before publishing a valid status report")], .ok none⟩
        else if jobComplete job then
          ⟨[.patchStatus .built (buildRepairFailedStatus invariant c.now run jobName driftCount
            "repair job completed without publishing a valid status report")], .ok none⟩
        else
          ⟨[.patchStatus .built
            (buildRepairRunningStatus invariant c.now run jobName driftCount)], .ok requeueSoon⟩))

/-- The Job branch: no report is there yet. -/
def reconcileCheckerJob (run : CheckRun) : Outcome :=
  let rbac := ensureCheckerRBAC c (checkerServiceAccountName invariant)
  let jobName := checkerJobName invariant.name run.id
  let running := if shouldPatchCheckerRunningStatus invariant then
      [Write.patchStatus .built (buildJobRunningStatus invariant c.now run jobName)]
    else []
  Outcome.after rbac (match c.jobs jobName with
    | none =>
      match resolveCheckerEnv c invariant with
      | .error e => .fail e
      | .ok env =>
        match buildCheckerJobWithEnv invariant run env with
        | .error e => .fail e
        | .ok job => ⟨.createJob job :: running, .ok requeueSoon⟩
    | some job =>
      if jobFailed job then
        ⟨[.patchStatus .built (checkerFailureStatusForJob invariant c.now run jobName job
          "checker job failed before publishing a valid status report")], .ok (requeueForRun run)⟩
      else if jobComplete job then
        ⟨[.patchStatus .built (buildJobFailedStatus invariant c.now run jobName
          "checker job completed without publishing a valid status report")], .ok (requeueForRun run)⟩
      else ⟨running, .ok requeueSoon⟩)

def reconcileJobBackedInvariant : Outcome :=
  match currentCheckRun invariant c.now with
  | .error e => .fail e
  | .ok run =>
    let configMapName := reportConfigMapName invariant.name run.id
    let repairMapName := repairConfigMapName invariant.name run.id
    match statusFromReportConfigMap c invariant repairMapName run with
    | .error e => .fail e
    | .ok (some repairStatus) => applyReport invariant repairMapName repairStatus run
    | .ok none =>
      match statusFromReportConfigMap c invariant configMapName run with
      | .error e => .fail e
      | .ok none => reconcileCheckerJob c invariant run
      | .ok (some status) =>
        if stringField status "phase" = some "DriftDetected" then
          match reconcileRepairForDrift c invariant status configMapName run with
          | some outcome => outcome
          | none => applyReport invariant configMapName status run
        else applyReport invariant configMapName status run

end Reconcile

/-! ## Reading a report -/

/-- A stored report for a generation and a check ID. -/
structure ReportFor (c : Cluster) (generation : Int) (checkId name : String) (configMap : ConfigMap)
    (report : Fields) : Prop where
  stored : c.configMaps name = some configMap
  decoded : decodeStatusPayload configMap.statusJson = .ok report
  observedGeneration : int64Field report "observedGeneration" = some generation
  checkID : stringField report "checkID" = some checkId

section Read

variable {c : Cluster} {invariant : Unstructured} {run : CheckRun} {name : String}

theorem statusFromReportConfigMap_some {status : Fields} (id : run.id ≠ "")
    (h : statusFromReportConfigMap c invariant name run = .ok (some status)) :
    ∃ configMap report, ReportFor c invariant.generation run.id name configMap report ∧
      status = enrichScheduledStatus report c.now run := by
  unfold statusFromReportConfigMap at h
  split at h
  · cases h
  rename_i configMap stored
  split at h
  · cases h
  split at h
  · cases h
  rename_i report decoded
  split at h
  · cases h
  rename_i generation
  split at h
  · cases h
  rename_i checkId
  have found : stringField report "checkID" = some run.id := by
    by_contra other
    exact checkId ⟨id, other⟩
  exact ⟨configMap, report, ⟨stored, decoded, not_not.mp generation, found⟩,
    (Option.some.inj (Except.ok.inj h)).symm⟩

theorem statusFromReportConfigMap_of_report {configMap : ConfigMap} {report : Fields}
    (h : ReportFor c invariant.generation run.id name configMap report) :
    statusFromReportConfigMap c invariant name run =
      .ok (some (enrichScheduledStatus report c.now run)) := by
  unfold statusFromReportConfigMap
  rw [h.stored]
  cases raw : configMap.statusJson with
  | empty => exact absurd h.decoded (by simp [raw, decodeStatusPayload])
  | malformed => exact absurd h.decoded (by simp [raw, decodeStatusPayload])
  | json value =>
    have decoded := h.decoded
    rw [raw] at decoded
    simp only [raw, decoded, h.observedGeneration, h.checkID, ne_eq, not_true, if_false, and_false]

/-- What reads as absent: no ConfigMap, or one that decodes to a status for another
generation or another check ID. -/
theorem statusFromReportConfigMap_none_iff :
    statusFromReportConfigMap c invariant name run = .ok none ↔
      ∀ configMap, c.configMaps name = some configMap → ∃ report,
        decodeStatusPayload configMap.statusJson = .ok report ∧
        (int64Field report "observedGeneration" ≠ some invariant.generation ∨
          run.id ≠ "" ∧ stringField report "checkID" ≠ some run.id) := by
  unfold statusFromReportConfigMap
  cases c.configMaps name with
  | none => simp
  | some configMap =>
    simp only [Option.some.injEq, forall_eq']
    cases raw : configMap.statusJson with
    | empty => simp [decodeStatusPayload]
    | malformed => simp [decodeStatusPayload]
    | json value =>
      cases decoded : decodeStatusPayload (.json value) with
      | error e => simp [decoded]
      | ok report =>
        by_cases generation : int64Field report "observedGeneration" = some invariant.generation
        · by_cases checkId : run.id ≠ "" ∧ stringField report "checkID" ≠ some run.id <;>
            simp [decoded, generation, checkId]
        · simp [decoded, generation]

end Read

/-! ## What a pass writes -/

/-- A write of a pass, with what the pass had read when it made it. -/
inductive WriteOf (c : Cluster) (invariant : Unstructured) : Write → Prop
  | createServiceAccount (name : String) : WriteOf c invariant (.createServiceAccount name)
  | createRole (name : String) : WriteOf c invariant (.createRole name)
  | createRoleBinding (name : String) : WriteOf c invariant (.createRoleBinding name)
  | checkerJob (run : CheckRun) (job : Job) (hrun : currentCheckRun invariant c.now = .ok run)
      (unrepaired : statusFromReportConfigMap c invariant
        (repairConfigMapName invariant.name run.id) run = .ok none)
      (unreported : statusFromReportConfigMap c invariant
        (reportConfigMapName invariant.name run.id) run = .ok none)
      (absent : c.jobs (checkerJobName invariant.name run.id) = none)
      (named : job.name = checkerJobName invariant.name run.id) (kind : job.args.kind = .checkJob)
      (built : JobFor invariant run.id (reportConfigMapName invariant.name run.id) job) :
      WriteOf c invariant (.createJob job)
  | repairJob (run : CheckRun) (job : Job) (status : Fields) (policy : Unstructured) (mode : String)
      (hrun : currentCheckRun invariant c.now = .ok run)
      (unrepaired : statusFromReportConfigMap c invariant
        (repairConfigMapName invariant.name run.id) run = .ok none)
      (reported : statusFromReportConfigMap c invariant
        (reportConfigMapName invariant.name run.id) run = .ok (some status))
      (drift : stringField status "phase" = some "DriftDetected")
      (allowed : findAutoRepairPolicy invariant c.policies = .ok (some (policy, mode)))
      (absent : c.jobs (repairJobName invariant.name run.id) = none)
      (named : job.name = repairJobName invariant.name run.id)
      (kind : job.args.kind = .repairJob (reportConfigMapName invariant.name run.id) mode)
      (built : JobFor invariant run.id (repairConfigMapName invariant.name run.id) job) :
      WriteOf c invariant (.createJob job)
  | built (status : Fields) (unhealthy : Unhealthy status) :
      WriteOf c invariant (.patchStatus .built status)
  | copied (run : CheckRun) (name : String) (status : Fields)
      (hrun : currentCheckRun invariant c.now = .ok run)
      (hname : name = reportConfigMapName invariant.name run.id ∨
        name = repairConfigMapName invariant.name run.id)
      (read : statusFromReportConfigMap c invariant name run = .ok (some status)) :
      WriteOf c invariant (.patchStatus (.copied name) status)

section Writes

variable {c : Cluster} {invariant : Unstructured}

/-- The account, its role and its binding are the only things created before a Job. -/
theorem mem_ensureCheckerRBAC {serviceAccountName : String} {w : Write}
    (h : w ∈ ensureCheckerRBAC c serviceAccountName) :
    w = .createServiceAccount serviceAccountName ∨ w = .createRole serviceAccountName ∨
      w = .createRoleBinding serviceAccountName := by
  have granted : ∀ {known : Prop} [Decidable known] {grant : Write},
      w ∈ (if known then [] else [grant]) → w = grant := by
    intro known _ grant mem
    split at mem
    · cases mem
    · exact List.mem_singleton.mp mem
  obtain h | h := List.mem_append.mp h
  · obtain h | h := List.mem_append.mp h
    · exact Or.inl (granted h)
    · exact Or.inr (Or.inl (granted h))
  · exact Or.inr (Or.inr (granted h))

theorem ensureCheckerRBAC_writes (serviceAccountName : String) :
    ∀ w ∈ ensureCheckerRBAC c serviceAccountName, WriteOf c invariant w := by
  intro w hw
  obtain rfl | rfl | rfl := mem_ensureCheckerRBAC hw
  · exact .createServiceAccount _
  · exact .createRole _
  · exact .createRoleBinding _

theorem writes_after {writes : List Write} {o : Outcome} (h : ∀ w ∈ writes, WriteOf c invariant w)
    (ho : ∀ w ∈ o.writes, WriteOf c invariant w) :
    ∀ w ∈ (o.after writes).writes, WriteOf c invariant w := by
  intro w hw
  exact (List.mem_append.mp hw).elim (h w) (ho w)

theorem writes_none : ∀ w ∈ ([] : List Write), WriteOf c invariant w :=
  fun _ hw => absurd hw List.not_mem_nil

theorem writes_built {status : Fields} (h : Unhealthy status) :
    ∀ w ∈ [Write.patchStatus .built status], WriteOf c invariant w := by
  intro w hw
  rw [List.mem_singleton.mp hw]
  exact .built status h

theorem applyReport_writes {run : CheckRun} {name : String} {status : Fields}
    (hrun : currentCheckRun invariant c.now = .ok run)
    (hname : name = reportConfigMapName invariant.name run.id ∨
      name = repairConfigMapName invariant.name run.id)
    (read : statusFromReportConfigMap c invariant name run = .ok (some status)) :
    ∀ w ∈ (applyReport invariant name status run).writes, WriteOf c invariant w := by
  intro w hw
  unfold applyReport at hw
  split at hw
  · cases hw
  · rw [List.mem_singleton.mp hw]
    exact .copied run name status hrun hname read

theorem reconcileRepairForDrift_writes {run : CheckRun} {status : Fields} {outcome : Outcome}
    (hrun : currentCheckRun invariant c.now = .ok run)
    (unrepaired : statusFromReportConfigMap c invariant
      (repairConfigMapName invariant.name run.id) run = .ok none)
    (reported : statusFromReportConfigMap c invariant
      (reportConfigMapName invariant.name run.id) run = .ok (some status))
    (drift : stringField status "phase" = some "DriftDetected")
    (h : reconcileRepairForDrift c invariant status (reportConfigMapName invariant.name run.id) run =
      some outcome) : ∀ w ∈ outcome.writes, WriteOf c invariant w := by
  unfold reconcileRepairForDrift at h
  split at h
  · cases h
    exact writes_none
  · cases h
  rename_i policy mode allowed
  obtain rfl := Option.some.inj h
  refine writes_after (ensureCheckerRBAC_writes _) ?_
  split
  · rename_i absent
    split
    · exact writes_none
    split
    · exact writes_none
    rename_i env henv job hjob
    obtain ⟨built, named, kind⟩ := buildRepairJobWithEnv_ok hjob
    refine List.forall_mem_cons.mpr ⟨?_, writes_built (lifecycleStatus_unhealthy _ _ _ _ nofun)⟩
    exact .repairJob run job status policy mode hrun unrepaired reported drift allowed absent named
      kind built
  · split
    · exact writes_built (repairFailureStatusForJob_unhealthy _ _ _ _ _ _ _)
    split
    · exact writes_built (lifecycleStatus_unhealthy _ _ _ _ nofun)
    · exact writes_built (lifecycleStatus_unhealthy _ _ _ _ nofun)

theorem running_writes (run : CheckRun) (jobName : String) :
    ∀ w ∈ (if shouldPatchCheckerRunningStatus invariant then
      [Write.patchStatus .built (buildJobRunningStatus invariant c.now run jobName)] else []),
      WriteOf c invariant w := by
  split
  · exact writes_built (lifecycleStatus_unhealthy _ _ _ _ nofun)
  · exact writes_none

theorem reconcileCheckerJob_writes {run : CheckRun}
    (hrun : currentCheckRun invariant c.now = .ok run)
    (unrepaired : statusFromReportConfigMap c invariant
      (repairConfigMapName invariant.name run.id) run = .ok none)
    (unreported : statusFromReportConfigMap c invariant
      (reportConfigMapName invariant.name run.id) run = .ok none) :
    ∀ w ∈ (reconcileCheckerJob c invariant run).writes, WriteOf c invariant w := by
  unfold reconcileCheckerJob
  refine writes_after (ensureCheckerRBAC_writes _) ?_
  split
  · rename_i absent
    split
    · exact writes_none
    split
    · exact writes_none
    rename_i env henv job hjob
    obtain ⟨built, named, kind⟩ := buildCheckerJobWithEnv_ok hjob
    refine List.forall_mem_cons.mpr ⟨?_, running_writes run _⟩
    exact .checkerJob run job hrun unrepaired unreported absent named kind built
  · split
    · exact writes_built (checkerFailureStatusForJob_unhealthy _ _ _ _ _ _)
    split
    · exact writes_built (lifecycleStatus_unhealthy _ _ _ _ nofun)
    · exact running_writes run _

/-- Every write of a pass is one of these. -/
theorem reconcile_writes (c : Cluster) (invariant : Unstructured) :
    ∀ w ∈ (reconcileJobBackedInvariant c invariant).writes, WriteOf c invariant w := by
  unfold reconcileJobBackedInvariant
  split
  · exact writes_none
  rename_i run hrun
  simp only
  split
  · exact writes_none
  · rename_i repairStatus hrepair
    exact applyReport_writes hrun (Or.inr rfl) hrepair
  rename_i unrepaired
  split
  · exact writes_none
  · rename_i unreported
    exact reconcileCheckerJob_writes hrun unrepaired unreported
  rename_i status reported
  split
  · rename_i drift
    split
    · rename_i outcome houtcome
      exact reconcileRepairForDrift_writes hrun unrepaired reported drift houtcome
    · exact applyReport_writes hrun (Or.inl rfl) reported
  · exact applyReport_writes hrun (Or.inl rfl) reported

end Writes

/-! ## Created Jobs -/

/-- What a Job is for. -/
inductive Duty
  | check
  | repair
  deriving DecidableEq, Repr

def Job.duty (job : Job) : Duty :=
  match job.args.kind with
  | .checkJob => .check
  | .repairJob _ _ => .repair

def Duty.jobName : Duty → String → String → String
  | .check => checkerJobName
  | .repair => repairJobName

def Duty.configMapName : Duty → String → String → String
  | .check => reportConfigMapName
  | .repair => repairConfigMapName

/-- A Job is created under a free name, and only while its report is not there. -/
structure CreatedFor (c : Cluster) (invariant : Unstructured) (run : CheckRun) (job : Job) : Prop where
  hrun : currentCheckRun invariant c.now = .ok run
  named : job.name = job.duty.jobName invariant.name run.id
  absent : c.jobs job.name = none
  unreported : statusFromReportConfigMap c invariant
    (job.duty.configMapName invariant.name run.id) run = .ok none
  built : JobFor invariant run.id (job.duty.configMapName invariant.name run.id) job

theorem WriteOf.created {c : Cluster} {invariant : Unstructured} {job : Job}
    (h : WriteOf c invariant (.createJob job)) : ∃ run, CreatedFor c invariant run job := by
  cases h with
  | checkerJob run job hrun unrepaired unreported absent named kind built =>
    have duty : job.duty = .check := by rw [Job.duty, kind]
    refine ⟨run, hrun, ?_, named ▸ absent, ?_, ?_⟩ <;> rw [duty]
    · exact named
    · exact unreported
    · exact built
  | repairJob run job status policy mode hrun unrepaired reported drift allowed absent named kind
      built =>
    have duty : job.duty = .repair := by rw [Job.duty, kind]
    refine ⟨run, hrun, ?_, named ▸ absent, ?_, ?_⟩ <;> rw [duty]
    · exact named
    · exact unrepaired
    · exact built

def createdJobs (writes : List Write) : List Job :=
  writes.filterMap fun
    | .createJob job => some job
    | _ => none

theorem mem_createdJobs {writes : List Write} {job : Job} :
    job ∈ createdJobs writes ↔ .createJob job ∈ writes := by
  unfold createdJobs
  rw [List.mem_filterMap]
  constructor
  · rintro ⟨w, hw, hjob⟩
    cases w <;> simp at hjob
    rw [← hjob]
    exact hw
  · exact fun h => ⟨_, h, rfl⟩

theorem createdJobs_append (writes writes' : List Write) :
    createdJobs (writes ++ writes') = createdJobs writes ++ createdJobs writes' :=
  List.filterMap_append

theorem createdJobs_rbac (c : Cluster) (serviceAccountName : String) :
    createdJobs (ensureCheckerRBAC c serviceAccountName) = [] := by
  unfold ensureCheckerRBAC createdJobs
  split <;> split <;> split <;> rfl

theorem createdJobs_applyReport (invariant : Unstructured) (name : String) (status : Fields)
    (run : CheckRun) : createdJobs (applyReport invariant name status run).writes = [] := by
  unfold applyReport
  split <;> rfl

theorem createdJobs_running (invariant : Unstructured) (status : Fields) :
    createdJobs (if shouldPatchCheckerRunningStatus invariant then [.patchStatus .built status]
      else []) = [] := by
  split <;> rfl

theorem createdJobs_checkerJob (c : Cluster) (invariant : Unstructured) (run : CheckRun) :
    (createdJobs (reconcileCheckerJob c invariant run).writes).length ≤ 1 := by
  unfold reconcileCheckerJob
  simp only [Outcome.after, createdJobs_append, createdJobs_rbac, List.nil_append]
  split
  · split
    · exact Nat.zero_le 1
    split
    · exact Nat.zero_le 1
    · rw [← List.singleton_append, createdJobs_append, createdJobs_running]
      exact le_refl 1
  · split
    · exact Nat.zero_le 1
    split
    · exact Nat.zero_le 1
    · rw [createdJobs_running]
      exact Nat.zero_le 1

theorem createdJobs_repairForDrift {c : Cluster} {invariant : Unstructured} {status : Fields}
    {source : String} {run : CheckRun} {outcome : Outcome}
    (repair : reconcileRepairForDrift c invariant status source run = some outcome) :
    (createdJobs outcome.writes).length ≤ 1 := by
  unfold reconcileRepairForDrift at repair
  split at repair
  · rw [← Option.some.inj repair]
    exact Nat.zero_le 1
  · cases repair
  rw [← Option.some.inj repair]
  simp only [Outcome.after, createdJobs_append, createdJobs_rbac, List.nil_append]
  split
  · split
    · exact Nat.zero_le 1
    split
    · exact Nat.zero_le 1
    · exact le_refl 1
  · split
    · exact Nat.zero_le 1
    split <;> exact Nat.zero_le 1

/-- A pass creates at most one Job. -/
theorem createdJobs_reconcile (c : Cluster) (invariant : Unstructured) :
    (createdJobs (reconcileJobBackedInvariant c invariant).writes).length ≤ 1 := by
  have applied : ∀ name status run,
      (createdJobs (applyReport invariant name status run).writes).length ≤ 1 := by
    intro name status run
    rw [createdJobs_applyReport]
    exact Nat.zero_le 1
  unfold reconcileJobBackedInvariant
  split
  · exact Nat.zero_le 1
  rename_i run _
  simp only
  split
  · exact Nat.zero_le 1
  · exact applied _ _ run
  split
  · exact Nat.zero_le 1
  · exact createdJobs_checkerJob c invariant run
  split
  · split
    · rename_i outcome repair
      exact createdJobs_repairForDrift repair
    · exact applied _ _ run
  · exact applied _ _ run

/-! ## What a pass does -/

section Passes

variable {c : Cluster} {invariant : Unstructured} {run : CheckRun}

theorem statusFromReportConfigMap_absent {name : String} (absent : c.configMaps name = none) :
    statusFromReportConfigMap c invariant name run = .ok none := by
  unfold statusFromReportConfigMap
  rw [absent]

/-- A run without a report is left to its checker Job. -/
theorem reconcile_unreported (hrun : currentCheckRun invariant c.now = .ok run)
    (unrepaired : c.configMaps (repairConfigMapName invariant.name run.id) = none)
    (unreported : c.configMaps (reportConfigMapName invariant.name run.id) = none) :
    reconcileJobBackedInvariant c invariant = reconcileCheckerJob c invariant run := by
  unfold reconcileJobBackedInvariant
  simp only [hrun, statusFromReportConfigMap_absent unrepaired,
    statusFromReportConfigMap_absent unreported]

theorem reconcileCheckerJob_creates {env : List EnvVar} {job : Job}
    (absent : c.jobs (checkerJobName invariant.name run.id) = none)
    (henv : resolveCheckerEnv c invariant = .ok env)
    (hjob : buildCheckerJobWithEnv invariant run env = .ok job) :
    reconcileCheckerJob c invariant run =
      ⟨ensureCheckerRBAC c (checkerServiceAccountName invariant) ++ .createJob job ::
        (if shouldPatchCheckerRunningStatus invariant then
          [.patchStatus .built (buildJobRunningStatus invariant c.now run
            (checkerJobName invariant.name run.id))]
        else []), .ok requeueSoon⟩ := by
  unfold reconcileCheckerJob
  simp only [absent, henv, hjob, Outcome.after]

/-- A run without a report and without a Job gets its checker Job. -/
theorem reconcile_checks {env : List EnvVar} {job : Job}
    (hrun : currentCheckRun invariant c.now = .ok run)
    (unrepaired : c.configMaps (repairConfigMapName invariant.name run.id) = none)
    (unreported : c.configMaps (reportConfigMapName invariant.name run.id) = none)
    (absent : c.jobs (checkerJobName invariant.name run.id) = none)
    (henv : resolveCheckerEnv c invariant = .ok env)
    (hjob : buildCheckerJobWithEnv invariant run env = .ok job) :
    createdJobs (reconcileJobBackedInvariant c invariant).writes = [job] := by
  rw [reconcile_unreported hrun unrepaired unreported, reconcileCheckerJob_creates absent henv hjob,
    createdJobs_append, createdJobs_rbac, List.nil_append, ← List.singleton_append,
    createdJobs_append, createdJobs_running]
  rfl

/-- A report that calls for no repair is copied, unless its status is there already. -/
theorem reconcile_copies {configMap : ConfigMap} {report : Fields}
    (hrun : currentCheckRun invariant c.now = .ok run)
    (unrepaired : c.configMaps (repairConfigMapName invariant.name run.id) = none)
    (reported : ReportFor c invariant.generation run.id (reportConfigMapName invariant.name run.id)
      configMap report)
    (calm : stringField (enrichScheduledStatus report c.now run) "phase" ≠ some "DriftDetected")
    (changed : reportStatusAlreadyApplied invariant (enrichScheduledStatus report c.now run) = false) :
    reconcileJobBackedInvariant c invariant =
      ⟨[.patchStatus (.copied (reportConfigMapName invariant.name run.id))
        (enrichScheduledStatus report c.now run)], .ok (requeueForRun run)⟩ := by
  unfold reconcileJobBackedInvariant
  simp only [hrun, statusFromReportConfigMap_absent unrepaired,
    statusFromReportConfigMap_of_report reported, if_neg calm]
  unfold applyReport
  rw [changed]
  rfl

/-- Reported drift is left to the repair Job where a policy allows the repair. -/
theorem reconcile_drifted {configMap : ConfigMap} {report : Fields} {outcome : Outcome}
    (hrun : currentCheckRun invariant c.now = .ok run)
    (unrepaired : c.configMaps (repairConfigMapName invariant.name run.id) = none)
    (reported : ReportFor c invariant.generation run.id (reportConfigMapName invariant.name run.id)
      configMap report)
    (drift : stringField (enrichScheduledStatus report c.now run) "phase" = some "DriftDetected")
    (repair : reconcileRepairForDrift c invariant (enrichScheduledStatus report c.now run)
      (reportConfigMapName invariant.name run.id) run = some outcome) :
    reconcileJobBackedInvariant c invariant = outcome := by
  unfold reconcileJobBackedInvariant
  simp only [hrun, statusFromReportConfigMap_absent unrepaired,
    statusFromReportConfigMap_of_report reported, if_pos drift, repair]

theorem reconcileRepairForDrift_creates {status : Fields} {source : String} {policy : Unstructured}
    {mode : String} {env : List EnvVar} {job : Job}
    (allowed : findAutoRepairPolicy invariant c.policies = .ok (some (policy, mode)))
    (absent : c.jobs (repairJobName invariant.name run.id) = none)
    (henv : resolveCheckerEnv c invariant = .ok env)
    (hjob : buildRepairJobWithEnv invariant source run (env ++ repairPolicyEnv policy mode) mode =
      .ok job) :
    reconcileRepairForDrift c invariant status source run =
      some ⟨ensureCheckerRBAC c (repairServiceAccountName invariant) ++ [.createJob job,
        .patchStatus .built (buildRepairRunningStatus invariant c.now run
          (repairJobName invariant.name run.id) ((int64Field status "driftCount").getD 0))],
        .ok requeueSoon⟩ := by
  unfold reconcileRepairForDrift
  simp only [allowed, absent, henv, hjob, Outcome.after]

/-- Reported drift gets its repair Job where a policy allows the repair. -/
theorem reconcile_repairs {configMap : ConfigMap} {report : Fields} {policy : Unstructured}
    {mode : String} {env : List EnvVar} {job : Job}
    (hrun : currentCheckRun invariant c.now = .ok run)
    (unrepaired : c.configMaps (repairConfigMapName invariant.name run.id) = none)
    (reported : ReportFor c invariant.generation run.id (reportConfigMapName invariant.name run.id)
      configMap report)
    (drift : stringField (enrichScheduledStatus report c.now run) "phase" = some "DriftDetected")
    (allowed : findAutoRepairPolicy invariant c.policies = .ok (some (policy, mode)))
    (absent : c.jobs (repairJobName invariant.name run.id) = none)
    (henv : resolveCheckerEnv c invariant = .ok env)
    (hjob : buildRepairJobWithEnv invariant (reportConfigMapName invariant.name run.id) run
      (env ++ repairPolicyEnv policy mode) mode = .ok job) :
    createdJobs (reconcileJobBackedInvariant c invariant).writes = [job] := by
  rw [reconcile_drifted hrun unrepaired reported drift
    (reconcileRepairForDrift_creates allowed absent henv hjob), createdJobs_append, createdJobs_rbac]
  rfl

end Passes

end KubeDataGuard
