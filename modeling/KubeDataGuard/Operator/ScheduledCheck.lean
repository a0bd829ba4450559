import KubeDataGuard.Operator.Authorisation
import KubeDataGuard.Operator.Branches
import KubeDataGuard.Operator.FanOut

/-!
# A scheduled Invariant

One Invariant with a schedule, a view and a policy, in whatever state its Jobs
and reports are: the passes that create the checker and the repair Job of a
slot, and the worker that publishes in between.
-/

namespace KubeDataGuard

open Runs

def ordersSpec : Fields :=
  [("type", .str "aggregate"), ("checkIntervalSeconds", .int 60),
    ("derivedViewRef", .str "orders-search-index")]

def ordersResource : Option Fields → Resource
  | none => ⟨0, 1, jobMode, [("spec", .obj ordersSpec)]⟩
  | some status => ⟨0, 1, jobMode, [("status", .obj status), ("spec", .obj ordersSpec)]⟩

def ordersInvariant (status : Option Fields) : Unstructured :=
  { ordersResource status with ns := "default", name := "orders" }

/-- The namespace with its view, its source and its policy, and the checker's account in place. -/
def orders (now : Int) (status : Option Fields) (jobs : String → Option Job)
    (configMaps : String → Option ConfigMap) : Cluster where
  ns := "default"
  now := now
  nextUid := 1
  invariants := Function.update (fun _ => none) "orders" (some (ordersResource status))
  jobs := jobs
  configMaps := configMaps
  policies := [reindexPolicy]
  derivedViews name := searchEntries.lookup name
  dataSources name := postgresEntries.lookup name
  serviceAccounts := ["dataguard-checker"]
  roles := ["dataguard-checker"]
  roleBindings := ["dataguard-checker"]

def ordersBefore : Cluster :=
  { orders 0 none (fun _ => none) (fun _ => none) with
    nextUid := 0
    invariants := fun _ => none
    policies := [] }

/-- A run of the schedule that starts with its slot. -/
def slotRun (id : String) : CheckRun :=
  { id := id
    intervalSeconds := 60
    nextRequeue := 60000000000
    scheduled := true }

def firstSlot : CheckRun := slotRun "g1-t0"

def nextSlot : CheckRun := slotRun "g1-t1"

def ordersJob (run : CheckRun) : Job where
  name := checkerJobName "orders" run.id
  labels := checkerLabels (ordersInvariant none)
  ownerReferences := invariantOwnerReferences (ordersInvariant none)
  ttlSecondsAfterFinished := 600
  activeDeadlineSeconds := 300
  serviceAccountName := "dataguard-checker"
  image := "kubedataguard-dataguard:latest"
  args :=
    { kind := .checkJob
      check := checkArgs (ordersInvariant none) run 60
      configMap := reportConfigMapName "orders" run.id
      observedGeneration := 1 }
  env := upsertEnvVar (upsertEnvVar (checkerEnv (ordersInvariant none))
      (secretEnvVar "POSTGRES_DSN" "orders-postgres-secret" "dsn"))
    (secretEnvVar "OPENSEARCH_URL" "orders-opensearch-secret" "url")

def ordersRepairJob (run : CheckRun) : Job where
  name := repairJobName "orders" run.id
  labels := repairLabels (ordersInvariant none)
  ownerReferences := invariantOwnerReferences (ordersInvariant none)
  ttlSecondsAfterFinished := 600
  activeDeadlineSeconds := 300
  serviceAccountName := "dataguard-checker"
  image := "kubedataguard-dataguard:latest"
  args :=
    { kind := .repairJob (reportConfigMapName "orders" run.id) "direct-reindex"
      check := checkArgs (ordersInvariant none) run 60
      configMap := repairConfigMapName "orders" run.id
      observedGeneration := 1 }
  env := (ordersJob run).env ++ repairPolicyEnv reindexPolicy "direct-reindex"

/-- What the worker of a checker Job reports of two summaries. -/
def ordersStatus (run : CheckRun) (source target : OrderSummary) : Fields :=
  jobStatus (ordersJob run).args
    (comparePaidOrderAggregates source target
      ((storesOnly 0).readings.evidence 60 source.sourceWatermark none))
    "file:///tmp/dataguard-reports/report.json"

section Orders

variable (now : Int) (status : Option Fields) (jobs : String → Option Job)
  (configMaps : String → Option ConfigMap)

theorem orders_invariants :
    (orders now status jobs configMaps).invariants "orders" = some (ordersResource status) := by
  change Function.update (fun _ => none) "orders" (some (ordersResource status)) "orders" = _
  rw [Function.update_self]

theorem orders_invariant :
    (orders now status jobs configMaps).invariant "orders" = some (ordersInvariant status) := by
  unfold Cluster.invariant
  rw [orders_invariants]
  rfl

theorem ordersResource_patchStatus (status' : Fields) :
    (ordersResource status).patchStatus status' = ordersResource (some status') := by
  cases status <;> rfl

theorem orders_first : currentCheckRun (ordersInvariant status) 0 = .ok firstSlot := by
  cases status <;> rfl

theorem orders_next : currentCheckRun (ordersInvariant status) 60000000000 = .ok nextSlot := by
  cases status <;> rfl

theorem orders_generation : (ordersInvariant status).generation = 1 := by
  cases status <;> rfl

theorem orders_mode : checkerMode (ordersInvariant status) = "job" := by
  cases status <;> rfl

theorem orders_env : resolveCheckerEnv (orders now status jobs configMaps) (ordersInvariant status) =
    .ok (ordersJob firstSlot).env := by
  cases status <;> rfl

theorem orders_checkerJob (run : CheckRun) :
    buildCheckerJobWithEnv (ordersInvariant status) run (ordersJob firstSlot).env =
      .ok (ordersJob run) := by
  cases status <;> rfl

/-- The status is written over, the rest stays. -/
theorem orders_patched (origin : Origin) (status' : Fields) :
    (orders now status jobs configMaps).apply "orders" (.patchStatus origin status') =
      orders now (some status') jobs configMaps := by
  unfold Cluster.apply
  simp only [orders_invariants, Cluster.setInvariant, ordersResource_patchStatus]
  unfold orders
  simp only [Function.update_idem]

theorem orders_account :
    ensureCheckerRBAC (orders now status jobs configMaps) "dataguard-checker" = [] := rfl

variable {now status jobs configMaps} {run : CheckRun}

def checkerRunning (status : Option Fields) (now : Int) (run : CheckRun) : Fields :=
  buildJobRunningStatus (ordersInvariant status) now run (checkerJobName "orders" run.id)

/-- A pass that makes a Job and says so. -/
theorem orders_makes {job : Job} {status' : Fields} {requeue : Except Error Requeue}
    (pass : reconcileJobBackedInvariant (orders now status jobs configMaps) (ordersInvariant status) =
      ⟨[.createJob job, .patchStatus .built status'], requeue⟩) :
    Step (orders now status jobs configMaps)
      (.reconcile "orders" [.createJob job, .patchStatus .built status'])
      (orders now (some status') (Function.update jobs job.name (some job)) configMaps) := by
  have step := Step.reconcile (orders now status jobs configMaps) "orders" _ _
    (orders_invariant now status jobs configMaps) (orders_mode status) List.prefix_rfl
  rw [pass] at step
  have result : (orders now status jobs configMaps).applyAll "orders"
      [.createJob job, .patchStatus .built status'] =
      orders now (some status') (Function.update jobs job.name (some job)) configMaps :=
    orders_patched now status _ configMaps .built status'
  rwa [result] at step

/-- A slot without reports gets its checker Job. -/
theorem orders_check_pass (hrun : currentCheckRun (ordersInvariant status) now = .ok run)
    (unrepaired : configMaps (repairConfigMapName "orders" run.id) = none)
    (unreported : configMaps (reportConfigMapName "orders" run.id) = none)
    (absent : jobs (checkerJobName "orders" run.id) = none)
    (patch : shouldPatchCheckerRunningStatus (ordersInvariant status) = true) :
    reconcileJobBackedInvariant (orders now status jobs configMaps) (ordersInvariant status) =
      ⟨[.createJob (ordersJob run), .patchStatus .built (checkerRunning status now run)],
        .ok requeueSoon⟩ := by
  have account : checkerServiceAccountName (ordersInvariant status) = "dataguard-checker" := by
    cases status <;> rfl
  have pass := reconcile_unreported (c := orders now status jobs configMaps) hrun unrepaired unreported
  rw [reconcileCheckerJob_creates absent (orders_env now status jobs configMaps)
    (orders_checkerJob status run), account, orders_account, if_pos patch] at pass
  exact pass

theorem orders_checks (hrun : currentCheckRun (ordersInvariant status) now = .ok run)
    (unrepaired : configMaps (repairConfigMapName "orders" run.id) = none)
    (unreported : configMaps (reportConfigMapName "orders" run.id) = none)
    (absent : jobs (checkerJobName "orders" run.id) = none)
    (patch : shouldPatchCheckerRunningStatus (ordersInvariant status) = true) :
    Step (orders now status jobs configMaps)
      (.reconcile "orders"
        [.createJob (ordersJob run), .patchStatus .built (checkerRunning status now run)])
      (orders now (some (checkerRunning status now run))
        (Function.update jobs (checkerJobName "orders" run.id) (some (ordersJob run))) configMaps) :=
  orders_makes (orders_check_pass hrun unrepaired unreported absent patch)

/-- The worker of a checker Job publishes what it found. -/
theorem orders_works {k : String} {job : Job} {calls : WorkerCalls} {scan : ScanWorld}
    {configMap : ConfigMap} (found : jobs k = some job) (running : job.finishedAt = none)
    (published : (runJob calls job.args configMaps scan).2.published = some configMap) :
    Step (orders now status jobs configMaps) (.work k calls scan)
      (orders now status jobs (Function.update configMaps job.args.configMap (some configMap))) := by
  have step := Step.work (orders now status jobs configMaps) k job calls scan found running
  unfold Cluster.work at step
  rw [show (orders now status jobs configMaps).configMaps = configMaps from rfl, published] at step
  exact step

theorem orders_finishes {k : String} (job : Job) (condition : JobCondition) (found : jobs k = some job)
    (running : job.finishedAt = none) :
    Step (orders now status jobs configMaps) (.finish k condition)
      (orders now status (Function.update jobs k
        (some { job with conditions := [condition], finishedAt := some now })) configMaps) :=
  Step.finish (orders now status jobs configMaps) k job condition found running

theorem orders_ticks (elapsed : Nat) : Step (orders now status jobs configMaps) (.tick elapsed)
    (orders (now + elapsed) status jobs configMaps) :=
  Step.tick _ _

theorem orders_drift_published {run : CheckRun} (slot : run = firstSlot ∨ run = nextSlot)
    (configMaps : String → Option ConfigMap) : ∃ payload,
    (runJob (summaryCalls twoOrders oneOrder) (ordersJob run).args configMaps
      ⟨none, [], []⟩).2.published =
    some (reportConfigMap payload (ordersStatus run twoOrders oneOrder)) := by
  obtain rfl | rfl := slot <;> exact ⟨_, rfl⟩

theorem orders_agreement_published (configMaps : String → Option ConfigMap) : ∃ payload,
    (runJob (summaryCalls twoOrders twoOrders) (ordersJob firstSlot).args configMaps
      ⟨none, [], []⟩).2.published =
    some (reportConfigMap payload (ordersStatus firstSlot twoOrders twoOrders)) :=
  ⟨_, rfl⟩

/-- A published report is found under the names of its run. -/
theorem orders_report {source target : OrderSummary} {payload : Fields} (id : run.id ≠ "")
    (stored : configMaps (reportConfigMapName "orders" run.id) =
      some (reportConfigMap payload (ordersStatus run source target))) :
    ReportFor (orders now status jobs configMaps) 1 run.id (reportConfigMapName "orders" run.id)
      (reportConfigMap payload (ordersStatus run source target))
      (normalizeMembers (ordersStatus run source target)) := by
  have reads := (reported_jobStatus (ordersJob run).args (comparePaidOrderAggregates source target
      ((storesOnly 0).readings.evidence 60 source.sourceWatermark none))
    "file:///tmp/dataguard-reports/report.json").reads
  have checkId : (ordersJob run).args.check.checkId = run.id := by
    simp only [ordersJob, checkArgs, appendQueryArgs_checkId]
  refine ⟨stored, rfl, reads.generation rfl, ?_⟩
  have read := reads.checkId (by rw [checkId]; exact id)
  rwa [checkId] at read

theorem orders_drift {run : CheckRun} (slot : run = firstSlot ∨ run = nextSlot) :
    stringField (normalizeMembers (ordersStatus run twoOrders oneOrder)) "phase" =
      some "DriftDetected" := by
  obtain rfl | rfl := slot <;> rfl

/-- A report without drift is copied. -/
theorem orders_copy_pass {configMap : ConfigMap} {report current : Fields}
    (hrun : currentCheckRun (ordersInvariant status) now = .ok run)
    (unrepaired : configMaps (repairConfigMapName "orders" run.id) = none)
    (there : ReportFor (orders now status jobs configMaps) 1 run.id
      (reportConfigMapName "orders" run.id) configMap report)
    (calm : stringField report "phase" ≠ some "DriftDetected")
    (shown : currentStatus (ordersInvariant status) = some current)
    (changed : stringField current "phase" ≠ stringField report "phase") :
    reconcileJobBackedInvariant (orders now status jobs configMaps) (ordersInvariant status) =
      ⟨[.patchStatus (.copied (reportConfigMapName "orders" run.id))
        (enrichScheduledStatus report now run)], .ok (requeueForRun run)⟩ := by
  have phase := enriched_phase report now run
  rw [← orders_generation status] at there
  refine reconcile_copies (c := orders now status jobs configMaps) hrun unrepaired there ?_ ?_
  · rwa [enriched_phase]
  · exact reportStatusAlreadyApplied_phase shown (phase.symm ▸ changed)

def repairRunning (status : Option Fields) (now : Int) (run : CheckRun) (report : Fields) : Fields :=
  buildRepairRunningStatus (ordersInvariant status) now run (repairJobName "orders" run.id)
    ((int64Field (enrichScheduledStatus report now run) "driftCount").getD 0)

theorem repairRunning_phase (status : Option Fields) (now : Int) (run : CheckRun) (report : Fields) :
    stringField (repairRunning status now run report) "phase" = some "Repairing" :=
  lifecycleStatus_phase _ _ _ _ _

/-- Drift gets its repair Job. -/
theorem orders_repair_pass {configMap : ConfigMap} {report : Fields}
    (hrun : currentCheckRun (ordersInvariant status) now = .ok run)
    (unrepaired : configMaps (repairConfigMapName "orders" run.id) = none)
    (there : ReportFor (orders now status jobs configMaps) 1 run.id
      (reportConfigMapName "orders" run.id) configMap report)
    (drift : stringField report "phase" = some "DriftDetected")
    (absent : jobs (repairJobName "orders" run.id) = none) :
    reconcileJobBackedInvariant (orders now status jobs configMaps) (ordersInvariant status) =
      ⟨[.createJob (ordersRepairJob run), .patchStatus .built (repairRunning status now run report)],
        .ok requeueSoon⟩ := by
  rw [← orders_generation status] at there
  have drifted := (enriched_phase report now run).trans drift
  have account : repairServiceAccountName (ordersInvariant status) = "dataguard-checker" := by
    cases status <;> rfl
  have allowed : findAutoRepairPolicy (ordersInvariant status)
      (orders now status jobs configMaps).policies = .ok (some (reindexPolicy, "direct-reindex")) := by
    cases status <;> rfl
  have built : buildRepairJobWithEnv (ordersInvariant status) (reportConfigMapName "orders" run.id) run
      ((ordersJob firstSlot).env ++ repairPolicyEnv reindexPolicy "direct-reindex") "direct-reindex" =
      .ok (ordersRepairJob run) := by
    cases status <;> rfl
  have pass := reconcile_drifted (c := orders now status jobs configMaps) hrun unrepaired there drifted
    (reconcileRepairForDrift_creates allowed absent (orders_env now status jobs configMaps) built)
  rw [account, orders_account] at pass
  exact pass

theorem orders_repairs {configMap : ConfigMap} {report : Fields}
    (hrun : currentCheckRun (ordersInvariant status) now = .ok run)
    (unrepaired : configMaps (repairConfigMapName "orders" run.id) = none)
    (there : ReportFor (orders now status jobs configMaps) 1 run.id
      (reportConfigMapName "orders" run.id) configMap report)
    (drift : stringField report "phase" = some "DriftDetected")
    (absent : jobs (repairJobName "orders" run.id) = none) :
    ∃ repairing, stringField repairing "phase" = some "Repairing" ∧
      Step (orders now status jobs configMaps)
        (.reconcile "orders" [.createJob (ordersRepairJob run), .patchStatus .built repairing])
        (orders now (some repairing)
          (Function.update jobs (repairJobName "orders" run.id) (some (ordersRepairJob run)))
          configMaps) :=
  ⟨repairRunning status now run report, repairRunning_phase status now run report,
    orders_makes (orders_repair_pass hrun unrepaired there drift absent)⟩

end Orders

/-! ## A first slot -/

def noJobs : String → Option Job := fun _ => none

def noConfigMaps : String → Option ConfigMap := fun _ => none

theorem orders_created : ∃ history,
    Run Started (Recorded Step) history (orders 0 none noJobs noConfigMaps) := by
  have started : Started ordersBefore :=
    ⟨⟨fun _ => rfl, fun _ => rfl, fun _ => rfl, rfl⟩, le_refl 0⟩
  have first := Step.setPolicies ordersBefore [reindexPolicy]
  have second := Step.create { ordersBefore with policies := [reindexPolicy] } "orders" jobMode
    ordersSpec rfl
  exact ⟨_, ((Run.start started).record first).record second⟩

def ordersRunning : Fields := checkerRunning none 0 firstSlot

def firstJobs : String → Option Job :=
  Function.update noJobs (checkerJobName "orders" "g1-t0") (some (ordersJob firstSlot))

theorem firstJobs_checker : firstJobs (checkerJobName "orders" "g1-t0") = some (ordersJob firstSlot) :=
  Function.update_self _ _ _

/-- The first slot's checker Job, once it is over. -/
def doneJob : Job :=
  { ordersJob firstSlot with
    conditions := [⟨.complete, true, "", ""⟩]
    finishedAt := some 0 }

def failedJob : Job :=
  { ordersJob firstSlot with
    conditions := [⟨.failed, true, "BackoffLimitExceeded", ""⟩]
    finishedAt := some 0 }

def doneJobs : String → Option Job :=
  Function.update firstJobs (checkerJobName "orders" "g1-t0") (some doneJob)

def failedJobs : String → Option Job :=
  Function.update firstJobs (checkerJobName "orders" "g1-t0") (some failedJob)

theorem doneJobs_checker : doneJobs (checkerJobName "orders" "g1-t0") = some doneJob :=
  Function.update_self _ _ _

theorem failedJobs_checker : failedJobs (checkerJobName "orders" "g1-t0") = some failedJob :=
  Function.update_self _ _ _

/-- The first slot's checker Job runs. -/
theorem orders_checking : ∃ history,
    Run Started (Recorded Step) history (orders 0 (some ordersRunning) firstJobs noConfigMaps) := by
  obtain ⟨history, run⟩ := orders_created
  have step : Step (orders 0 none noJobs noConfigMaps) _
      (orders 0 (some ordersRunning) firstJobs noConfigMaps) :=
    orders_checks (orders_first none) rfl rfl rfl rfl
  exact ⟨_, run.record step⟩

theorem orders_agreement : stringField (normalizeMembers (ordersStatus firstSlot twoOrders twoOrders))
    "phase" = some "Healthy" := rfl

/-- A published report of a slot, and nothing else. -/
def reportMaps (run : CheckRun) (payload : Fields) (target : OrderSummary) : String → Option ConfigMap :=
  Function.update noConfigMaps (reportConfigMapName "orders" run.id)
    (some (reportConfigMap payload (ordersStatus run twoOrders target)))

theorem reportMaps_stored (run : CheckRun) (payload : Fields) (target : OrderSummary) :
    reportMaps run payload target (reportConfigMapName "orders" run.id) =
      some (reportConfigMap payload (ordersStatus run twoOrders target)) :=
  Function.update_self _ _ _

theorem reportMaps_other {run : CheckRun} {k : String} (other : k ≠ reportConfigMapName "orders" run.id)
    (payload : Fields) (target : OrderSummary) : reportMaps run payload target k = none :=
  Function.update_of_ne other _ _

theorem first_unrepaired (payload : Fields) (target : OrderSummary) :
    reportMaps firstSlot payload target (repairConfigMapName "orders" "g1-t0") = none :=
  reportMaps_other (by decide +kernel) payload target

/-- The first slot's worker published what it found, when it was done. -/
theorem orders_reported {target : OrderSummary} {payload : Fields} {now : Int}
    (published : (runJob (summaryCalls twoOrders target) (ordersJob firstSlot).args noConfigMaps
      ⟨none, [], []⟩).2.published =
      some (reportConfigMap payload (ordersStatus firstSlot twoOrders target))) :
    Step (orders now (some ordersRunning) firstJobs noConfigMaps)
      (.work (checkerJobName "orders" "g1-t0") (summaryCalls twoOrders target) ⟨none, [], []⟩)
      (orders now (some ordersRunning) firstJobs (reportMaps firstSlot payload target)) :=
  orders_works firstJobs_checker rfl published

/-- The first slot's report of agreement is copied, whatever became of the Job. -/
theorem orders_agreement_pass (jobs : String → Option Job) (payload : Fields) :
    reconcileJobBackedInvariant
      (orders 0 (some ordersRunning) jobs (reportMaps firstSlot payload twoOrders))
      (ordersInvariant (some ordersRunning)) =
      ⟨[.patchStatus (.copied (reportConfigMapName "orders" "g1-t0"))
        (enrichScheduledStatus (normalizeMembers (ordersStatus firstSlot twoOrders twoOrders)) 0
          firstSlot)], .ok (requeueForRun firstSlot)⟩ := by
  have there : ReportFor
      (orders 0 (some ordersRunning) jobs (reportMaps firstSlot payload twoOrders)) 1 firstSlot.id
      (reportConfigMapName "orders" firstSlot.id) _ _ :=
    orders_report (by decide) (reportMaps_stored firstSlot payload twoOrders)
  exact orders_copy_pass (orders_first _) (first_unrepaired payload twoOrders) there
    (by rw [orders_agreement]; decide) rfl (by rw [orders_agreement]; decide)

def repairingJobs : String → Option Job :=
  Function.update firstJobs (repairJobName "orders" "g1-t0") (some (ordersRepairJob firstSlot))

/-- The first slot's report says drift, and the repair Job runs. -/
theorem orders_repairing : ∃ payload repairing history,
    stringField repairing "phase" = some "Repairing" ∧
    Run Started (Recorded Step) history
      (orders 0 (some repairing) repairingJobs (reportMaps firstSlot payload oneOrder)) := by
  obtain ⟨history, run⟩ := orders_checking
  obtain ⟨payload, published⟩ := orders_drift_published (Or.inl rfl) noConfigMaps
  have other : repairJobName "orders" "g1-t0" ≠ checkerJobName "orders" "g1-t0" := by decide +kernel
  have there : ReportFor
      (orders 0 (some ordersRunning) firstJobs (reportMaps firstSlot payload oneOrder)) 1 firstSlot.id
      (reportConfigMapName "orders" firstSlot.id) _ _ :=
    orders_report (by decide) (reportMaps_stored firstSlot payload oneOrder)
  obtain ⟨repairing, phase, step⟩ := orders_repairs (orders_first _)
    (first_unrepaired payload oneOrder) there (orders_drift (Or.inl rfl))
    (Function.update_of_ne other _ _)
  exact ⟨payload, repairing, _, phase, (run.record (orders_reported published)).record step⟩

end KubeDataGuard
