import KubeDataGuard.Operator.Publication

/-!
# The first check of an Invariant

An Invariant created in an empty namespace, whatever its name and its type: the
first pass creates its checker Job, and what the Job's worker publishes is there
for the next pass.
-/

namespace KubeDataGuard

open Runs

def Cluster.empty (ns : String) : Cluster where
  ns := ns
  now := 0
  nextUid := 0
  invariants _ := none
  jobs _ := none
  configMaps _ := none
  policies := []
  derivedViews _ := none
  dataSources _ := none
  serviceAccounts := []
  roles := []
  roleBindings := []

theorem Cluster.fresh_empty (ns : String) : Fresh (.empty ns) :=
  ⟨fun _ => rfl, fun _ => rfl, fun _ => rfl, rfl⟩

def jobMode : List (String × String) := [("dataguard.io/checker-mode", "job")]

def typeSpec (kind : String) : Fields := [("type", .str kind)]

/-- The run of an Invariant without a schedule that was never edited. -/
def firstRun : CheckRun := { id := "g1" }

section FirstCheck

variable (ns name kind : String) (uid : Uid)

def newResource : Resource := ⟨uid, 1, jobMode, [("spec", .obj (typeSpec kind))]⟩

def newInvariant : Unstructured := { newResource kind uid with ns := ns, name := name }

def firstJob : Job where
  name := checkerJobName name "g1"
  labels := checkerLabels (newInvariant ns name kind uid)
  ownerReferences := invariantOwnerReferences (newInvariant ns name kind uid)
  ttlSecondsAfterFinished := 600
  activeDeadlineSeconds := 300
  serviceAccountName := "dataguard-checker"
  image := "kubedataguard-dataguard:latest"
  args :=
    { kind := .checkJob
      check := checkArgs (newInvariant ns name kind uid) firstRun 60
      configMap := reportConfigMapName name "g1"
      observedGeneration := 1 }
  env := checkerEnv (newInvariant ns name kind uid)

def firstWrites : List Write :=
  [.createServiceAccount "dataguard-checker", .createRole "dataguard-checker",
    .createRoleBinding "dataguard-checker", .createJob (firstJob ns name kind uid),
    .patchStatus .built (buildJobRunningStatus (newInvariant ns name kind uid) 0 firstRun
      (checkerJobName name "g1"))]

def created : Cluster := (Cluster.empty ns).create name jobMode (typeSpec kind)

def checking : Cluster := (created ns name kind).applyAll name (firstWrites ns name kind 0)

theorem created_step : Step (.empty ns) (.create name jobMode (typeSpec kind)) (created ns name kind) :=
  .create _ _ _ _ rfl

theorem created_invariant :
    (created ns name kind).invariant name = some (newInvariant ns name kind 0) := by
  unfold Cluster.invariant
  rw [show (created ns name kind).invariants name = some (newResource kind 0) from
    Function.update_self _ _ _]
  rfl

theorem checking_step :
    Step (created ns name kind) (.reconcile name (firstWrites ns name kind 0))
      (checking ns name kind) := by
  refine .reconcile _ _ _ _ (created_invariant ns name kind) rfl ?_
  exact ⟨[], rfl⟩

theorem checking_job :
    (checking ns name kind).jobs (checkerJobName name "g1") = some (firstJob ns name kind 0) := by
  have created : createdJobs (firstWrites ns name kind 0) = [firstJob ns name kind 0] := rfl
  exact applyAll_created created _ _

theorem checking_configMaps : (checking ns name kind).configMaps = fun _ => none :=
  (applyAll_frame (created ns name kind) name (firstWrites ns name kind 0)).1

theorem checking_jobs : (checking ns name kind).jobs =
    Function.update (fun _ => none) (checkerJobName name "g1") (some (firstJob ns name kind 0)) := by
  have before : (created ns name kind).invariants name = some (newResource kind 0) :=
    Function.update_self _ _ _
  simp only [checking, firstWrites, Cluster.applyAll, List.foldl, Cluster.apply, Cluster.setJob,
    Cluster.setInvariant, before]
  rfl

/-- The Invariant with the status of its running Job. -/
def checkedInvariant : Unstructured :=
  { (newResource kind 0).patchStatus (buildJobRunningStatus (newInvariant ns name kind 0) 0 firstRun
      (checkerJobName name "g1")) with
    ns := ns
    name := name }

theorem checking_invariants : (checking ns name kind).invariants name =
    some (checkedInvariant ns name kind).toResource := by
  have before : (created ns name kind).invariants name = some (newResource kind 0) :=
    Function.update_self _ _ _
  simp only [checking, firstWrites, Cluster.applyAll, List.foldl, Cluster.apply, Cluster.setJob,
    Cluster.setInvariant, before, Function.update_self, checkedInvariant]

/-- The namespace once the report is published. -/
def reported (configMap : ConfigMap) : Cluster :=
  { checking ns name kind with
    configMaps := Function.update (fun _ => none) (reportConfigMapName name "g1") (some configMap) }

theorem reported_step {calls : WorkerCalls} {scan : ScanWorld} {configMap : ConfigMap}
    (published : (runJob calls (firstJob ns name kind 0).args (fun _ => none) scan).2.published =
      some configMap) :
    Step (checking ns name kind) (.work (checkerJobName name "g1") calls scan)
      (reported ns name kind configMap) := by
  have step := Step.work (checking ns name kind) _ _ calls scan (checking_job ns name kind) rfl
  have stored : (checking ns name kind).work (firstJob ns name kind 0) calls scan =
      reported ns name kind configMap := by
    unfold Cluster.work
    rw [checking_configMaps, published]
    unfold reported
    rw [← checking_configMaps ns name kind]
    rfl
  rwa [stored] at step

theorem reported_invariants (configMap : ConfigMap) :
    (reported ns name kind configMap).invariants name =
      some (checkedInvariant ns name kind).toResource := checking_invariants ns name kind

theorem reported_invariant (configMap : ConfigMap) :
    (reported ns name kind configMap).invariant name = some (checkedInvariant ns name kind) := by
  have own : (reported ns name kind configMap).ns = ns :=
    (applyAll_frame (created ns name kind) name (firstWrites ns name kind 0)).2.2.2.2
  unfold Cluster.invariant
  rw [reported_invariants, own]
  rfl

theorem reported_now (configMap : ConfigMap) : (reported ns name kind configMap).now = 0 :=
  (applyAll_frame (created ns name kind) name (firstWrites ns name kind 0)).2.2.1

theorem reported_configMaps (configMap : ConfigMap) : (reported ns name kind configMap).configMaps =
    Function.update (fun _ => none) (reportConfigMapName name "g1") (some configMap) := rfl

variable {ns name kind} {configMap : ConfigMap} {report : Fields} {healthy : Bool}

/-- The report of the first check is found by the next pass. -/
theorem reported_report (decoded : decodeStatusPayload configMap.statusJson = .ok report)
    (reads : Reads (firstJob ns name kind 0).args report healthy) :
    ReportFor (reported ns name kind configMap) 1 "g1" (reportConfigMapName name "g1") configMap
      report := by
  have stored : (reported ns name kind configMap).configMaps (reportConfigMapName name "g1") =
      some configMap := by
    rw [reported_configMaps, Function.update_self]
  refine ⟨stored, decoded, reads.generation rfl, ?_⟩
  have id : (firstJob ns name kind 0).args.check.checkId = "g1" := by
    simp [firstJob, checkArgs, firstRun]
  rw [reads.checkId (by rw [id]; decide), id]

theorem reported_unrepaired (apart : repairConfigMapName name "g1" ≠ reportConfigMapName name "g1")
    (configMap : ConfigMap) :
    (reported ns name kind configMap).configMaps (repairConfigMapName name "g1") = none := by
  rw [reported_configMaps, Function.update_of_ne apart]

/-- The next pass copies a report without drift. -/
theorem copied_step (apart : repairConfigMapName name "g1" ≠ reportConfigMapName name "g1")
    (decoded : decodeStatusPayload configMap.statusJson = .ok report)
    (reads : Reads (firstJob ns name kind 0).args report healthy)
    (phase : stringField report "phase" = some "Healthy") :
    Step (reported ns name kind configMap)
      (.reconcile name [.patchStatus (.copied (reportConfigMapName name "g1"))
        (enrichScheduledStatus report 0 firstRun)])
      ((reported ns name kind configMap).applyAll name
        [.patchStatus (.copied (reportConfigMapName name "g1"))
          (enrichScheduledStatus report 0 firstRun)]) := by
  have now := reported_now ns name kind configMap
  have current : currentCheckRun (checkedInvariant ns name kind) (reported ns name kind configMap).now =
      .ok firstRun := rfl
  have read : stringField (enrichScheduledStatus report (reported ns name kind configMap).now firstRun)
      "phase" = some "Healthy" := by
    unfold stringField at phase ⊢
    rwa [get?_enrichScheduledStatus _ _ _ (by decide)]
  have running : currentStatus (checkedInvariant ns name kind) = some (buildJobRunningStatus
      (newInvariant ns name kind 0) 0 firstRun (checkerJobName name "g1")) := rfl
  have unknown : stringField (buildJobRunningStatus (newInvariant ns name kind 0) 0 firstRun
      (checkerJobName name "g1")) "phase" = some "Unknown" := rfl
  have changed : reportStatusAlreadyApplied (checkedInvariant ns name kind)
      (enrichScheduledStatus report (reported ns name kind configMap).now firstRun) = false := by
    refine reportStatusAlreadyApplied_phase running ?_
    rw [unknown, read]
    decide
  have calm : stringField (enrichScheduledStatus report (reported ns name kind configMap).now firstRun)
      "phase" ≠ some "DriftDetected" := by
    rw [read]
    decide
  have pass := reconcile_copies current (reported_unrepaired apart configMap)
    (reported_report decoded reads) calm changed
  rw [now] at pass
  refine .reconcile _ _ _ _ (reported_invariant ns name kind configMap) rfl ?_
  rw [pass]
  exact List.prefix_rfl

end FirstCheck

/-- A worker that reads two summaries and publishes what it finds. -/
def summaryCalls (source target : OrderSummary) : WorkerCalls where
  checks :=
    { storesOnly 0 with
      fetchPaidOrderSummary := fun _ => .ok source
      paidOrderSummary := fun _ => .ok target }
  report := ⟨.ok "file:///tmp/dataguard-reports/report.json", none⟩
  failedAt := 0
  observability := .ok ()
  readReport := .ok ()
  fetchOrdersByIds := fun _ => .ok []
  indexOrder := fun _ => .ok ()
  request := fun _ _ => .ok []
  namespaceName := .ok "default"
  publish := .stored "configmap"

def summaryStatus (ns name : String) (source target : OrderSummary) : Fields :=
  jobStatus (firstJob ns name "aggregate" 0).args
    (comparePaidOrderAggregates source target
      ((storesOnly 0).readings.evidence 60 source.sourceWatermark none))
    "file:///tmp/dataguard-reports/report.json"

/-- What a pass reads of that worker's report. -/
def summaryReport (ns name : String) (source target : OrderSummary) : Fields :=
  normalizeMembers (summaryStatus ns name source target)

theorem summary_decoded (ns name : String) (source target : OrderSummary) (payload : Fields) :
    decodeStatusPayload (reportConfigMap payload (summaryStatus ns name source target)).statusJson =
      .ok (summaryReport ns name source target) := rfl

theorem summary_reads (ns name : String) (source target : OrderSummary) :
    ∃ healthy, Reads (firstJob ns name "aggregate" 0).args (summaryReport ns name source target)
      healthy :=
  ⟨_, (reported_jobStatus _ _ _).reads⟩

def oneOrder : OrderSummary := ⟨1, 600, none⟩

def twoOrders : OrderSummary := ⟨2, 1200, none⟩

theorem agreement_published (ns name : String) : ∃ payload,
    (runJob (summaryCalls twoOrders twoOrders) (firstJob ns name "aggregate" 0).args (fun _ => none)
      ⟨none, [], []⟩).2.published =
    some (reportConfigMap payload (summaryStatus ns name twoOrders twoOrders)) :=
  ⟨_, rfl⟩

theorem drift_published (ns name : String) : ∃ payload,
    (runJob (summaryCalls twoOrders oneOrder) (firstJob ns name "aggregate" 0).args (fun _ => none)
      ⟨none, [], []⟩).2.published =
    some (reportConfigMap payload (summaryStatus ns name twoOrders oneOrder)) :=
  ⟨_, rfl⟩

end KubeDataGuard
