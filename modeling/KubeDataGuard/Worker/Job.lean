import KubeDataGuard.Worker.Checker

/-!
# The worker's Jobs

`check-job` and `repair-job` of the command line: a check or a repair with its
verification, the status made from it, and the ConfigMap that is published.
Whatever a worker publishes as healthy rests on a complete check without drift.
-/

namespace KubeDataGuard

/-- The `data` of a report ConfigMap. -/
structure ConfigMap where
  statusJson : Payload
  repairInput : Payload
  reportJson : Payload := .empty

inductive JobKind
  | checkJob
  | repairJob (reportConfigMap repairMode : String)
  deriving DecidableEq, Repr

/-- The arguments of a Job's container, as the worker parses them. -/
structure JobArgs where
  kind : JobKind
  check : CheckArgs
  configMap : String
  observedGeneration : Int
  deriving DecidableEq, Repr

structure WorkerWorld where
  scan : ScanWorld
  published : Option ConfigMap := none

/-- The external calls of a Job. A publication may be stored although the
request raised. -/
structure WorkerCalls where
  checks : CheckCalls
  report : ReportCalls
  failedAt : Instant
  observability : Except Raised Unit
  readReport : Except Raised Unit
  fetchOrdersByIds : List (Option String) → Except Raised (List Order)
  indexOrder : Order → Except Raised Unit
  request : String → List (Option String) → Except Raised Fields
  namespaceName : Except Raised String
  publish : SaveOutcome

def Py.onScan {α : Type} (x : Py ScanWorld α) : Py WorkerWorld α := fun w =>
  match x w.scan with
  | (r, scan) => (r, { w with scan := scan })

/-! ## Publication -/

def candidateKeys : List String := ["order_id", "reason", "mismatches"]

def candidateItems : Json → Json
  | .arr items => .arr (items.filterMap fun item =>
    match item with
    | .obj members => some (.obj (members.filter fun e => decide (e.1 ∈ candidateKeys)))
    | _ => none)
  | _ => .arr []

def repairInput (report : Fields) : Json :=
  let get := fun key => (report.get? key).getD .null
  .obj [("kind", (report.get? "kind").getD (.str "KubeDataGuardRepairInput")),
    ("invariant", get "invariant"), ("status", get "status"), ("healthy", get "healthy"),
    ("missing", candidateItems (get "missing")), ("stale", candidateItems (get "stale")),
    ("freshness_violations", candidateItems (get "freshness_violations")),
    ("aggregate_mismatches", (report.get? "aggregate_mismatches").getD (.arr [])),
    ("sourceReportRef", get "sourceReportRef")]

def reportConfigMap (report status : Fields) : ConfigMap where
  statusJson := .json (.obj status)
  repairInput := .json (repairInput report)

def notSerializable : Raised := .exception "TypeError" "Object is not JSON serializable"

def publishReportConfigmap (calls : WorkerCalls) (report status : Fields) : Py WorkerWorld Unit :=
  fun w =>
    if (repairInput report).dumps && (Json.obj status).dumps then
      match calls.publish with
      | .stored _ => (.ok (), { w with published := some (reportConfigMap report status) })
      | .lost e => (.error e, w)
      | .storedThenRaised e => (.error e, { w with published := some (reportConfigMap report status) })
    else (.error notSerializable, w)

/-! ## Results -/

def guaranteeForInvariant (invariant : String) (compareFields : List String) : String :=
  match invariant with
  | "aggregate" => "aggregate"
  | "checksum" => "checksumMerkle"
  | "freshness" => "boundedFreshness"
  | "redis-freshness" => "boundedFreshness"
  | "clickhouse-aggregate" => "aggregate"
  | "query" => if compareFields = [] then "existence" else "existence+fieldEquality"
  | _ => "existence+fieldEquality"

/-- `f"{exc.__class__.__name__}: {exc}"` -/
def failureReason (cls text : String) : String := cls ++ ": " ++ text

/-- `status["checkID"] = check_id`, made only for a check id. -/
def withCheckId (checkId : String) (fields : Fields) : Fields :=
  if checkId = "" then fields else fields.set "checkID" (.str checkId)

def checkFailedStatus (args : JobArgs) (reason : String) (checkedAt : Instant) : Fields :=
  let eligibleBefore := iso (checkedAt - seconds args.check.maxLagSeconds)
  withCheckId args.check.checkId
    [("healthy", .bool false), ("phase", .str "CheckFailed"),
      ("guarantee", .str (guaranteeForInvariant args.check.invariant args.check.compareFields)),
      ("checkStatus", .str "failed"), ("driftCount", .int 0), ("counterexampleCount", .int 1),
      ("checkedRecords", .int 0), ("lastCheckedAt", .str (iso checkedAt)),
      ("observationWindow", .obj [("checkedAt", .str (iso checkedAt)),
        ("targetReadAt", .str (iso checkedAt)), ("maxLagSeconds", .int args.check.maxLagSeconds),
        ("eligibleRecordsBefore", .str eligibleBefore), ("completeness", .str "failed")]),
      ("observedGeneration", .int args.observedGeneration), ("reason", .str reason)]

def checkFailedPayload (args : JobArgs) (reason : String) (checkedAt : Instant) : Fields :=
  let eligibleBefore := iso (checkedAt - seconds args.check.maxLagSeconds)
  withCheckId args.check.checkId
    [("kind", .str "KubeDataGuardCheckFailureReport"), ("invariant", .str args.check.invariantName),
      ("status", .str "CheckFailed"), ("healthy", .bool false),
      ("guarantee", .str (guaranteeForInvariant args.check.invariant args.check.compareFields)),
      ("check_status", .str "failed"), ("drift_count", .int 0), ("checked_records", .int 0),
      ("counterexamples", .arr [.obj [("type", .str "checker_failure"), ("reason", .str reason)]]),
      ("observation_window", .obj [("checked_at", .str (iso checkedAt)),
        ("target_read_at", .str (iso checkedAt)), ("max_lag_seconds", .int args.check.maxLagSeconds),
        ("eligible_records_before", .str eligibleBefore), ("completeness", .str "failed")]),
      ("kubernetes_status", .obj (checkFailedStatus args reason checkedAt))]

/-- The status of a report, for the generation and the check id of its Job. -/
def jobStatus (args : JobArgs) (report : DriftReport) (reportRef : String) : Fields :=
  withCheckId args.check.checkId
    ((report.kubernetesStatus (some reportRef)).set "observedGeneration"
      (.int args.observedGeneration))

def repairJobStatus (args : JobArgs) (repairAction : String) (verification : DriftReport)
    (repairReportRef : String) : Fields :=
  let status := ((jobStatus args verification repairReportRef).set "repairRef"
    (.str repairReportRef)).set "repairAction" (.str repairAction)
  if verification.healthy then status
  else ((status.set "phase" (.str "RepairFailed")).set "healthy" (.bool false)).set "reason"
    (.str "repair verification still found drift")

def repairJobPayload (args : JobArgs) (sourceReportRef : String) (repairResult : Fields)
    (verification : DriftReport) (status : Fields) : Fields :=
  [("kind", .str "KubeDataGuardRepairReport"), ("invariant", .str args.check.invariantName),
    ("sourceReportRef", .str sourceReportRef), ("repair", .obj repairResult),
    ("verification", .obj verification.toDict), ("status", (status.get? "phase").getD .null),
    ("healthy", (status.get? "healthy").getD .null)]

/-! ## Repairs -/

def repairModes : List String :=
  ["direct-reindex", "emit-reconcile-events", "replay-kafka", "call-webhook", "invalidate-cache",
    "clickhouse-backfill"]

/-- `item["order_id"]`, where the worker's items hold a text or `None`. -/
def orderId (item : Json) : Except Raised (Option String) :=
  match item with
  | .obj members =>
    match Fields.get? members "order_id" with
    | some (.str id) => .ok (some id)
    | some .null => .ok none
    | some _ => .error (.exception "TypeError" "order_id")
    | none => .error (.exception "KeyError" "'order_id'")
  | _ => .error (.exception "TypeError" "indices must be integers")

/-- `sorted({item["order_id"] for item in items})`; `sorted` compares no `None` with a text. -/
def candidateOrderIds (items : List Json) : Except Raised (List (Option String)) := do
  let ids ← items.mapM orderId
  let distinct := ids.dedup
  if none ∈ distinct ∧ distinct ≠ [none] then
    .error (.exception "TypeError" "'<' not supported between instances of 'str' and 'NoneType'")
  else if distinct = [none] then return [none]
  else return ((distinct.filterMap fun id => id).insertionSort (· ≤ ·)).map some

def repairOrderIds (payload : Json) : Except Raised (List (Option String)) :=
  let items := fun key => match payload.get key with
    | .arr items => items
    | _ => []
  candidateOrderIds (items "missing" ++ items "stale" ++ items "freshness_violations")

def repairFromPayload (calls : WorkerCalls) (payload : Json) (mode : String) :
    Except Raised Fields := do
  let ids ← repairOrderIds payload
  if mode ∉ repairModes then .error (valueError ("unsupported repair mode: " ++ mode))
  else if mode ≠ "direct-reindex" then calls.request mode ids
  else
    let orders ← calls.fetchOrdersByIds ids
    let _ ← orders.mapM calls.indexOrder
    return [("candidate_order_ids", .arr (ids.map optionalText)), ("repair_mode", .str mode),
      ("repaired", .int orders.length)]

/-! ## Jobs -/

/-- The checkpoint id in a report's scan evidence. -/
def reportCheckpointId (report : DriftReport) : String :=
  match report.observationWindow with
  | some w =>
    match w.sourceScan.get "checkpoint_id" with
    | .str id => id
    | _ => ""
  | none => ""

/-- The report is written and its checkpoint told where. -/
def writeReportArtifacts (calls : WorkerCalls) (report : DriftReport) : Py WorkerWorld String := do
  let reportRef ← Py.ofExcept calls.report.writeReport
  Py.onScan (updateScanCheckpointReportRef calls.checks.query calls.report
    (reportCheckpointId report) reportRef)
  return reportRef

def runCheckJob (calls : WorkerCalls) (args : JobArgs) : Py WorkerWorld Unit := do
  let _ ← Py.ofExcept calls.namespaceName
  fun w =>
    match Py.onScan (checkInvariant calls.checks args.check) w with
    | (.error (.exception cls text), w) =>
      let reason := failureReason cls text
      (do
        Py.ofExcept calls.observability
        publishReportConfigmap calls (checkFailedPayload args reason calls.failedAt)
          (checkFailedStatus args reason calls.failedAt)) w
    | (.error e, w) => (.error e, w)
    | (.ok report, w) =>
      (do
        let reportRef ← writeReportArtifacts calls report
        let status := jobStatus args report reportRef
        Py.ofExcept calls.observability
        publishReportConfigmap calls
          (withCheckId args.check.checkId
            (Fields.set report.toDict "kubernetes_status" (.obj status))) status) w

/-- `json.loads(data.get("repair-input.json") or data["report.json"])` -/
def sourceReport : Option ConfigMap → Except Raised Json
  | none => .error (.exception "HTTPError" "HTTP Error 404: Not Found")
  | some configMap =>
    match configMap.repairInput, configMap.reportJson with
    | .json value, _ => .ok value
    | .malformed, _ => .error (.exception "JSONDecodeError" "Expecting value")
    | .empty, .json value => .ok value
    | .empty, .malformed => .error (.exception "JSONDecodeError" "Expecting value")
    | .empty, .empty => .error (.exception "KeyError" "'report.json'")

def runRepairJob (calls : WorkerCalls) (args : JobArgs) (reportConfigMap mode : String)
    (source : Option ConfigMap) : Py WorkerWorld Unit := do
  let namespaceName ← Py.ofExcept calls.namespaceName
  let sourceReportRef := "configmap://" ++ namespaceName ++ "/" ++ reportConfigMap ++
    "/repair-input.json"
  Py.ofExcept calls.readReport
  let payload ← Py.ofExcept (sourceReport source)
  let repairResult ← Py.ofExcept (repairFromPayload calls payload mode)
  let verification ← Py.onScan (checkInvariant calls.checks args.check)
  let reportRef ← writeReportArtifacts calls verification
  let status := repairJobStatus args mode verification reportRef
  Py.ofExcept calls.observability
  publishReportConfigmap calls (repairJobPayload args sourceReportRef
    (repairResult.set "sourceReportRef" (.str sourceReportRef)) verification status) status

/-- A Job runs against the ConfigMaps there are; nothing is published yet. -/
def runJob (calls : WorkerCalls) (args : JobArgs) (configMaps : String → Option ConfigMap)
    (scan : ScanWorld) : Except Raised Unit × WorkerWorld :=
  match args.kind with
  | .checkJob => runCheckJob calls args ⟨scan, none⟩
  | .repairJob reportConfigMap mode =>
    runRepairJob calls args reportConfigMap mode (configMaps reportConfigMap) ⟨scan, none⟩

/-! ## What a Job publishes -/

/-- The statuses a run of a Job may publish. -/
inductive JobOutcome (calls : WorkerCalls) (args : JobArgs) (scan : ScanWorld) : Fields → Prop
  | failed (reason : String) (checkedAt : Instant) :
      JobOutcome calls args scan (checkFailedStatus args reason checkedAt)
  | checked (report : DriftReport) (after : ScanWorld) (reportRef : String)
      (ran : checkInvariant calls.checks args.check scan = (.ok report, after)) :
      JobOutcome calls args scan (jobStatus args report reportRef)
  | repaired (verification : DriftReport) (after : ScanWorld) (repairAction reportRef : String)
      (ran : checkInvariant calls.checks args.check scan = (.ok verification, after)) :
      JobOutcome calls args scan (repairJobStatus args repairAction verification reportRef)

section Published

variable {calls : WorkerCalls} {args : JobArgs} {w t : WorkerWorld} {cm : ConfigMap}

theorem onScan_run {α : Type} {x : Py ScanWorld α} {r : Except Raised α}
    (h : Py.onScan x w = (r, t)) : x w.scan = (r, t.scan) ∧ t.published = w.published := by
  cases hx : x w.scan with
  | mk r' scan =>
    rw [Py.onScan, hx] at h
    cases h
    exact ⟨rfl, rfl⟩

theorem writeReportArtifacts_published {report : DriftReport} {r : Except Raised String}
    (h : writeReportArtifacts calls report w = (r, t)) : t.published = w.published := by
  obtain ⟨e, -, rfl⟩ | ⟨reportRef, -, h⟩ := Py.ofExcept_cases h
  · rfl
  obtain ⟨e, hscan, -⟩ | ⟨_, u, hscan, h⟩ := Py.bind_cases h
  · exact (onScan_run hscan).2
  · cases h
    exact (onScan_run hscan).2

theorem publishReportConfigmap_published {report status : Fields} {r : Except Raised Unit}
    (h : publishReportConfigmap calls report status w = (r, t)) (none : w.published = none)
    (some : t.published = some cm) : cm = reportConfigMap report status := by
  unfold publishReportConfigmap at h
  split at h
  · split at h <;> cases h
    · exact (Option.some.inj some).symm
    · rw [none] at some
      cases some
    · exact (Option.some.inj some).symm
  · cases h
    rw [none] at some
    cases some

theorem publishReportConfigmap_ok {report status : Fields}
    (h : publishReportConfigmap calls report status w = (.ok (), t)) :
    t.published = some (reportConfigMap report status) ∧ t.scan = w.scan := by
  unfold publishReportConfigmap at h
  split at h
  · split at h <;> cases h
    exact ⟨rfl, rfl⟩
  · cases h

/-- A call that published did not end where it only read. -/
theorem published_past {α β : Type} {x : Except Raised α} {f : α → Py WorkerWorld β}
    {r : Except Raised β} (h : (Py.ofExcept x >>= f) w = (r, t)) (none : w.published = none)
    (some : t.published = some cm) : ∃ a, x = .ok a ∧ f a w = (r, t) := by
  obtain ⟨e, -, rfl⟩ | past := Py.ofExcept_cases h
  · rw [none] at some
    cases some
  · exact past

/-- The observability files come before the publication. -/
theorem observed_published {report status : Fields} {r : Except Raised Unit}
    (h : (do
      Py.ofExcept calls.observability
      publishReportConfigmap calls report status : Py WorkerWorld Unit) w = (r, t))
    (none : w.published = none) (some : t.published = some cm) :
    cm = reportConfigMap report status := by
  obtain ⟨_, -, h⟩ := published_past h none some
  exact publishReportConfigmap_published h none some

theorem runCheckJob_published {r : Except Raised Unit} (h : runCheckJob calls args w = (r, t))
    (none : w.published = none) (some : t.published = some cm) :
    ∃ payload status, cm = reportConfigMap payload status ∧ JobOutcome calls args w.scan status := by
  obtain ⟨_, -, h⟩ := published_past h none some
  cases hcheck : Py.onScan (checkInvariant calls.checks args.check) w with
  | mk result u =>
    obtain ⟨ran, kept⟩ := onScan_run hcheck
    rw [none] at kept
    simp only [hcheck] at h
    cases result with
    | error e =>
      cases e with
      | exception cls text => exact ⟨_, _, observed_published h kept some, .failed _ _⟩
      | systemExit text =>
        cases h
        rw [kept] at some
        cases some
      | killed =>
        cases h
        rw [kept] at some
        cases some
    | ok report =>
      obtain ⟨e, hwrite, -⟩ | ⟨reportRef, v, hwrite, h⟩ := Py.bind_cases h
      · rw [writeReportArtifacts_published hwrite, kept] at some
        cases some
      · have written := (writeReportArtifacts_published hwrite).trans kept
        exact ⟨_, _, observed_published h written some, .checked report u.scan reportRef ran⟩

theorem runRepairJob_published {reportConfigMap mode : String} {source : Option ConfigMap}
    {r : Except Raised Unit} (h : runRepairJob calls args reportConfigMap mode source w = (r, t))
    (none : w.published = none) (some : t.published = some cm) :
    ∃ payload status, cm = KubeDataGuard.reportConfigMap payload status ∧
      JobOutcome calls args w.scan status := by
  obtain ⟨_, -, h⟩ := published_past h none some
  obtain ⟨_, -, h⟩ := published_past h none some
  obtain ⟨_, -, h⟩ := published_past h none some
  obtain ⟨_, -, h⟩ := published_past h none some
  obtain ⟨e, hcheck, -⟩ | ⟨verification, u, hcheck, h⟩ := Py.bind_cases h
  · rw [(onScan_run hcheck).2, none] at some
    cases some
  obtain ⟨ran, kept⟩ := onScan_run hcheck
  rw [none] at kept
  obtain ⟨e, hwrite, -⟩ | ⟨reportRef, v, hwrite, h⟩ := Py.bind_cases h
  · rw [writeReportArtifacts_published hwrite, kept] at some
    cases some
  have written := (writeReportArtifacts_published hwrite).trans kept
  exact ⟨_, _, observed_published h written some, .repaired verification u.scan mode reportRef ran⟩

end Published

/-- A Job publishes the status of one of its outcomes. -/
theorem runJob_published {calls : WorkerCalls} {args : JobArgs}
    {configMaps : String → Option ConfigMap} {scan : ScanWorld} {cm : ConfigMap}
    (h : (runJob calls args configMaps scan).2.published = some cm) :
    ∃ payload status, cm = reportConfigMap payload status ∧ JobOutcome calls args scan status := by
  unfold runJob at h
  split at h
  · exact runCheckJob_published rfl rfl h
  · exact runRepairJob_published rfl rfl h

/-! ## What a published status reports -/

/-- The check behind a status was complete and found no drift; a query check
scanned its source from the first key to the end. -/
structure Backed (calls : WorkerCalls) (args : JobArgs) (scan : ScanWorld) (report : DriftReport)
    (after : ScanWorld) : Prop where
  ran : checkInvariant calls.checks args.check scan = (.ok report, after)
  complete : report.checkStatus = .complete
  missing : report.missing = []
  stale : report.stale = []
  aggregateMismatches : report.aggregateMismatches = []
  freshnessViolations : report.freshnessViolations = []
  scanned : args.check.invariant = "query" → ∃ pageSize pages,
    boundedSourceScanPageSize args.check.sourceScanPageSize = .ok pageSize ∧
    Pages args.check.keyField pageSize .null pages ∧ after.fetched = scan.fetched ++ pages ∧
    report.checkedRecords = (pages.flatMap Prod.snd).length

theorem backed_of_healthy {calls : WorkerCalls} {args : JobArgs} {scan after : ScanWorld}
    {report : DriftReport}
    (ran : checkInvariant calls.checks args.check scan = (.ok report, after))
    (healthy : report.healthy = true) : Backed calls args scan report after := by
  obtain ⟨complete, noDrift⟩ := report.healthy_iff.mp healthy
  obtain ⟨missing, stale, aggregates, freshness⟩ := report.driftCount_zero.mp noDrift
  refine ⟨ran, complete, missing, stale, aggregates, freshness, ?_⟩
  intro query
  rw [checkInvariant, query] at ran
  simp only at ran
  split at ran
  · cases ran
  split at ran
  · cases ran
  exact checkQueryInvariant_complete ran complete

/-- What a published status reports of its check. -/
structure Reported (args : JobArgs) (status : Fields) (healthy : Bool) : Prop where
  unique : status.UniqueKeys
  generation : status.get? "observedGeneration" = some (.int args.observedGeneration)
  checkId : args.check.checkId ≠ "" → status.get? "checkID" = some (.str args.check.checkId)
  flag : status.get? "healthy" = some (.bool healthy)
  phase : ∃ phase, status.get? "phase" = some (.str phase) ∧ (phase = "Healthy" ↔ healthy = true)

theorem reported_withCheckId {args : JobArgs} {status : Fields} {healthy : Bool}
    (unique : status.UniqueKeys)
    (generation : status.get? "observedGeneration" = some (.int args.observedGeneration))
    (hhealthy : status.get? "healthy" = some (.bool healthy))
    (phase : ∃ phase, status.get? "phase" = some (.str phase) ∧ (phase = "Healthy" ↔ healthy = true)) :
    Reported args (withCheckId args.check.checkId status) healthy := by
  unfold withCheckId
  split
  · rename_i absent
    exact ⟨unique, generation, fun h => absurd absent h, hhealthy, phase⟩
  · refine ⟨Fields.uniqueKeys_set unique _ _, ?_, fun _ => by simp, ?_, ?_⟩
    · rw [Fields.get?_set_ne _ _ (by decide), generation]
    · rw [Fields.get?_set_ne _ _ (by decide), hhealthy]
    · rwa [Fields.get?_set_ne _ _ (by decide)]

theorem reported_set {args : JobArgs} {status : Fields} {healthy : Bool}
    (reported : Reported args status healthy) (key : String) (value : Json)
    (other : key ∉ ["observedGeneration", "checkID", "healthy", "phase"]) :
    Reported args (status.set key value) healthy := by
  simp only [List.mem_cons, List.not_mem_nil, or_false, not_or] at other
  obtain ⟨generation, checkId, hhealthy, phase⟩ := other
  refine ⟨Fields.uniqueKeys_set reported.unique _ _, ?_, fun h => ?_, ?_, ?_⟩
  · rw [Fields.get?_set_ne _ _ (Ne.symm generation), reported.generation]
  · rw [Fields.get?_set_ne _ _ (Ne.symm checkId), reported.checkId h]
  · rw [Fields.get?_set_ne _ _ (Ne.symm hhealthy), reported.flag]
  · rw [Fields.get?_set_ne _ _ (Ne.symm phase)]
    exact reported.phase

theorem reported_jobStatus (args : JobArgs) (report : DriftReport) (reportRef : String) :
    Reported args (jobStatus args report reportRef) report.healthy := by
  apply reported_withCheckId
  · apply Fields.uniqueKeys_set
    unfold DriftReport.kubernetesStatus Fields.UniqueKeys
    simp
  · simp
  · rw [Fields.get?_set_ne _ _ (by decide)]
    rfl
  · refine ⟨report.status.text, ?_, ?_⟩
    · rw [Fields.get?_set_ne _ _ (by decide)]
      rfl
    · rw [DriftReport.healthy, decide_eq_true_iff]
      exact Phase.text_injective.eq_iff (a := report.status) (b := .healthy)

theorem reported_checkFailedStatus (args : JobArgs) (reason : String) (checkedAt : Instant) :
    Reported args (checkFailedStatus args reason checkedAt) false := by
  apply reported_withCheckId
  · unfold Fields.UniqueKeys
    simp
  · rfl
  · rfl
  · exact ⟨"CheckFailed", rfl, by decide⟩

/-- The status of a verification is its report's, or a failed repair's. -/
theorem reported_repairJobStatus (args : JobArgs) (repairAction : String) (verification : DriftReport)
    (reportRef : String) :
    Reported args (repairJobStatus args repairAction verification reportRef) verification.healthy := by
  have reported := reported_set (reported_set (reported_jobStatus args verification reportRef)
    "repairRef" (.str reportRef) (by decide)) "repairAction" (.str repairAction) (by decide)
  unfold repairJobStatus
  split
  · exact reported
  · rename_i unhealthy
    rw [Bool.eq_false_iff.mpr unhealthy]
    refine reported_set ⟨?_, ?_, fun h => ?_, by simp, "RepairFailed", ?_, by decide⟩ _ _ (by decide)
    · exact Fields.uniqueKeys_set (Fields.uniqueKeys_set reported.unique _ _) _ _
    · rw [Fields.get?_set_ne _ _ (by decide), Fields.get?_set_ne _ _ (by decide), reported.generation]
    · rw [Fields.get?_set_ne _ _ (by decide), Fields.get?_set_ne _ _ (by decide), reported.checkId h]
    · rw [Fields.get?_set_ne _ _ (by decide), Fields.get?_set_self]

/-- A published status is healthy only if a complete check without drift is behind it. -/
theorem JobOutcome.reported {calls : WorkerCalls} {args : JobArgs} {scan : ScanWorld} {status : Fields}
    (outcome : JobOutcome calls args scan status) :
    ∃ healthy, Reported args status healthy ∧
      (healthy = true → ∃ report after, Backed calls args scan report after) := by
  cases outcome with
  | failed reason checkedAt =>
    exact ⟨false, reported_checkFailedStatus args reason checkedAt, nofun⟩
  | checked report after reportRef ran =>
    exact ⟨_, reported_jobStatus args report reportRef,
      fun h => ⟨report, after, backed_of_healthy ran h⟩⟩
  | repaired verification after repairAction reportRef ran =>
    exact ⟨_, reported_repairJobStatus args repairAction verification reportRef,
      fun h => ⟨verification, after, backed_of_healthy ran h⟩⟩

end KubeDataGuard
