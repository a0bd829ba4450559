import KubeDataGuard.Operator.Schedule

/-!
# Statuses of the operator

The statuses the operator builds itself while a Job runs or when it failed, and
the comparisons that decide whether a status is written at all.
-/

namespace KubeDataGuard

def annotationStreamTopic : String := "dataguard.io/stream-topic"

/-- `spec.maxLagSeconds`, 60 when absent. -/
def maxLagSeconds (invariant : Unstructured) : Except Error Int :=
  match readError "spec.maxLagSeconds" (nestedInt64 invariant.object ["spec", "maxLagSeconds"]) with
  | .error e => .error e
  | .ok value => .ok (value.getD 60)

def invariantType (invariant : Unstructured) : String :=
  nestedStringOrEmpty invariant.object ["spec", "type"]

def guaranteeForInvariantType : String → String
  | "existence" => "existence+fieldEquality"
  | "aggregate" => "aggregate"
  | "freshness" => "boundedFreshness"
  | "redis-freshness" => "cacheFreshness"
  | "query" => "query"
  | "fieldEquality" => "fieldEquality"
  | "count" => "aggregate.count"
  | "checksum" => "aggregate.checksum"
  | _ => "unknown"

def streamTopic (invariant : Unstructured) : String :=
  annotationOrDefault invariant annotationStreamTopic "orders.events"

/-! ## Built statuses -/

section Build

variable (invariant : Unstructured) (now : Int) (run : CheckRun)

/-- The lag a status shows: one that cannot be read counts as absent. -/
def shownMaxLag : Int :=
  match maxLagSeconds invariant with
  | .ok value => value
  | .error _ => 60

def jobLifecycleStatus (base : Fields) : Fields :=
  let maxLag := shownMaxLag invariant
  let checkedAt := rfc3339 (unix now)
  let window := Json.obj
    [("checkedAt", .str checkedAt), ("targetReadAt", .str checkedAt), ("maxLagSeconds", .int maxLag),
      ("eligibleRecordsBefore", .str (rfc3339 (unix (now + durationSeconds (-maxLag))))),
      ("streamTopic", .str (streamTopic invariant)),
      ("completeness", (base.get? "checkStatus").getD .null)]
  let status := (((((base.set "guarantee"
    (.str (guaranteeForInvariantType (invariantType invariant)))).set "checkedRecords"
    (.int 0)).set "lastCheckedAt" (.str checkedAt)).set "observationWindow" window).set
    "observedGeneration" (.int invariant.generation)).set "checkID" (.str run.id)
  if run.scheduled then
    (status.set "checkIntervalSeconds" (.int run.intervalSeconds)).set "nextCheckAfter"
      (.str (rfc3339 (unix (now + run.nextRequeue))))
  else status

/-- The fields in which the built statuses differ. -/
structure Lifecycle where
  phase : Phase
  checkStatus : CheckStatus
  driftCount : Int
  counterexampleCount : Int
  reason : Option String

def Lifecycle.base (l : Lifecycle) (jobName : String) : Fields :=
  [("healthy", .bool false), ("phase", .str l.phase.text), ("checkStatus", .str l.checkStatus.text),
    ("driftCount", .int l.driftCount), ("counterexampleCount", .int l.counterexampleCount),
    ("reportRef", .str ("job://" ++ invariant.ns ++ "/" ++ jobName))] ++
    match l.reason with
    | some reason => [("reason", .str reason)]
    | none => []

def lifecycleStatus (jobName : String) (l : Lifecycle) : Fields :=
  jobLifecycleStatus invariant now run (l.base invariant jobName)

variable (jobName : String)

def buildJobRunningStatus : Fields :=
  lifecycleStatus invariant now run jobName ⟨.unknown, .checkPartial, 0, 0, none⟩

def buildJobFailedStatus (reason : String) : Fields :=
  lifecycleStatus invariant now run jobName ⟨.checkFailed, .failed, 0, 1, some reason⟩

def buildJobTimedOutStatus (reason : String) : Fields :=
  lifecycleStatus invariant now run jobName ⟨.checkFailed, .timedOut, 0, 1, some reason⟩

def buildRepairRunningStatus (driftCount : Int) : Fields :=
  lifecycleStatus invariant now run jobName ⟨.repairing, .checkPartial, driftCount, driftCount, none⟩

def buildRepairFailedStatus (driftCount : Int) (reason : String) : Fields :=
  lifecycleStatus invariant now run jobName
    ⟨.repairFailed, .failed, driftCount, driftCount, some reason⟩

def buildRepairTimedOutStatus (driftCount : Int) (reason : String) : Fields :=
  lifecycleStatus invariant now run jobName
    ⟨.repairFailed, .timedOut, driftCount, driftCount, some reason⟩

def checkerFailureStatusForJob (job : Job) (fallback : String) : Fields :=
  let reason := jobFailureExplanation job fallback
  if jobTimedOut job then buildJobTimedOutStatus invariant now run jobName reason
  else buildJobFailedStatus invariant now run jobName reason

def repairFailureStatusForJob (driftCount : Int) (job : Job) (fallback : String) : Fields :=
  let reason := jobFailureExplanation job fallback
  if jobTimedOut job then buildRepairTimedOutStatus invariant now run jobName driftCount reason
  else buildRepairFailedStatus invariant now run jobName driftCount reason

end Build

/-! ## Statuses already there -/

/-- `NestedMap(object, "status")`, where an error reads as nothing found. -/
def currentStatus (invariant : Unstructured) : Option Fields :=
  match nestedMap invariant.object ["status"] with
  | .ok status => status
  | .error _ => none

def reportStatusAlreadyApplied (invariant : Unstructured) (desired : Fields) : Bool :=
  match currentStatus invariant with
  | none => false
  | some current =>
    (["driftCount", "counterexampleCount", "observedGeneration", "checkIntervalSeconds"].all
      fun key => decide (int64Field current key = int64Field desired key)) &&
    (["phase", "checkStatus", "guarantee", "reason", "repairAction"].all
      fun key => decide (stringField current key = stringField desired key)) &&
    decide (boolField current "healthy" = boolField desired "healthy")

theorem reportStatusAlreadyApplied_phase {invariant : Unstructured} {current desired : Fields}
    (status : currentStatus invariant = some current)
    (changed : stringField current "phase" ≠ stringField desired "phase") :
    reportStatusAlreadyApplied invariant desired = false := by
  simp [reportStatusAlreadyApplied, status, changed]

def shouldPatchCheckerRunningStatus (invariant : Unstructured) : Bool :=
  match currentStatus invariant with
  | none => true
  | some current =>
    match stringField current "phase" with
    | none => true
    | some phase => decide (phase ≠ "Healthy") && decide (phase ≠ "DriftDetected")

/-! ## What the statuses say of health -/

/-- The status says healthy exactly when it says the phase is Healthy. -/
def HealthAgrees (status : Fields) : Prop :=
  boolField status "healthy" = some true ↔ stringField status "phase" = some "Healthy"

/-- A status that says it is not healthy, twice. -/
def Unhealthy (status : Fields) : Prop :=
  boolField status "healthy" = some false ∧ ∃ phase, stringField status "phase" = some phase ∧
    phase ≠ "Healthy"

theorem Unhealthy.agrees {status : Fields} (h : Unhealthy status) : HealthAgrees status := by
  obtain ⟨healthy, phase, hphase, other⟩ := h
  refine iff_of_false ?_ ?_
  · rw [healthy]
    simp
  · rw [hphase]
    exact fun same => other (Option.some.inj same)

theorem get?_jobLifecycleStatus (invariant : Unstructured) (now : Int) (run : CheckRun)
    (base : Fields) {key : String}
    (other : key ∉ ["guarantee", "checkedRecords", "lastCheckedAt", "observationWindow",
      "observedGeneration", "checkID", "checkIntervalSeconds", "nextCheckAfter"]) :
    (jobLifecycleStatus invariant now run base).get? key = base.get? key := by
  simp only [List.mem_cons, List.not_mem_nil, or_false, not_or] at other
  obtain ⟨h1, h2, h3, h4, h5, h6, h7, h8⟩ := other
  simp only [jobLifecycleStatus]
  split
  · rw [Fields.get?_set_ne _ _ h8, Fields.get?_set_ne _ _ h7, Fields.get?_set_ne _ _ h6,
      Fields.get?_set_ne _ _ h5, Fields.get?_set_ne _ _ h4, Fields.get?_set_ne _ _ h3,
      Fields.get?_set_ne _ _ h2, Fields.get?_set_ne _ _ h1]
  · rw [Fields.get?_set_ne _ _ h6, Fields.get?_set_ne _ _ h5, Fields.get?_set_ne _ _ h4,
      Fields.get?_set_ne _ _ h3, Fields.get?_set_ne _ _ h2, Fields.get?_set_ne _ _ h1]

theorem lifecycleStatus_phase (invariant : Unstructured) (now : Int) (run : CheckRun)
    (jobName : String) (l : Lifecycle) :
    stringField (lifecycleStatus invariant now run jobName l) "phase" = some l.phase.text := by
  unfold lifecycleStatus stringField
  rw [get?_jobLifecycleStatus _ _ _ _ (by decide)]
  rfl

theorem checkerFailure_phase (invariant : Unstructured) (now : Int) (run : CheckRun)
    (jobName : String) (job : Job) (reason : String) :
    stringField (checkerFailureStatusForJob invariant now run jobName job reason) "phase" =
      some "CheckFailed" := by
  unfold checkerFailureStatusForJob
  split <;> exact lifecycleStatus_phase _ _ _ _ _

theorem repairFailure_phase (invariant : Unstructured) (now : Int) (run : CheckRun)
    (jobName : String) (driftCount : Int) (job : Job) (reason : String) :
    stringField (repairFailureStatusForJob invariant now run jobName driftCount job reason) "phase" =
      some "RepairFailed" := by
  unfold repairFailureStatusForJob
  split <;> exact lifecycleStatus_phase _ _ _ _ _

/-- Every status the operator builds says it is not healthy. -/
theorem lifecycleStatus_unhealthy (invariant : Unstructured) (now : Int) (run : CheckRun)
    (jobName : String) {l : Lifecycle} (h : l.phase ≠ .healthy) :
    Unhealthy (lifecycleStatus invariant now run jobName l) := by
  unfold lifecycleStatus Unhealthy boolField stringField
  rw [get?_jobLifecycleStatus _ _ _ _ (by decide), get?_jobLifecycleStatus _ _ _ _ (by decide)]
  refine ⟨rfl, l.phase.text, rfl, fun same => h ?_⟩
  exact Phase.text_injective (show l.phase.text = Phase.healthy.text from same)

theorem checkerFailureStatusForJob_unhealthy (invariant : Unstructured) (now : Int) (run : CheckRun)
    (jobName : String) (job : Job) (fallback : String) :
    Unhealthy (checkerFailureStatusForJob invariant now run jobName job fallback) := by
  unfold checkerFailureStatusForJob
  split <;> exact lifecycleStatus_unhealthy _ _ _ _ nofun

theorem repairFailureStatusForJob_unhealthy (invariant : Unstructured) (now : Int) (run : CheckRun)
    (jobName : String) (driftCount : Int) (job : Job) (fallback : String) :
    Unhealthy (repairFailureStatusForJob invariant now run jobName driftCount job fallback) := by
  unfold repairFailureStatusForJob
  split <;> exact lifecycleStatus_unhealthy _ _ _ _ nofun

end KubeDataGuard
