import KubeDataGuard.Json

/-!
# Drift reports

`DriftReport` and the status the worker derives from it. The entries of the
drift lists are the `dict`s the comparisons build.
-/

namespace KubeDataGuard

inductive CheckStatus
  | complete
  | checkPartial
  | failed
  | timedOut
  deriving DecidableEq, Repr

def CheckStatus.text : CheckStatus → String
  | .complete => "complete"
  | .checkPartial => "partial"
  | .failed => "failed"
  | .timedOut => "timedOut"

inductive Phase
  | healthy
  | driftDetected
  | checkFailed
  | repairing
  | repairFailed
  | unknown
  deriving DecidableEq, Repr

def Phase.text : Phase → String
  | .healthy => "Healthy"
  | .driftDetected => "DriftDetected"
  | .checkFailed => "CheckFailed"
  | .repairing => "Repairing"
  | .repairFailed => "RepairFailed"
  | .unknown => "Unknown"

theorem Phase.text_injective : Function.Injective Phase.text := by
  intro a b h
  cases a <;> cases b <;> first | rfl | exact absurd h (by decide)

def optionalText : Option String → Json
  | some s => .str s
  | none => .null

def optionalInt : Option Int → Json
  | some n => .int n
  | none => .null

structure ObservationWindow where
  checkedAt : String
  targetReadAt : String
  maxLagSeconds : Int
  eligibleRecordsBefore : String
  sourceWatermark : Option String := none
  sourceLsn : Option String := none
  streamTopic : Option String := none
  streamOffsetStart : Option Int := none
  streamOffsetEnd : Option Int := none
  cdcFrontier : Json := .null
  sourceScan : Json := .null
  checksumTree : Json := .null
  completeness : CheckStatus := .complete

def ObservationWindow.toDict (w : ObservationWindow) : Json :=
  .obj [("checked_at", .str w.checkedAt), ("target_read_at", .str w.targetReadAt),
    ("max_lag_seconds", .int w.maxLagSeconds),
    ("eligible_records_before", .str w.eligibleRecordsBefore),
    ("source_watermark", optionalText w.sourceWatermark), ("source_lsn", optionalText w.sourceLsn),
    ("stream_topic", optionalText w.streamTopic),
    ("stream_offset_start", optionalInt w.streamOffsetStart),
    ("stream_offset_end", optionalInt w.streamOffsetEnd), ("cdc_frontier", w.cdcFrontier),
    ("source_scan", w.sourceScan), ("checksum_tree", w.checksumTree),
    ("completeness", .str w.completeness.text)]

def Json.isNull : Json → Bool
  | .null => true
  | _ => false

/-- `kubernetes_observation_window`: the members that are not `None`, renamed. -/
def kubernetesObservationWindow (window : Json) : Json :=
  .obj (([("checkedAt", "checked_at"), ("targetReadAt", "target_read_at"),
    ("maxLagSeconds", "max_lag_seconds"), ("eligibleRecordsBefore", "eligible_records_before"),
    ("sourceWatermark", "source_watermark"), ("sourceLSN", "source_lsn"),
    ("streamTopic", "stream_topic"), ("streamOffsetStart", "stream_offset_start"),
    ("streamOffsetEnd", "stream_offset_end"), ("cdcFrontier", "cdc_frontier"),
    ("sourceScan", "source_scan"), ("checksumTree", "checksum_tree"),
    ("completeness", "completeness")].map fun (name, key) => (name, window.get key)).filter
    fun (_, value) => !value.isNull)

structure DriftReport where
  invariant : String
  checkedRecords : Int
  missing : List Json := []
  stale : List Json := []
  aggregateMismatches : List Json := []
  freshnessViolations : List Json := []
  freshnessBreaches : List Json := []
  guarantee : String := "existence"
  observationWindow : Option ObservationWindow := none
  checkStatus : CheckStatus := .complete

namespace DriftReport

variable (r : DriftReport)

def driftCount : Nat :=
  r.missing.length + r.stale.length + r.aggregateMismatches.length + r.freshnessViolations.length

def status : Phase :=
  if r.checkStatus = .complete then
    if r.driftCount = 0 then .healthy else .driftDetected
  else if r.checkStatus = .failed then .checkFailed
  else .unknown

def healthy : Bool := decide (r.status = .healthy)

theorem healthy_iff : r.healthy = true ↔ r.checkStatus = .complete ∧ r.driftCount = 0 := by
  rw [healthy, decide_eq_true_iff, status]
  split
  · rename_i complete
    split <;> simp_all
  · rename_i incomplete
    split <;> simp [incomplete]

theorem driftCount_zero : r.driftCount = 0 ↔ r.missing = [] ∧ r.stale = [] ∧
    r.aggregateMismatches = [] ∧ r.freshnessViolations = [] := by
  simp only [driftCount, Nat.add_eq_zero_iff, List.length_eq_zero_iff, and_assoc]

def counterexamples : List Json :=
  r.missing.map (fun item =>
    let source := item.get "source"
    .obj [("type", .str "missing"), ("order_id", item.get "order_id"),
      ("reason", item.get "reason"), ("source_version", source.get "version"),
      ("source_updated_at", source.get "updated_at"),
      ("expected_target", .str "OpenSearch orders document")]) ++
  r.stale.map (fun item =>
    let source := item.get "source"
    let target := item.get "target"
    .obj [("type", .str "stale"), ("order_id", item.get "order_id"),
      ("reason", item.get "reason"), ("source_version", source.get "version"),
      ("target_version", target.get "version"), ("source_updated_at", source.get "updated_at"),
      ("target_indexed_at", target.get "indexed_at"), ("mismatches", item.get "mismatches")]) ++
  r.aggregateMismatches.map (fun item =>
    .obj [("type", .str "aggregate_mismatch"), ("field", item.get "field"),
      ("source", item.get "source"), ("target", item.get "target"),
      ("reason", item.get "reason")]) ++
  r.freshnessViolations.map (fun item =>
    .obj [("type", .str "freshness_lag"), ("order_id", item.get "order_id"),
      ("reason", item.get "reason"), ("source_updated_at", item.get "source_updated_at"),
      ("target_indexed_at", item.get "target_indexed_at"),
      ("observed_lag_seconds", item.get "observed_lag_seconds"),
      ("max_lag_seconds", item.get "max_lag_seconds")])

def windowDict : Json :=
  match r.observationWindow with
  | some w => w.toDict
  | none => .null

def kubernetesStatus (reportRef : Option String) : Fields :=
  let window := match r.observationWindow with
    | some w => kubernetesObservationWindow w.toDict
    | none => .null
  [("healthy", .bool r.healthy), ("phase", .str r.status.text), ("guarantee", .str r.guarantee),
    ("checkStatus", .str r.checkStatus.text), ("driftCount", .int r.driftCount),
    ("counterexampleCount", .int r.counterexamples.length),
    ("sloBreachCount", .int r.freshnessBreaches.length), ("checkedRecords", .int r.checkedRecords),
    ("lastCheckedAt", window.get "checkedAt"), ("observationWindow", window),
    ("reportRef", optionalText reportRef)]

def toDict : Fields :=
  [("invariant", .str r.invariant), ("guarantee", .str r.guarantee), ("status", .str r.status.text),
    ("phase", .str r.status.text), ("healthy", .bool r.healthy),
    ("check_status", .str r.checkStatus.text), ("checked_records", .int r.checkedRecords),
    ("drift_count", .int r.driftCount), ("missing", .arr r.missing), ("stale", .arr r.stale),
    ("aggregate_mismatches", .arr r.aggregateMismatches),
    ("freshness_violations", .arr r.freshnessViolations),
    ("freshness_breaches", .arr r.freshnessBreaches),
    ("slo_breach_count", .int r.freshnessBreaches.length),
    ("counterexamples", .arr r.counterexamples), ("observation_window", r.windowDict),
    ("kubernetes_status", .obj (r.kubernetesStatus none))]

end DriftReport

end KubeDataGuard
