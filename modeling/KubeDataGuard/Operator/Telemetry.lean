import KubeDataGuard.Operator.ScheduledCheck

/-!
# What the status takes from a report

A pass that applies a report patches the status to it, unless a comparison of
ten fields finds the two equal. The fields in which a report may differ without
a patch are the telemetry; what the comparison leaves out beyond them goes
missing in the status.
-/

namespace KubeDataGuard

open Runs

/-! ## Passes that apply a report -/

section ReportApplied

variable (c : Cluster) (invariant : Unstructured) (run : CheckRun)

/-- The report a pass applies, by its ConfigMap and its enriched status: the
repair report, or the check report if it calls for no repair. -/
inductive ReportApplied : String → Fields → Prop
  | repaired {status : Fields}
      (read : statusFromReportConfigMap c invariant (repairConfigMapName invariant.name run.id) run =
        .ok (some status)) : ReportApplied (repairConfigMapName invariant.name run.id) status
  | checked {status : Fields}
      (unrepaired : statusFromReportConfigMap c invariant
        (repairConfigMapName invariant.name run.id) run = .ok none)
      (read : statusFromReportConfigMap c invariant (reportConfigMapName invariant.name run.id) run =
        .ok (some status))
      (calm : stringField status "phase" = some "DriftDetected" →
        findAutoRepairPolicy invariant c.policies = .ok none) :
      ReportApplied (reportConfigMapName invariant.name run.id) status

variable {c invariant run}

theorem ReportApplied.read {configMap : String} {status : Fields}
    (h : ReportApplied c invariant run configMap status) :
    statusFromReportConfigMap c invariant configMap run = .ok (some status) := by
  cases h with
  | repaired read => exact read
  | checked unrepaired read calm => exact read

theorem reconcile_applied {configMap : String} {status : Fields}
    (hrun : currentCheckRun invariant c.now = .ok run)
    (h : ReportApplied c invariant run configMap status) :
    reconcileJobBackedInvariant c invariant = applyReport invariant configMap status run := by
  unfold reconcileJobBackedInvariant
  cases h with
  | repaired read => simp only [hrun, read]
  | checked unrepaired read calm =>
    simp only [hrun, unrepaired, read]
    split
    · rename_i drift
      unfold reconcileRepairForDrift
      simp only [calm drift]
    · rfl

end ReportApplied

/-- The status stored under a name. -/
def Cluster.status (c : Cluster) (name : String) : Option Fields :=
  (c.invariants name).bind Resource.status

/-- All writes of a pass are made. -/
def Cluster.reconciled (c : Cluster) (name : String) (invariant : Unstructured) : Cluster :=
  c.applyAll name (reconcileJobBackedInvariant c invariant).writes

/-- Afterwards the status is the report's, or the old one that the comparison took for it. -/
theorem reconciled_status {c : Cluster} {name : String} {invariant : Unstructured} {run : CheckRun}
    {configMap : String} {status : Fields} (found : c.invariant name = some invariant)
    (hrun : currentCheckRun invariant c.now = .ok run)
    (applied : ReportApplied c invariant run configMap status) :
    (c.reconciled name invariant).status name =
      if reportStatusAlreadyApplied invariant status then currentStatus invariant
      else some status := by
  obtain ⟨stored, -⟩ := invariant_some found
  unfold Cluster.reconciled Cluster.status
  rw [reconcile_applied hrun applied, applyReport]
  split
  · rw [show c.applyAll name [] = c from rfl, stored]
    rfl
  · rw [applyAll_patched stored, Option.bind_some, Resource.status_patchStatus]

/-! ## Telemetry -/

def telemetry : List String :=
  ["checkID", "reportRef", "repairRef", "checkedRecords", "lastCheckedAt", "nextCheckAfter",
    "observationWindow"]

/-- The statuses agree on everything but telemetry. -/
def Follows (current : Option Fields) (desired : Fields) : Prop :=
  ∃ status, current = some status ∧ ∀ key, key ∉ telemetry → status.get? key = desired.get? key

theorem Follows.refl (status : Fields) : Follows (some status) status := ⟨status, rfl, fun _ _ => rfl⟩

/-! ## The comparison -/

def comparedInts : List String :=
  ["driftCount", "counterexampleCount", "observedGeneration", "checkIntervalSeconds"]

def comparedTexts : List String := ["phase", "checkStatus", "guarantee", "reason", "repairAction"]

/-- The two statuses are the same to the comparison, which takes a value of
another type for an absent one. -/
structure ComparedEqual (current desired : Fields) : Prop where
  ints : ∀ key ∈ comparedInts, int64Field current key = int64Field desired key
  texts : ∀ key ∈ comparedTexts, stringField current key = stringField desired key
  healthy : boolField current "healthy" = boolField desired "healthy"

theorem alreadyApplied_iff {invariant : Unstructured} {desired : Fields} :
    reportStatusAlreadyApplied invariant desired = true ↔
      ∃ current, currentStatus invariant = some current ∧ ComparedEqual current desired := by
  unfold reportStatusAlreadyApplied
  cases currentStatus invariant with
  | none => simp
  | some current =>
    simp only [Bool.and_eq_true, List.all_eq_true, decide_eq_true_eq, Option.some.injEq,
      exists_eq_left']
    constructor
    · rintro ⟨⟨ints, texts⟩, healthy⟩
      exact ⟨ints, texts, healthy⟩
    · rintro ⟨ints, texts, healthy⟩
      exact ⟨⟨ints, texts⟩, healthy⟩

/-- The status follows the report exactly when a status that is the same to the comparison
is the same in every field but telemetry. -/
theorem status_follows_iff {c : Cluster} {name : String} {invariant : Unstructured} {run : CheckRun}
    {configMap : String} {status : Fields} (found : c.invariant name = some invariant)
    (hrun : currentCheckRun invariant c.now = .ok run)
    (applied : ReportApplied c invariant run configMap status) :
    Follows ((c.reconciled name invariant).status name) status ↔
      ∀ current, currentStatus invariant = some current → ComparedEqual current status →
        ∀ key, key ∉ telemetry → current.get? key = status.get? key := by
  rw [reconciled_status found hrun applied]
  by_cases same : reportStatusAlreadyApplied invariant status = true
  · obtain ⟨current, there, compared⟩ := alreadyApplied_iff.mp same
    rw [if_pos same, there]
    constructor
    · rintro ⟨_, ⟨⟩, agree⟩ _ ⟨⟩ _
      exact agree
    · exact fun agree => ⟨current, rfl, agree current rfl compared⟩
  · rw [if_neg same]
    refine iff_of_true (.refl status) fun current there compared => ?_
    exact absurd (alreadyApplied_iff.mpr ⟨current, there, compared⟩) same

/-! ## A forgotten count

The first slot's freshness check found no breach, the second one's found five. -/

def breachReport (run : CheckRun) (breaches : Int) : Fields :=
  [("healthy", .bool true), ("phase", .str "Healthy"), ("guarantee", .str "boundedFreshness"),
    ("checkStatus", .str "complete"), ("driftCount", .int 0), ("counterexampleCount", .int 0),
    ("sloBreachCount", .int breaches), ("checkedRecords", .int 41),
    ("reportRef", .str "file:///tmp/dataguard-reports/report.json"), ("observedGeneration", .int 1),
    ("checkID", .str run.id)]

def breachStatus (now : Int) (run : CheckRun) (breaches : Int) : Fields :=
  enrichScheduledStatus (normalizeMembers (breachReport run breaches)) now run

def breachConfigMap : ConfigMap :=
  { statusJson := .json (.obj (breachReport nextSlot 5)), repairInput := .empty }

def breachMaps : String → Option ConfigMap :=
  Function.update noConfigMaps (reportConfigMapName "orders" "g1-t1") (some breachConfigMap)

def breached (status : Option Fields) : Cluster := orders 60000000000 status noJobs breachMaps

theorem breached_invariant (status : Option Fields) :
    (breached status).invariant "orders" = some (ordersInvariant status) := orders_invariant _ _ _ _

theorem breached_applied (status : Option Fields) :
    ReportApplied (breached status) (ordersInvariant status) nextSlot
      (reportConfigMapName "orders" "g1-t1") (breachStatus 60000000000 nextSlot 5) := by
  have there : ReportFor (breached status) (ordersInvariant status).generation nextSlot.id
      (reportConfigMapName "orders" "g1-t1") breachConfigMap
      (normalizeMembers (breachReport nextSlot 5)) := by
    refine ⟨Function.update_self _ _ _, rfl, ?_, rfl⟩
    rw [orders_generation]
    rfl
  have unrepaired : (breached status).configMaps (repairConfigMapName "orders" "g1-t1") = none :=
    Function.update_of_ne (by decide +kernel) _ _
  refine .checked (statusFromReportConfigMap_absent unrepaired)
    (statusFromReportConfigMap_of_report there) fun drift => ?_
  exact absurd drift (by decide)

theorem breaches_forgotten :
    ReportApplied (breached (some (breachStatus 0 firstSlot 0)))
      (ordersInvariant (some (breachStatus 0 firstSlot 0))) nextSlot
      (reportConfigMapName "orders" "g1-t1") (breachStatus 60000000000 nextSlot 5) ∧
    ¬Follows (((breached (some (breachStatus 0 firstSlot 0))).reconciled "orders"
      (ordersInvariant (some (breachStatus 0 firstSlot 0)))).status "orders")
      (breachStatus 60000000000 nextSlot 5) := by
  have applied := breached_applied (some (breachStatus 0 firstSlot 0))
  refine ⟨applied, ?_⟩
  have same : reportStatusAlreadyApplied (ordersInvariant (some (breachStatus 0 firstSlot 0)))
      (breachStatus 60000000000 nextSlot 5) = true := by
    rfl
  rw [reconciled_status (breached_invariant _) (orders_next _) applied, if_pos same]
  rintro ⟨_, ⟨⟩, agree⟩
  have breaches : some (Json.int 0) = some (Json.int 5) := agree "sloBreachCount" (by decide)
  cases breaches

theorem status_follows_iff_first_report :
    Follows (((breached none).reconciled "orders" (ordersInvariant none)).status "orders")
      (breachStatus 60000000000 nextSlot 5) :=
  (status_follows_iff (breached_invariant none) (orders_next none) (breached_applied none)).mpr nofun

end KubeDataGuard
