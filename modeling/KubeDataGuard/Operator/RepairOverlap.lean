import KubeDataGuard.Operator.ScheduledCheck

/-!
# Overlapping repairs

A check has one repair Job at a time: its name is made from the Invariant's and
the check ID. Another check has a name of its own, so that the next slot's repair
starts next to one that still runs.
-/

namespace KubeDataGuard

open Runs

/-- An unfinished repair Job of an Invariant. -/
structure Repairing (c : Cluster) (invariant : Unstructured) (k : String) (job : Job) : Prop where
  found : c.jobs k = some job
  owner : job.ownerReferences = invariantOwnerReferences invariant
  repair : job.duty = .repair
  unfinished : job.finishedAt = none

section Exclusion

variable {history : Past} {c : Cluster} {invariant : Unstructured} {k k' : String} {job job' : Job}

theorem Repairing.name (reached : Run Fresh (Recorded Step) history c)
    (h : Repairing c invariant k job) :
    k = repairJobName invariant.name job.args.check.checkId := by
  have named := (job_of reached h.found h.owner).named
  rwa [h.repair] at named

/-- Two unfinished repair Jobs of one Invariant are of two checks. -/
theorem repairs_of_one_check (reached : Run Fresh (Recorded Step) history c)
    (h : Repairing c invariant k job) (h' : Repairing c invariant k' job')
    (check : job.args.check.checkId = job'.args.check.checkId) : k = k' ∧ job = job' := by
  have same : k = k' := by rw [h.name reached, h'.name reached, check]
  subst same
  exact ⟨rfl, Option.some.inj (h.found.symm.trans h'.found)⟩

end Exclusion

theorem first_repairing {status : Option Fields} {now : Int} {jobs : String → Option Job}
    {configMaps : String → Option ConfigMap}
    (found : jobs (repairJobName "orders" "g1-t0") = some (ordersRepairJob firstSlot)) :
    Repairing (orders now status jobs configMaps) (ordersInvariant none)
      (repairJobName "orders" "g1-t0") (ordersRepairJob firstSlot) :=
  ⟨found, rfl, rfl, rfl⟩

theorem repairs_of_one_check_first : ∃ history c job, Run Fresh (Recorded Step) history c ∧
    Repairing c (ordersInvariant none) (repairJobName "orders" "g1-t0") job ∧
    ∀ k job', Repairing c (ordersInvariant none) k job' → job'.args.check.checkId = "g1-t0" →
      k = repairJobName "orders" "g1-t0" ∧ job' = job := by
  obtain ⟨payload, repairing, history, -, reached⟩ := orders_repairing
  have fresh := started_run reached
  have first : Repairing
      (orders 0 (some repairing) repairingJobs (reportMaps firstSlot payload oneOrder))
      (ordersInvariant none) _ _ := first_repairing (Function.update_self _ _ _)
  have id : (ordersRepairJob firstSlot).args.check.checkId = "g1-t0" := rfl
  refine ⟨_, _, _, fresh, first, ?_⟩
  intro k job' other same
  exact repairs_of_one_check fresh other first (same.trans id.symm)

/-- A status of a repair under way gives way to that of the next check. -/
theorem repairing_patch {repairing : Fields} (phase : stringField repairing "phase" = some "Repairing") :
    shouldPatchCheckerRunningStatus (ordersInvariant (some repairing)) = true := by
  have shown : currentStatus (ordersInvariant (some repairing)) = some repairing := rfl
  unfold shouldPatchCheckerRunningStatus
  rw [shown]
  simp only [phase]
  rfl

/-! ## The second slot -/

def nextJobs : String → Option Job :=
  Function.update repairingJobs (checkerJobName "orders" "g1-t1") (some (ordersJob nextSlot))

theorem repairingJobs_other {k : String} (checker : k ≠ checkerJobName "orders" "g1-t0")
    (repair : k ≠ repairJobName "orders" "g1-t0") : repairingJobs k = none := by
  unfold repairingJobs firstJobs
  rw [Function.update_of_ne repair, Function.update_of_ne checker]
  rfl

theorem nextJobs_repair : nextJobs (repairJobName "orders" "g1-t1") = none := by
  unfold nextJobs
  rw [Function.update_of_ne (by decide +kernel)]
  exact repairingJobs_other (by decide +kernel) (by decide +kernel)

theorem nextJobs_first :
    nextJobs (repairJobName "orders" "g1-t0") = some (ordersRepairJob firstSlot) := by
  unfold nextJobs repairingJobs
  rw [Function.update_of_ne (by decide +kernel), Function.update_self]

/-- Both slots' reports. -/
def nextMaps (payload payload' : Fields) : String → Option ConfigMap :=
  Function.update (reportMaps firstSlot payload oneOrder) (reportConfigMapName "orders" "g1-t1")
    (some (reportConfigMap payload' (ordersStatus nextSlot twoOrders oneOrder)))

theorem nextMaps_unrepaired (payload payload' : Fields) :
    nextMaps payload payload' (repairConfigMapName "orders" "g1-t1") = none := by
  unfold nextMaps
  rw [Function.update_of_ne (by decide +kernel)]
  exact reportMaps_other (by decide +kernel) payload oneOrder

theorem nextMaps_stored (payload payload' : Fields) :
    nextMaps payload payload' (reportConfigMapName "orders" "g1-t1") =
      some (reportConfigMap payload' (ordersStatus nextSlot twoOrders oneOrder)) :=
  Function.update_self _ _ _

/-- The second slot's check finds drift as well, while the first slot's repair still runs. -/
theorem orders_drift_again : ∃ payload payload' status history,
    Run Started (Recorded Step) history
      (orders 60000000000 (some status) nextJobs (nextMaps payload payload')) := by
  obtain ⟨payload, repairing, history, phase, reached⟩ := orders_repairing
  obtain ⟨payload', published⟩ :=
    orders_drift_published (Or.inr rfl) (reportMaps firstSlot payload oneOrder)
  have minute : Step (orders 0 (some repairing) repairingJobs (reportMaps firstSlot payload oneOrder))
      (.tick 60000000000)
      (orders 60000000000 (some repairing) repairingJobs (reportMaps firstSlot payload oneOrder)) :=
    orders_ticks _
  have check : Step
      (orders 60000000000 (some repairing) repairingJobs (reportMaps firstSlot payload oneOrder)) _
      (orders 60000000000 _ nextJobs (reportMaps firstSlot payload oneOrder)) :=
    orders_checks (orders_next (some repairing))
      (reportMaps_other (by decide +kernel) payload oneOrder)
      (reportMaps_other (by decide +kernel) payload oneOrder)
      (repairingJobs_other (by decide +kernel) (by decide +kernel)) (repairing_patch phase)
  have works : Step (orders 60000000000 _ nextJobs (reportMaps firstSlot payload oneOrder)) _
      (orders 60000000000 (some (checkerRunning (some repairing) 60000000000 nextSlot)) nextJobs
        (nextMaps payload payload')) :=
    orders_works (Function.update_self _ _ _) rfl published
  exact ⟨payload, payload', _, _, ((reached.record minute).record check).record works⟩

/-- The second slot's repair starts while the first slot's still runs. -/
theorem repairs_overlap : ∃ history c invariant k k' job job', Run Started (Recorded Step) history c ∧
    Repairing c invariant k job ∧ Repairing c invariant k' job' ∧ k ≠ k' := by
  obtain ⟨payload, payload', status, history, reached⟩ := orders_drift_again
  have there : ReportFor (orders 60000000000 (some status) nextJobs (nextMaps payload payload')) 1
      nextSlot.id (reportConfigMapName "orders" nextSlot.id) _ _ :=
    orders_report (by decide) (nextMaps_stored payload payload')
  obtain ⟨repairing, -, step⟩ := orders_repairs (orders_next (some status))
    (nextMaps_unrepaired payload payload') there (orders_drift (Or.inr rfl)) nextJobs_repair
  have apart : repairJobName "orders" "g1-t0" ≠ repairJobName "orders" nextSlot.id := by decide +kernel
  have first : Function.update nextJobs (repairJobName "orders" nextSlot.id)
      (some (ordersRepairJob nextSlot)) (repairJobName "orders" "g1-t0") =
      some (ordersRepairJob firstSlot) := by
    rw [Function.update_of_ne apart]
    exact nextJobs_first
  exact ⟨_, _, ordersInvariant none, _, _, _, ordersRepairJob nextSlot, reached.record step,
    first_repairing first, ⟨Function.update_self _ _ _, rfl, rfl, rfl⟩, apart⟩

end KubeDataGuard
