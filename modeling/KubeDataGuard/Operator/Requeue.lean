import Mathlib.Algebra.Order.Ring.Int
import KubeDataGuard.Operator.ScheduledCheck

/-!
# Requeues of a scheduled Invariant

A pass that returns asks for the next one within the interval, or within five
seconds while a Job runs. One outcome asks for none: a repair Job that ended
without a repair report.
-/

namespace KubeDataGuard

open Runs

/-! ## The next slot -/

theorem wrap64_eq {n : Int} (low : -2 ^ 63 ≤ n) (high : n < 2 ^ 63) : wrap64 n = n := by
  unfold wrap64
  rw [Int.bmod_eq_of_le_mul_two] <;> omega

/-- Two wraps around a difference are one around the difference. -/
theorem wrap64_sub (a b : Int) : wrap64 (wrap64 a - b) = wrap64 (a - b) := by
  unfold wrap64
  exact Int.bmod_sub_bmod

theorem durationSeconds_wrap64 (n : Int) : durationSeconds (wrap64 n) = durationSeconds n := by
  unfold durationSeconds wrap64
  exact Int.bmod_mul_bmod

/-- The end of a time's slot, in seconds. -/
def slotEnd (interval now : Int) : Int := ((unix now).tdiv interval + 1) * interval

/-- What a scheduled run asks for. -/
def requeueAt (interval now : Int) : Int :=
  let next := durationSeconds (slotEnd interval now - unix now)
  if next ≤ 0 then durationSeconds interval else next

/-- The run at a time, by the generation and the interval. -/
def runAt (generation interval now : Int) : CheckRun :=
  if interval ≤ 0 then { id := generationId generation }
  else
    { id := slotId generation ((unix now).tdiv interval)
      intervalSeconds := interval
      nextRequeue := requeueAt interval now
      scheduled := true }

theorem currentCheckRun_runAt {invariant : Unstructured} {interval : Option Int}
    (read : checkInterval invariant.toResource = .ok interval) (now : Int) :
    currentCheckRun invariant now = .ok (runAt invariant.generation (interval.getD 0) now) := by
  unfold checkInterval at read
  unfold currentCheckRun runAt requeueAt slotEnd
  rw [read]
  simp only [readError, wrap64_sub, durationSeconds_wrap64]
  split <;> rfl

theorem requeueForRun_runAt (generation interval now : Int) :
    requeueForRun (runAt generation interval now) =
      if 0 < interval then some (requeueAt interval now) else none := by
  unfold requeueForRun runAt
  by_cases scheduled : interval ≤ 0
  · rw [if_pos scheduled, if_neg (not_lt.mpr scheduled)]
    rfl
  · rw [if_neg scheduled, if_pos (not_le.mp scheduled)]
    rfl

/-- What is left of a slot. -/
theorem slotEnd_sub (interval now : Int) :
    slotEnd interval now - unix now = interval - (unix now).tmod interval := by
  have split := Int.mul_tdiv_add_tmod (unix now) interval
  have product : slotEnd interval now = interval * (unix now).tdiv interval + interval := by
    unfold slotEnd
    ring
  omega

theorem slot_ahead {interval : Int} (positive : 0 < interval) (now : Int) :
    unix now < slotEnd interval now := by
  have left := slotEnd_sub interval now
  have rest := Int.tmod_lt_of_pos (unix now) positive
  omega

theorem unix_nonneg {now : Int} (clock : 0 ≤ now) : 0 ≤ unix now := by
  unfold unix
  rw [Int.fdiv_eq_ediv_of_nonneg _ (by decide)]
  exact Int.ediv_nonneg clock (by decide)

theorem slot_within (interval : Int) {now : Int} (clock : 0 ≤ now) :
    slotEnd interval now - unix now ≤ interval := by
  have left := slotEnd_sub interval now
  have rest := Int.tmod_nonneg interval (unix_nonneg clock)
  omega

/-- A requeue that does not overflow waits for the slot's end. -/
theorem requeueAt_fits {interval now : Int} (positive : 0 < interval)
    (fits : (slotEnd interval now - unix now) * 1000000000 < 2 ^ 63) :
    requeueAt interval now = (slotEnd interval now - unix now) * 1000000000 := by
  have ahead := slot_ahead positive now
  have whole : durationSeconds (slotEnd interval now - unix now) =
      (slotEnd interval now - unix now) * 1000000000 := by
    unfold durationSeconds
    rw [wrap64_eq (by omega) fits]
  unfold requeueAt
  simp only
  rw [whole, if_neg (by omega)]

/-- The run of a schedule requeues within its interval. -/
theorem currentCheckRun_requeue {invariant : Unstructured} {now interval : Int} {run : CheckRun}
    (read : checkInterval invariant.toResource = .ok (some interval)) (positive : 0 < interval)
    (fits : interval * 1000000000 < 2 ^ 63) (clock : 0 ≤ now)
    (hrun : currentCheckRun invariant now = .ok run) :
    ∃ next, requeueForRun run = some next ∧ 0 < next ∧ next ≤ interval * 1000000000 := by
  have ahead := slot_ahead positive now
  have within := slot_within interval clock
  obtain rfl := Except.ok.inj (hrun.symm.trans (currentCheckRun_runAt read now))
  rw [requeueForRun_runAt, Option.getD_some, if_pos positive, requeueAt_fits positive (by omega)]
  refine ⟨_, rfl, ?_, ?_⟩ <;> omega

/-! ## What a pass asks for -/

/-- The next pass is asked for, within the interval or within five seconds. -/
def Prompt (interval : Int) (requeue : Requeue) : Prop :=
  ∃ next, requeue = some next ∧ 0 < next ∧ next ≤ max 5000000000 (interval * 1000000000)

theorem prompt_soon (interval : Int) : Prompt interval requeueSoon :=
  ⟨5000000000, rfl, by decide, le_max_left _ _⟩

/-- Reported drift whose repair Job is over and has left no repair report. -/
structure RepairEnded (c : Cluster) (invariant : Unstructured) (run : CheckRun) : Prop where
  unrepaired : ¬Readable c (repairConfigMapName invariant.name run.id) invariant.generation run.id
  drift : ∃ configMap report, ReportFor c invariant.generation run.id
    (reportConfigMapName invariant.name run.id) configMap report ∧
    stringField report "phase" = some "DriftDetected"
  allowed : ∃ policy mode, findAutoRepairPolicy invariant c.policies = .ok (some (policy, mode))
  ended : ∃ job, c.jobs (repairJobName invariant.name run.id) = some job ∧
    (jobFailed job = true ∨ jobComplete job = true)

section Results

variable {c : Cluster} {invariant : Unstructured} {run : CheckRun} {r : Requeue}

theorem applyReport_result {name : String} {status : Fields}
    (h : (applyReport invariant name status run).result = .ok r) : r = requeueForRun run := by
  unfold applyReport at h
  split at h <;> exact (Except.ok.inj h).symm

theorem reconcileCheckerJob_result (h : (reconcileCheckerJob c invariant run).result = .ok r) :
    r = requeueForRun run ∨ r = requeueSoon := by
  unfold reconcileCheckerJob Outcome.after at h
  simp only at h
  split at h
  · split at h
    · cases h
    split at h
    · cases h
    · exact Or.inr (Except.ok.inj h).symm
  · split at h
    · exact Or.inl (Except.ok.inj h).symm
    split at h
    · exact Or.inl (Except.ok.inj h).symm
    · exact Or.inr (Except.ok.inj h).symm

/-- A repair pass asks for the next one unless it finds the Job over. -/
theorem reconcileRepairForDrift_result {status : Fields} {source : String} {outcome : Outcome}
    (repair : reconcileRepairForDrift c invariant status source run = some outcome)
    (h : outcome.result = .ok r) :
    (∃ policy mode, findAutoRepairPolicy invariant c.policies = .ok (some (policy, mode))) ∧
      ((r = requeueSoon ∧ ∀ job, c.jobs (repairJobName invariant.name run.id) = some job →
          jobFailed job = false ∧ jobComplete job = false) ∨
        r = none ∧ ∃ job, c.jobs (repairJobName invariant.name run.id) = some job ∧
          (jobFailed job = true ∨ jobComplete job = true)) := by
  unfold reconcileRepairForDrift at repair
  split at repair
  · rw [← Option.some.inj repair] at h
    cases h
  · cases repair
  rename_i policy mode allowed
  refine ⟨⟨policy, mode, allowed⟩, ?_⟩
  rw [← Option.some.inj repair] at h
  simp only [Outcome.after] at h
  split at h
  · rename_i absent
    refine Or.inl ⟨?_, fun job there => ?_⟩
    · split at h
      · cases h
      split at h
      · cases h
      · exact (Except.ok.inj h).symm
    · rw [absent] at there
      cases there
  · rename_i job found
    split at h
    · rename_i failed
      exact Or.inr ⟨(Except.ok.inj h).symm, job, found, Or.inl failed⟩
    rename_i running
    split at h
    · rename_i complete
      exact Or.inr ⟨(Except.ok.inj h).symm, job, found, Or.inr complete⟩
    · rename_i unfinished
      refine Or.inl ⟨(Except.ok.inj h).symm, fun job' there => ?_⟩
      rw [found] at there
      obtain rfl := Option.some.inj there
      exact ⟨by simpa using running, by simpa using unfinished⟩

theorem reconcileRepairForDrift_ended {policy : Unstructured} {mode : String} {job : Job}
    (allowed : findAutoRepairPolicy invariant c.policies = .ok (some (policy, mode)))
    (found : c.jobs (repairJobName invariant.name run.id) = some job)
    (ended : jobFailed job = true ∨ jobComplete job = true) (drift : Fields) (source : String) :
    ∃ writes status, reconcileRepairForDrift c invariant drift source run =
        some ⟨writes ++ [.patchStatus .built status], .ok none⟩ ∧
      stringField status "phase" = some "RepairFailed" := by
  unfold reconcileRepairForDrift
  simp only [allowed, found, Outcome.after]
  split
  · exact ⟨_, _, rfl, repairFailure_phase _ _ _ _ _ _ _⟩
  · rename_i running
    rw [if_pos (ended.resolve_left running)]
    exact ⟨_, _, rfl, lifecycleStatus_phase _ _ _ _ _⟩

/-- Such a pass fails the repair, and returns without asking for another. -/
theorem RepairEnded.pass (hrun : currentCheckRun invariant c.now = .ok run)
    (unread : statusFromReportConfigMap c invariant
      (repairConfigMapName invariant.name run.id) run = .ok none) (h : RepairEnded c invariant run) :
    ∃ writes status, reconcileJobBackedInvariant c invariant =
        ⟨writes ++ [.patchStatus .built status], .ok none⟩ ∧
      stringField status "phase" = some "RepairFailed" := by
  obtain ⟨configMap, report, stored, drift⟩ := h.drift
  obtain ⟨policy, mode, allowed⟩ := h.allowed
  obtain ⟨job, found, ended⟩ := h.ended
  have drifted := (enriched_phase report c.now run).trans drift
  obtain ⟨writes, status, repair, phase⟩ := reconcileRepairForDrift_ended allowed found ended
    (enrichScheduledStatus report c.now run) (reportConfigMapName invariant.name run.id)
  refine ⟨writes, status, ?_, phase⟩
  unfold reconcileJobBackedInvariant
  simp only [hrun, unread, statusFromReportConfigMap_of_report stored, if_pos drifted, repair]

theorem RepairEnded.result {history : Past} (reached : Run Fresh (Recorded Step) history c)
    (hrun : currentCheckRun invariant c.now = .ok run) (h : RepairEnded c invariant run) :
    (reconcileJobBackedInvariant c invariant).result = .ok none := by
  have unread := (report_unread_iff reached (currentCheckRun_ne_empty hrun)).mpr h.unrepaired
  obtain ⟨writes, status, pass, -⟩ := h.pass hrun unread
  rw [pass]

end Results

/-! ## Every reachable state -/

/-- A pass over a scheduled Invariant asks for the next one in time, unless a repair Job that
ended without a report stands in its way. -/
theorem requeued_iff {history : Past} {c : Cluster} (reached : Run Started (Recorded Step) history c)
    {invariant : Unstructured} {interval : Int}
    (read : checkInterval invariant.toResource = .ok (some interval)) (positive : 0 < interval)
    (fits : interval * 1000000000 < 2 ^ 63) {r : Requeue}
    (result : (reconcileJobBackedInvariant c invariant).result = .ok r) :
    Prompt interval r ↔
      ¬∃ run, currentCheckRun invariant c.now = .ok run ∧ RepairEnded c invariant run := by
  have clock := started_clock reached
  have fresh := started_run reached
  have onSchedule : ∀ run, currentCheckRun invariant c.now = .ok run →
      Prompt interval (requeueForRun run) := by
    intro run hrun
    obtain ⟨next, asked, ahead, within⟩ := currentCheckRun_requeue read positive fits clock hrun
    exact ⟨next, asked, ahead, le_trans within (le_max_right _ _)⟩
  constructor
  · rintro ⟨next, rfl, -⟩ ⟨run, hrun, ended⟩
    rw [ended.result fresh hrun] at result
    cases result
  intro notEnded
  have branch := reconcile_branch c invariant
  generalize reconcileJobBackedInvariant c invariant = outcome at branch result
  cases branch with
  | noRun e hrun => cases result
  | unreadable run duty e hrun failed => cases result
  | repaired run status hrun repaired =>
    rw [applyReport_result result]
    exact onSchedule run hrun
  | unreported run hrun unrepaired absent =>
    obtain rfl | rfl := reconcileCheckerJob_result result
    · exact onSchedule run hrun
    · exact prompt_soon interval
  | repairing run status outcome hrun unrepaired reported drift repair =>
    obtain ⟨allowed, ⟨rfl, -⟩ | ⟨-, ended⟩⟩ := reconcileRepairForDrift_result repair result
    · exact prompt_soon interval
    · have id := currentCheckRun_ne_empty hrun
      obtain ⟨configMap, report, stored, rfl⟩ := statusFromReportConfigMap_some id reported
      rw [enriched_phase] at drift
      exact absurd ⟨run, hrun, (report_unread_iff fresh id).mp unrepaired,
        ⟨configMap, report, stored, drift⟩, allowed, ended⟩ notEnded
  | reported run status hrun unrepaired reported calm =>
    rw [applyReport_result result]
    exact onSchedule run hrun

theorem requeued_iff_first_pass : ¬∃ run, currentCheckRun (ordersInvariant none) 0 = .ok run ∧
    RepairEnded (orders 0 none noJobs noConfigMaps) (ordersInvariant none) run := by
  obtain ⟨history, reached⟩ := orders_created
  have read : checkInterval (ordersInvariant none).toResource = .ok (some 60) := rfl
  have result : (reconcileJobBackedInvariant (orders 0 none noJobs noConfigMaps)
      (ordersInvariant none)).result = .ok requeueSoon := rfl
  exact (requeued_iff reached read (by decide) (by decide) result).mp (prompt_soon 60)

/-- The first slot's repair Job failed before it published. -/
def failedRepair : Job :=
  { ordersRepairJob firstSlot with
    conditions := [⟨.failed, true, "BackoffLimitExceeded", ""⟩]
    finishedAt := some 0 }

/-- After a failed repair nothing asks for the next check of an Invariant checked every minute. -/
theorem failed_repair_unscheduled : ∃ history c invariant, Run Started (Recorded Step) history c ∧
    c.invariant "orders" = some invariant ∧
    checkInterval invariant.toResource = .ok (some 60) ∧
    (reconcileJobBackedInvariant c invariant).result = .ok none := by
  obtain ⟨payload, repairing, history, -, reached⟩ := orders_repairing
  have finish : Step (orders 0 (some repairing) repairingJobs (reportMaps firstSlot payload oneOrder))
      (.finish (repairJobName "orders" "g1-t0") _) (orders 0 (some repairing) _ _) :=
    orders_finishes (ordersRepairJob firstSlot) ⟨.failed, true, "BackoffLimitExceeded", ""⟩
      (Function.update_self _ _ _) rfl
  have reached := reached.record finish
  refine ⟨_, _, ordersInvariant (some repairing), reached,
    orders_invariant 0 (some repairing) _ (reportMaps firstSlot payload oneOrder), rfl, ?_⟩
  refine RepairEnded.result (started_run reached) (orders_first (some repairing)) ⟨?_, ?_, ?_, ?_⟩
  · rintro ⟨configMap, report, there⟩
    have found : reportMaps firstSlot payload oneOrder (repairConfigMapName "orders" "g1-t0") =
        some configMap := there.stored
    rw [first_unrepaired] at found
    cases found
  · exact ⟨_, _, orders_report (by decide) (reportMaps_stored firstSlot payload oneOrder),
      orders_drift (Or.inl rfl)⟩
  · exact ⟨reindexPolicy, "direct-reindex", rfl⟩
  · exact ⟨failedRepair, Function.update_self _ _ _, Or.inl rfl⟩

end KubeDataGuard
