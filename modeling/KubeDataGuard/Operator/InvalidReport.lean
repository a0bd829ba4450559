import KubeDataGuard.Operator.Race
import KubeDataGuard.Operator.Requeue
import KubeDataGuard.Operator.Telemetry

/-!
# Invalid reports

A Job that is over without a valid report fails its check or its repair. A
report for another run counts as none and does not stand in the way; a
`status.json` that does not decode does, in this pass and in every later one.
-/

namespace KubeDataGuard

open Runs

/-! ## What reads as no report -/

/-- A JSON object, or `null`, which Go decodes into an empty one. -/
def Payload.IsObject : Payload → Prop
  | .json (.obj _) | .json .null => True
  | _ => False

theorem decodeStatusPayload_ok_iff (raw : Payload) :
    (∃ report, decodeStatusPayload raw = .ok report) ↔ raw.IsObject := by
  cases raw with
  | json value => cases value <;> simp [decodeStatusPayload, Payload.IsObject]
  | _ => simp [decodeStatusPayload, Payload.IsObject]

/-- What is stored under the name is an object, if anything is stored. -/
def Decodes (c : Cluster) (name : String) : Prop :=
  ∀ configMap, c.configMaps name = some configMap → configMap.statusJson.IsObject

section Unread

variable {c : Cluster} {invariant : Unstructured} {run : CheckRun} {name : String}

theorem ReportFor.decodes {generation : Int} {checkId : String} {configMap : ConfigMap}
    {report : Fields} (h : ReportFor c generation checkId name configMap report) : Decodes c name := by
  intro configMap' stored
  rw [h.stored] at stored
  obtain rfl := Option.some.inj stored
  exact (decodeStatusPayload_ok_iff _).mp ⟨report, h.decoded⟩

/-- Without a valid report, what decodes is for another generation or another check ID. -/
theorem unread_of_decodes (absent : ¬Readable c name invariant.generation run.id)
    (id : run.id ≠ "") (decodes : Decodes c name) :
    statusFromReportConfigMap c invariant name run = .ok none := by
  rw [statusFromReportConfigMap_none_iff]
  intro configMap stored
  obtain ⟨report, decoded⟩ := (decodeStatusPayload_ok_iff _).mpr (decodes configMap stored)
  refine ⟨report, decoded, ?_⟩
  by_contra other
  rw [not_or, not_not] at other
  obtain ⟨generation, checkId⟩ := other
  have checkID : stringField report "checkID" = some run.id := by
    by_contra wrong
    exact checkId ⟨id, wrong⟩
  exact absent ⟨configMap, report, stored, decoded, generation, checkID⟩

theorem decodes_of_read {status : Option Fields} (id : run.id ≠ "")
    (read : statusFromReportConfigMap c invariant name run = .ok status) : Decodes c name := by
  cases status with
  | none =>
    intro configMap stored
    obtain ⟨report, decoded, -⟩ := statusFromReportConfigMap_none_iff.mp read configMap stored
    exact (decodeStatusPayload_ok_iff _).mp ⟨report, decoded⟩
  | some status =>
    obtain ⟨configMap, report, there, -⟩ := statusFromReportConfigMap_some id read
    exact there.decodes

/-- What does not decode is an error. -/
theorem read_error (invariant : Unstructured) (id : run.id ≠ "") (garbled : ¬Decodes c name) :
    ∃ e, statusFromReportConfigMap c invariant name run = .error e := by
  cases read : statusFromReportConfigMap c invariant name run with
  | error e => exact ⟨e, rfl⟩
  | ok status => exact absurd (decodes_of_read id read) garbled

end Unread

/-! ## Jobs that are over -/

section Ended

variable {c : Cluster} {invariant : Unstructured} {run : CheckRun} {job : Job}

theorem reconcileCheckerJob_ended (found : c.jobs (checkerJobName invariant.name run.id) = some job)
    (ended : jobFailed job = true ∨ jobComplete job = true) :
    ∃ writes status, reconcileCheckerJob c invariant run =
        ⟨writes ++ [.patchStatus .built status], .ok (requeueForRun run)⟩ ∧
      stringField status "phase" = some Duty.check.failedPhase := by
  unfold reconcileCheckerJob
  simp only [found, Outcome.after]
  split
  · exact ⟨_, _, rfl, checkerFailure_phase _ _ _ _ _ _⟩
  · rename_i running
    rw [if_pos (ended.resolve_left running)]
    exact ⟨_, _, rfl, lifecycleStatus_phase _ _ _ _ _⟩

/-- The last patch is the status. -/
theorem applyAll_last {name : String} {r : Resource} (stored : c.invariants name = some r)
    (writes : List Write) (origin : Origin) (status : Fields) :
    (c.applyAll name (writes ++ [.patchStatus origin status])).status name = some status := by
  obtain ⟨r', there, -⟩ := applyAll_invariant writes stored
  have split : c.applyAll name (writes ++ [.patchStatus origin status]) =
      (c.applyAll name writes).applyAll name [.patchStatus origin status] := by
    simp only [Cluster.applyAll, List.foldl_append]
  unfold Cluster.status
  rw [split, applyAll_patched there, Option.bind_some, Resource.status_patchStatus]

end Ended

/-! ## A run without a valid report -/

section Invalid

variable (c : Cluster) (name : String) (invariant : Unstructured) (run : CheckRun)

/-- The Job the run waits for is over, and its report is not valid or not there. -/
inductive Awaited : Duty → Prop
  | check
      (unrepaired : ¬Readable c (repairConfigMapName invariant.name run.id) invariant.generation run.id)
      (unreported : ¬Readable c (reportConfigMapName invariant.name run.id) invariant.generation run.id)
      (ended : ∃ job, c.jobs (checkerJobName invariant.name run.id) = some job ∧
        (jobFailed job = true ∨ jobComplete job = true)) : Awaited .check
  | repair (ended : RepairEnded c invariant run) : Awaited .repair

/-- The pass returns, and the status says that the duty failed. -/
structure Fails (duty : Duty) : Prop where
  returns : ∃ requeue, (reconcileJobBackedInvariant c invariant).result = .ok requeue
  written : ∃ status, .patchStatus .built status ∈ (reconcileJobBackedInvariant c invariant).writes ∧
    (c.reconciled name invariant).status name = some status ∧
    stringField status "phase" = some duty.failedPhase

variable {c name invariant run} {duty : Duty}

theorem fails_of_pass {writes : List Write} {status : Fields} {requeue : Requeue}
    (found : c.invariant name = some invariant)
    (pass : reconcileJobBackedInvariant c invariant =
      ⟨writes ++ [.patchStatus .built status], .ok requeue⟩)
    (phase : stringField status "phase" = some duty.failedPhase) : Fails c name invariant duty := by
  refine ⟨⟨requeue, by rw [pass]⟩, status, ?_, ?_, phase⟩
  · rw [pass]
    exact List.mem_append_right _ (List.mem_singleton_self _)
  · unfold Cluster.reconciled
    rw [pass]
    exact applyAll_last (invariant_some found).1 writes .built status

/-- A pass that finds either ConfigMap garbled fails before it looks at a Job. -/
theorem garbled_errs (hrun : currentCheckRun invariant c.now = .ok run)
    (awaited : Awaited c invariant run duty)
    (garbled : ¬∀ duty : Duty, Decodes c (duty.configMapName invariant.name run.id)) :
    ∃ e, reconcileJobBackedInvariant c invariant = .fail e := by
  have id := currentCheckRun_ne_empty hrun
  have unrepaired :
      ¬Readable c (repairConfigMapName invariant.name run.id) invariant.generation run.id := by
    cases awaited with
    | check unrepaired _ _ => exact unrepaired
    | repair ended => exact ended.unrepaired
  unfold reconcileJobBackedInvariant
  simp only [hrun]
  by_cases repair : Decodes c (repairConfigMapName invariant.name run.id)
  · have report : ¬Decodes c (reportConfigMapName invariant.name run.id) := by
      intro report
      refine garbled fun duty => ?_
      cases duty with
      | check => exact report
      | repair => exact repair
    obtain ⟨e, failed⟩ := read_error invariant id report
    simp only [unread_of_decodes unrepaired id repair, failed]
    exact ⟨e, rfl⟩
  · obtain ⟨e, failed⟩ := read_error invariant id repair
    simp only [failed]
    exact ⟨e, rfl⟩

/-- The pass over a Job that ended without a valid report fails the check or the repair exactly
when nothing stored under the run's names is garbled. -/
theorem invalid_report_fails_iff (found : c.invariant name = some invariant)
    (hrun : currentCheckRun invariant c.now = .ok run) (awaited : Awaited c invariant run duty) :
    Fails c name invariant duty ↔
      ∀ duty : Duty, Decodes c (duty.configMapName invariant.name run.id) := by
  have id := currentCheckRun_ne_empty hrun
  constructor
  · intro fails
    by_contra garbled
    obtain ⟨e, errs⟩ := garbled_errs hrun awaited garbled
    obtain ⟨requeue, returns⟩ := fails.returns
    rw [errs] at returns
    cases returns
  intro decodes
  cases awaited with
  | check unrepaired unreported ended =>
    obtain ⟨job, there, finished⟩ := ended
    obtain ⟨writes, status, pass, phase⟩ := reconcileCheckerJob_ended there finished
    have waits : reconcileJobBackedInvariant c invariant = reconcileCheckerJob c invariant run := by
      unfold reconcileJobBackedInvariant
      simp only [hrun, unread_of_decodes unrepaired id (decodes .repair),
        unread_of_decodes unreported id (decodes .check)]
    exact fails_of_pass found (waits.trans pass) phase
  | repair ended =>
    have unread := unread_of_decodes ended.unrepaired id (decodes .repair)
    obtain ⟨writes, status, pass, phase⟩ := ended.pass hrun unread
    exact fails_of_pass found pass phase

end Invalid

/-! ## A report without `status.json`

The first slot was healthy. The second one's Job completed, and left a ConfigMap.
-/

def leftConfigMap (raw : Payload) : ConfigMap := { statusJson := raw, repairInput := .empty }

def leftMaps (raw : Payload) : String → Option ConfigMap :=
  Function.update noConfigMaps (reportConfigMapName "orders" "g1-t1") (some (leftConfigMap raw))

def completedJob : Job :=
  { ordersJob nextSlot with
    conditions := [⟨.complete, true, "", ""⟩]
    finishedAt := some 60000000000 }

def completedJobs : String → Option Job :=
  Function.update noJobs (checkerJobName "orders" "g1-t1") (some completedJob)

def abandoned (raw : Payload) : Cluster :=
  orders 60000000000 (some (breachStatus 0 firstSlot 0)) completedJobs (leftMaps raw)

def abandonedInvariant : Unstructured := ordersInvariant (some (breachStatus 0 firstSlot 0))

theorem leftMaps_stored (raw : Payload) :
    (abandoned raw).configMaps (reportConfigMapName "orders" "g1-t1") = some (leftConfigMap raw) :=
  Function.update_self _ _ _

theorem leftMaps_unrepaired (raw : Payload) :
    (abandoned raw).configMaps (repairConfigMapName "orders" "g1-t1") = none :=
  Function.update_of_ne (by decide +kernel) _ _

theorem abandoned_awaited {raw : Payload} (unreadable : ∀ members, raw ≠ .json (.obj members)) :
    Awaited (abandoned raw) abandonedInvariant nextSlot .check := by
  refine .check ?_ ?_ ⟨completedJob, Function.update_self _ _ _, Or.inr rfl⟩
  · rintro ⟨configMap, report, there⟩
    have stored := (leftMaps_unrepaired raw).symm.trans there.stored
    cases stored
  · rintro ⟨configMap, report, there⟩
    have stored := (leftMaps_stored raw).symm.trans there.stored
    obtain rfl := Option.some.inj stored
    have decoded := there.decoded
    have generation := there.observedGeneration
    cases raw with
    | json value =>
      cases value with
      | obj members => exact absurd rfl (unreadable members)
      | null =>
        obtain rfl := Except.ok.inj decoded
        cases generation
      | _ => cases decoded
    | _ => cases decoded

theorem missing_status_endless :
    (abandoned .empty).invariant "orders" = some abandonedInvariant ∧
    currentCheckRun abandonedInvariant (abandoned .empty).now = .ok nextSlot ∧
    Awaited (abandoned .empty) abandonedInvariant nextSlot .check ∧
    ¬Fails (abandoned .empty) "orders" abandonedInvariant .check ∧
    (∃ e, (reconcileJobBackedInvariant (abandoned .empty) abandonedInvariant).result = .error e) ∧
    (abandoned .empty).reconciled "orders" abandonedInvariant = abandoned .empty := by
  have found : (abandoned .empty).invariant "orders" = some abandonedInvariant :=
    orders_invariant _ _ _ _
  have hrun : currentCheckRun abandonedInvariant (abandoned .empty).now = .ok nextSlot := orders_next _
  have awaited : Awaited (abandoned .empty) abandonedInvariant nextSlot .check := abandoned_awaited nofun
  have garbled : ¬∀ duty : Duty, Decodes (abandoned .empty) (duty.configMapName "orders" nextSlot.id) :=
    fun decodes => decodes .check _ (leftMaps_stored .empty)
  obtain ⟨e, errs⟩ := garbled_errs hrun awaited garbled
  refine ⟨found, hrun, awaited, ?_, ⟨e, by rw [errs]; rfl⟩, ?_⟩
  · intro fails
    obtain ⟨requeue, returns⟩ := fails.returns
    rw [errs] at returns
    cases returns
  · unfold Cluster.reconciled
    rw [errs]
    rfl

theorem invalid_report_fails_iff_null :
    Fails (abandoned (.json .null)) "orders" abandonedInvariant .check := by
  have found : (abandoned (.json .null)).invariant "orders" = some abandonedInvariant :=
    orders_invariant _ _ _ _
  refine (invalid_report_fails_iff found (orders_next _) (abandoned_awaited nofun)).mpr ?_
  rintro (- | -) configMap stored
  · obtain rfl := Option.some.inj ((leftMaps_stored (.json .null)).symm.trans stored)
    trivial
  · cases (leftMaps_unrepaired (.json .null)).symm.trans stored

end KubeDataGuard
