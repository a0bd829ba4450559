import KubeDataGuard.Operator.ScheduledCheck

/-!
# Reports of slow checks

A pass looks for reports under the check ID of its own time. A checker's report
is acted on as long as the run it was made for is the current one; one that
arrives after its slot has ended is passed over.
-/

namespace KubeDataGuard

open Runs

/-- What a pass does with a report of a check: it copies it, finds it copied, has the repair it
calls for created or under way, or leaves it for the repair's own report. -/
inductive ActsOn (c : Cluster) (invariant : Unstructured) (run : CheckRun) (checkId configMap : String)
    (report : Fields) : Prop
  | applied (copied : .patchStatus (.copied configMap) (enrichScheduledStatus report c.now run) ∈
      (reconcileJobBackedInvariant c invariant).writes)
  | already (same : reportStatusAlreadyApplied invariant (enrichScheduledStatus report c.now run) = true)
  | repairing (drift : stringField report "phase" = some "DriftDetected")
      (repair : (∃ job, .createJob job ∈ (reconcileJobBackedInvariant c invariant).writes ∧
          job.duty = .repair ∧ job.args.check.checkId = checkId) ∨
        ∃ job, c.jobs (repairJobName invariant.name checkId) = some job)
  | repaired (readable : Readable c (repairConfigMapName invariant.name checkId) invariant.generation
      checkId)

section Current

variable {history : Past} {c : Cluster} {invariant : Unstructured} {run : CheckRun} {r : Requeue}

/-- A repair pass that returns has its Job, or makes it. -/
theorem reconcileRepairForDrift_job {status : Fields} {source : String} {outcome : Outcome}
    (repair : reconcileRepairForDrift c invariant status source run = some outcome)
    (result : outcome.result = .ok r) :
    (∃ job, .createJob job ∈ outcome.writes ∧ job.duty = .repair ∧ job.args.check.checkId = run.id) ∨
      ∃ job, c.jobs (repairJobName invariant.name run.id) = some job := by
  unfold reconcileRepairForDrift at repair
  split at repair
  · rw [← Option.some.inj repair] at result
    cases result
  · cases repair
  rw [← Option.some.inj repair] at result ⊢
  simp only [Outcome.after] at result ⊢
  split at result
  · split at result
    · cases result
    split at result
    · cases result
    rename_i absent _ env resolved _ job built
    obtain ⟨made, -, kind⟩ := buildRepairJobWithEnv_ok built
    refine Or.inl ⟨job, ?_, ?_, made.checkId⟩
    · exact List.mem_append_right _ List.mem_cons_self
    · rw [Job.duty, kind]
  · rename_i job found
    exact Or.inr ⟨job, found⟩

/-- The report of the current check is acted on by every pass that returns. -/
theorem current_report_acted_on {configMap : ConfigMap} {report : Fields}
    (hrun : currentCheckRun invariant c.now = .ok run)
    (there : ReportFor c invariant.generation run.id (reportConfigMapName invariant.name run.id)
      configMap report)
    (result : (reconcileJobBackedInvariant c invariant).result = .ok r) :
    ActsOn c invariant run run.id (reportConfigMapName invariant.name run.id) report := by
  have read := statusFromReportConfigMap_of_report there
  have branch := reconcile_branch c invariant
  generalize pass : reconcileJobBackedInvariant c invariant = outcome at branch result
  have acts : ∀ {status}, enrichScheduledStatus report c.now run = status →
      outcome = applyReport invariant (reportConfigMapName invariant.name run.id) status run →
      ActsOn c invariant run run.id (reportConfigMapName invariant.name run.id) report := by
    rintro status rfl applied
    cases same : reportStatusAlreadyApplied invariant (enrichScheduledStatus report c.now run) with
    | true => exact .already same
    | false =>
      refine .applied ?_
      rw [pass, applied]
      unfold applyReport
      rw [same]
      exact List.mem_cons_self
  have current : ∀ {run'}, currentCheckRun invariant c.now = .ok run' → run' = run :=
    fun hrun' => Except.ok.inj (hrun'.symm.trans hrun)
  cases branch with
  | noRun e failed =>
    rw [hrun] at failed
    cases failed
  | unreadable run' duty e hrun' failed => cases result
  | repaired run' status hrun' repaired =>
    obtain rfl := current hrun'
    obtain ⟨configMap, report, stored, -⟩ :=
      statusFromReportConfigMap_some (currentCheckRun_ne_empty hrun) repaired
    exact .repaired ⟨configMap, report, stored⟩
  | unreported run' hrun' unrepaired absent =>
    obtain rfl := current hrun'
    rw [read] at absent
    cases absent
  | repairing run' status outcome hrun' unrepaired reported drift repair =>
    obtain rfl := current hrun'
    rw [read] at reported
    obtain rfl := Option.some.inj (Except.ok.inj reported)
    refine .repairing ((enriched_phase report c.now run').symm.trans drift) ?_
    rw [pass]
    exact reconcileRepairForDrift_job repair result
  | reported run' status hrun' unrepaired reported calm =>
    obtain rfl := current hrun'
    rw [read] at reported
    exact acts (Option.some.inj (Except.ok.inj reported)) rfl

/-- A checker's report for the current generation is acted on by every pass that returns while
the slot it was made for lasts and it is what is stored. -/
theorem report_in_slot_acted_on (reached : Run Started (Recorded Step) history c) {configMap : ConfigMap}
    {job : Job} {calls : WorkerCalls} {scan : ScanWorld}
    (published : PublishedBy history job.args.configMap configMap job calls scan)
    (kept : c.configMaps job.args.configMap = some configMap)
    (owner : job.ownerReferences = invariantOwnerReferences invariant) (check : job.duty = .check)
    (generation : job.args.observedGeneration = invariant.generation)
    (hrun : currentCheckRun invariant c.now = .ok run) (slot : job.args.check.checkId = run.id)
    (result : (reconcileJobBackedInvariant c invariant).result = .ok r) :
    ∃ report, decodeStatusPayload configMap.statusJson = .ok report ∧
      ActsOn c invariant run job.args.check.checkId job.args.configMap report := by
  have fresh := started_run reached
  obtain ⟨c₁, jobName, event, found, -, out⟩ := id published
  obtain ⟨earlier, reached₁⟩ := fresh.recorded_state event
  obtain ⟨report, healthy, decoded, -⟩ := published_reads out
  obtain ⟨observed, checkId, -⟩ := published.report fresh decoded
  have name := (job_of reached₁ found owner).configMap
  rw [check, slot] at name
  have there : ReportFor c invariant.generation run.id (reportConfigMapName invariant.name run.id)
      configMap report := by
    refine ⟨?_, decoded, generation ▸ observed, slot ▸ checkId⟩
    rw [← kept, name]
    rfl
  refine ⟨report, decoded, ?_⟩
  rw [slot, name]
  exact current_report_acted_on hrun there result

end Current

/-- The report of the first slot, in the first slot. -/
theorem report_in_slot_acted_on_at_once : ∃ history c configMap report,
    Run Started (Recorded Step) history c ∧
    c.configMaps (reportConfigMapName "orders" "g1-t0") = some configMap ∧
    decodeStatusPayload configMap.statusJson = .ok report ∧
    ActsOn c (ordersInvariant (some ordersRunning)) firstSlot "g1-t0"
      (reportConfigMapName "orders" "g1-t0") report := by
  obtain ⟨history, reached⟩ := orders_checking
  obtain ⟨payload, published⟩ := orders_agreement_published noConfigMaps
  have reached := reached.record (orders_reported published)
  have publication : PublishedBy (_ :: history) (ordersJob firstSlot).args.configMap _
      (ordersJob firstSlot) (summaryCalls twoOrders twoOrders) ⟨none, [], []⟩ :=
    ⟨orders 0 (some ordersRunning) firstJobs noConfigMaps, checkerJobName "orders" "g1-t0",
      List.mem_cons_self, firstJobs_checker, rfl, published⟩
  have owner : (ordersJob firstSlot).ownerReferences =
      invariantOwnerReferences (ordersInvariant (some ordersRunning)) := rfl
  obtain ⟨report, decoded, acts⟩ := report_in_slot_acted_on reached publication
    (reportMaps_stored firstSlot payload twoOrders) owner rfl rfl (orders_first _) rfl
    (congrArg Outcome.result (orders_agreement_pass firstJobs payload))
  exact ⟨_, _, _, report, reached, reportMaps_stored firstSlot payload twoOrders, decoded, acts⟩

/-- A pass that starts another check does nothing with the first slot's report of agreement. -/
theorem first_report_ignored {now : Int} {jobs : String → Option Job} {payload status : Fields}
    {run : CheckRun} {job : Job} {requeue : Except Error Requeue}
    (pass : reconcileJobBackedInvariant
      (orders now (some ordersRunning) jobs (reportMaps firstSlot payload twoOrders))
      (ordersInvariant (some ordersRunning)) =
      ⟨[.createJob job, .patchStatus .built status], requeue⟩) :
    ¬ActsOn (orders now (some ordersRunning) jobs (reportMaps firstSlot payload twoOrders))
      (ordersInvariant (some ordersRunning)) run "g1-t0" (reportConfigMapName "orders" "g1-t0")
      (normalizeMembers (ordersStatus firstSlot twoOrders twoOrders)) := by
  intro acts
  cases acts with
  | applied copied =>
    rw [pass] at copied
    simp at copied
  | already same =>
    have other : reportStatusAlreadyApplied (ordersInvariant (some ordersRunning))
        (enrichScheduledStatus (normalizeMembers (ordersStatus firstSlot twoOrders twoOrders))
          now run) = false := by
      refine reportStatusAlreadyApplied_phase rfl ?_
      rw [enriched_phase, orders_agreement]
      decide
    exact absurd (same.symm.trans other) (by decide)
  | repairing drift =>
    rw [orders_agreement] at drift
    simp at drift
  | repaired readable =>
    obtain ⟨configMap, report, there⟩ := readable
    have stored : reportMaps firstSlot payload twoOrders (repairConfigMapName "orders" "g1-t0") =
        some configMap := there.stored
    rw [first_unrepaired] at stored
    cases stored

/-- The report of an ended slot, with no other report anywhere, is passed over: the pass that
comes next starts the check of its own slot. -/
theorem late_report_passed_over : ∃ history c₁ c calls scan configMap report invariant run r,
    Run Started (Recorded Step)
      ((c₁, .work (checkerJobName "orders" "g1-t0") calls scan) :: history) c ∧
    c₁.jobs (checkerJobName "orders" "g1-t0") = some (ordersJob firstSlot) ∧
    (runJob calls (ordersJob firstSlot).args c₁.configMaps scan).2.published = some configMap ∧
    decodeStatusPayload configMap.statusJson = .ok report ∧
    c.invariant "orders" = some invariant ∧
    (ordersJob firstSlot).ownerReferences = invariantOwnerReferences invariant ∧
    (ordersJob firstSlot).args.observedGeneration = invariant.generation ∧
    (∀ k, k ≠ (ordersJob firstSlot).args.configMap → c.configMaps k = none) ∧
    currentCheckRun invariant c.now = .ok run ∧ run.scheduled = true ∧
    (reconcileJobBackedInvariant c invariant).result = .ok r ∧
    ¬ActsOn c invariant run (ordersJob firstSlot).args.check.checkId
      (ordersJob firstSlot).args.configMap report := by
  obtain ⟨history, reached⟩ := orders_checking
  obtain ⟨payload, published⟩ := orders_agreement_published noConfigMaps
  have minute : Step (orders 0 (some ordersRunning) firstJobs noConfigMaps) (.tick 60000000000)
      (orders 60000000000 (some ordersRunning) firstJobs noConfigMaps) := orders_ticks _
  have reached := (reached.record minute).record (orders_reported published)
  have empty : ∀ k, k ≠ reportConfigMapName "orders" "g1-t0" →
      reportMaps firstSlot payload twoOrders k = none :=
    fun k other => reportMaps_other other payload twoOrders
  have free : firstJobs (checkerJobName "orders" "g1-t1") = none :=
    Function.update_of_ne (by decide +kernel) _ _
  have pass : reconcileJobBackedInvariant
      (orders 60000000000 (some ordersRunning) firstJobs (reportMaps firstSlot payload twoOrders))
      (ordersInvariant (some ordersRunning)) =
      ⟨[.createJob (ordersJob nextSlot),
        .patchStatus .built (checkerRunning (some ordersRunning) 60000000000 nextSlot)],
        .ok requeueSoon⟩ :=
    orders_check_pass (orders_next (some ordersRunning)) (empty _ (by decide +kernel))
      (empty _ (by decide +kernel)) free rfl
  exact ⟨_, _, _, _, _, _, _, ordersInvariant (some ordersRunning), nextSlot, requeueSoon, reached,
    firstJobs_checker, published, rfl,
    orders_invariant 60000000000 (some ordersRunning) firstJobs (reportMaps firstSlot payload twoOrders),
    rfl, rfl, empty, orders_next _, rfl, congrArg Outcome.result pass, first_report_ignored pass⟩

end KubeDataGuard
