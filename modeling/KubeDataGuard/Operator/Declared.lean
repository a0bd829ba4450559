import KubeDataGuard.Operator.Modes

/-!
# Declared statuses that stay

A status made without a checker is still there when the mode changes. What a
pass compares of a report leaves out where the status came from, so that a report
which says the same is taken for applied.
-/

namespace KubeDataGuard

open Runs

/-- The run of a generation, without a schedule. -/
def generationRun (generation : Int) : CheckRun := { id := generationId generation }

def Unrepairable (name : String) (policies : List Unstructured) : Prop :=
  ∀ invariant : Unstructured, invariant.name = name →
    findAutoRepairPolicy invariant policies = .ok none

/-- A job mode Invariant without a schedule, its status and the report of its run. -/
structure Declared (name : String) (generation : Int) (status report : Fields) (c : Cluster) :
    Prop where
  stored : ∃ invariant interval, c.invariant name = some invariant ∧
    invariant.generation = generation ∧ checkerMode invariant = "job" ∧
    checkInterval invariant.toResource = .ok interval ∧ interval.getD 0 ≤ 0 ∧
    invariant.status = some status
  reported : ∃ configMap, ReportFor c generation (generationId generation)
    (reportConfigMapName name (generationId generation)) configMap report
  unrepaired : c.configMaps (repairConfigMapName name (generationId generation)) = none
  unrepairable : Unrepairable name c.policies

/-- The steps that leave the spec and the mode of the Invariant alone, its reports,
and the policies from which it has no repair. -/
def Undisturbed (name checkId : String) (c : Cluster) : ModeEvent → Prop
  | .other (.updateSpec other _) => other ≠ name
  | .other (.delete other) => other ≠ name
  | .other (.annotate other annotations) =>
    other = name → (annotations.lookup "dataguard.io/checker-mode").getD "" = "job"
  | .other (.work jobName _ _) => ∀ job, c.jobs jobName = some job →
    job.args.configMap ≠ reportConfigMapName name checkId ∧
      job.args.configMap ≠ repairConfigMapName name checkId
  | .other (.setPolicies policies) => Unrepairable name (policies.filterMap admitRepairPolicy)
  | _ => True

section Pass

variable {c t : Cluster} {name : String} {generation : Int} {status report : Fields}
  {invariant : Unstructured}

theorem get?_unscheduled (report : Fields) (now generation : Int) {key : String}
    (other : key ≠ "checkID") :
    (enrichScheduledStatus report now (generationRun generation)).get? key = report.get? key := by
  unfold enrichScheduledStatus generationRun
  simp only [Bool.false_eq_true, if_false]
  split
  · rfl
  · exact Fields.get?_set_ne _ _ other

/-- The status is there already exactly when the report tells the same. -/
theorem declaredApplied_iff {declaredBy : Unstructured} {driftCount : Int}
    (tells : Tells declaredBy driftCount status) (shown : invariant.status = some status)
    (now : Int) :
    reportStatusAlreadyApplied invariant
        (enrichScheduledStatus report now (generationRun generation)) = true ↔
      Tells declaredBy driftCount report := by
  have current : currentStatus invariant = some status := shown
  have int : ∀ {key}, key ≠ "checkID" →
      int64Field (enrichScheduledStatus report now (generationRun generation)) key =
        int64Field report key := by
    intro key other
    unfold int64Field
    rw [get?_unscheduled report now generation other]
  have text : ∀ {key}, key ≠ "checkID" →
      stringField (enrichScheduledStatus report now (generationRun generation)) key =
        stringField report key := by
    intro key other
    unfold stringField
    rw [get?_unscheduled report now generation other]
  have flag : boolField (enrichScheduledStatus report now (generationRun generation)) "healthy" =
      boolField report "healthy" := by
    unfold boolField
    rw [get?_unscheduled report now generation (by decide)]
  unfold reportStatusAlreadyApplied
  rw [current]
  simp only [List.all_cons, List.all_nil, Bool.and_true, Bool.and_eq_true, decide_eq_true_eq,
    int (show "driftCount" ≠ "checkID" by decide), int (show "counterexampleCount" ≠ "checkID" by decide),
    int (show "observedGeneration" ≠ "checkID" by decide),
    int (show "checkIntervalSeconds" ≠ "checkID" by decide), text (show "phase" ≠ "checkID" by decide),
    text (show "checkStatus" ≠ "checkID" by decide), text (show "guarantee" ≠ "checkID" by decide),
    text (show "reason" ≠ "checkID" by decide), text (show "repairAction" ≠ "checkID" by decide), flag,
    tells.counted, tells.counterexamples, tells.generation, tells.unscheduled, tells.phase,
    tells.checkStatus, tells.guarantee, tells.reason, tells.repairAction, tells.health]
  constructor
  · rintro ⟨⟨⟨h1, h2, h3, h4⟩, h5, h6, h7, h8, h9⟩, h10⟩
    exact ⟨h1.symm, h2.symm, h3.symm, h4.symm, h5.symm, h6.symm, h7.symm, h8.symm, h9.symm, h10.symm⟩
  · intro same
    exact ⟨⟨⟨same.counted.symm, same.counterexamples.symm, same.generation.symm,
      same.unscheduled.symm⟩, same.phase.symm, same.checkStatus.symm, same.guarantee.symm,
      same.reason.symm, same.repairAction.symm⟩, same.health.symm⟩

/-- A pass over a declared status only looks whether the report is there already. -/
theorem Declared.pass (declared : Declared name generation status report c)
    (found : c.invariant name = some invariant) :
    reconcile c invariant = applyReport invariant
      (reportConfigMapName name (generationId generation))
      (enrichScheduledStatus report c.now (generationRun generation)) (generationRun generation) := by
  obtain ⟨invariant', interval, found', rfl, mode, read, unscheduled, -⟩ := declared.stored
  obtain rfl := Option.some.inj (found.symm.trans found')
  obtain ⟨configMap, reported⟩ := declared.reported
  obtain ⟨-, rfl⟩ := invariant_some found
  have current : currentCheckRun invariant c.now = .ok (generationRun invariant.generation) := by
    unfold checkInterval at read
    unfold currentCheckRun
    rw [read]
    simp only [readError]
    rw [if_pos unscheduled]
    rfl
  have unrepaired : statusFromReportConfigMap c invariant (repairConfigMapName invariant.name
      (generationRun invariant.generation).id) (generationRun invariant.generation) = .ok none :=
    statusFromReportConfigMap_absent declared.unrepaired
  have copied : statusFromReportConfigMap c invariant (reportConfigMapName invariant.name
      (generationRun invariant.generation).id) (generationRun invariant.generation) =
        .ok (some (enrichScheduledStatus report c.now (generationRun invariant.generation))) :=
    statusFromReportConfigMap_of_report reported
  unfold reconcile
  rw [if_pos mode]
  unfold reconcileJobBackedInvariant
  simp only [current, unrepaired, copied]
  split
  · unfold reconcileRepairForDrift
    rw [declared.unrepairable invariant rfl]
    rfl
  · rfl

/-- A pass leaves a status that is there already, and replaces any other. -/
theorem Declared.writes_nil_iff (declared : Declared name generation status report c)
    (found : c.invariant name = some invariant) :
    (reconcile c invariant).writes = [] ↔ reportStatusAlreadyApplied invariant
      (enrichScheduledStatus report c.now (generationRun generation)) = true := by
  rw [declared.pass found]
  unfold applyReport
  split
  · rename_i same
    exact iff_of_true rfl same
  · rename_i other
    exact iff_of_false (List.cons_ne_nil _ _) other

/-- Same Invariant, same reports, and still no repair. -/
theorem Declared.of_eq (declared : Declared name generation status report c)
    (invariant : t.invariant name = c.invariant name)
    (report_kept : t.configMaps (reportConfigMapName name (generationId generation)) =
      c.configMaps (reportConfigMapName name (generationId generation)))
    (repair_kept : t.configMaps (repairConfigMapName name (generationId generation)) =
      c.configMaps (repairConfigMapName name (generationId generation)))
    (unrepairable : Unrepairable name t.policies) : Declared name generation status report t := by
  obtain ⟨stored, ⟨configMap, reported⟩, unrepaired, -⟩ := declared
  refine ⟨?_, ⟨configMap, ?_, reported.decoded, reported.observedGeneration, reported.checkID⟩, ?_,
    unrepairable⟩
  · rw [invariant]
    exact stored
  · rw [report_kept]
    exact reported.stored
  · rw [repair_kept]
    exact unrepaired

theorem invariant_congr (ns : t.ns = c.ns) (same : t.invariants name = c.invariants name) :
    t.invariant name = c.invariant name := by
  unfold Cluster.invariant
  rw [ns, same]

/-- What happens around the passes leaves the status declared. -/
theorem Declared.around (declared : Declared name generation status report c) {e : Event}
    (step : Step c e t) (around : e.isReconcile = false)
    (undisturbed : Undisturbed name (generationId generation) c (.other e)) :
    Declared name generation status report t := by
  obtain ⟨invariant, interval, found, kept⟩ := declared.stored
  obtain ⟨stored, -⟩ := invariant_some found
  have apart : ∀ {k : String} {r : Option Resource}, k ≠ name →
      Declared name generation status report
        { c with invariants := Function.update c.invariants k r } := fun ne =>
    declared.of_eq (invariant_congr rfl (Function.update_of_ne ne.symm _ _)) rfl rfl
      declared.unrepairable
  cases step with
  | reconcile => cases around
  | work jobName job calls scan found running =>
    obtain ⟨ne_report, ne_repair⟩ := undisturbed job found
    obtain ⟨invariants, -, policies, -, -⟩ := work_frame c job calls scan
    have map_kept : ∀ k, job.args.configMap ≠ k →
        (c.work job calls scan).configMaps k = c.configMaps k := by
      intro k ne
      obtain same | ⟨configMap, -, target, -⟩ := work_cases c job calls scan k
      · exact same
      · exact absurd target ne
    have ns : (c.work job calls scan).ns = c.ns := by
      unfold Cluster.work
      split <;> rfl
    refine declared.of_eq (invariant_congr ns (congrFun invariants name)) (map_kept _ ne_report)
      (map_kept _ ne_repair) ?_
    rw [policies]
    exact declared.unrepairable
  | updateSpec other r spec => exact apart undisturbed
  | annotate other r annotations found' =>
    by_cases same : other = name
    · subst same
      rw [stored] at found'
      obtain rfl := Option.some.inj found'
      obtain ⟨generation_eq, -, read, unscheduled, shown⟩ := kept
      obtain ⟨configMap, reported⟩ := declared.reported
      refine ⟨⟨{ invariant with annotations := annotations }, interval, ?_, generation_eq,
        undisturbed rfl, read, unscheduled, shown⟩,
        ⟨configMap, reported.stored, reported.decoded, reported.observedGeneration, reported.checkID⟩,
        declared.unrepaired, declared.unrepairable⟩
      obtain ⟨r, -, rfl⟩ := Option.map_eq_some_iff.mp found
      unfold Cluster.invariant Cluster.setInvariant
      simp only [Function.update_self, Option.map_some]
    · exact apart same
  | setPolicies policies => exact declared.of_eq rfl rfl rfl undisturbed
  | create other annotations spec absent =>
    have ne : other ≠ name := by
      rintro rfl
      rw [stored] at absent
      cases absent
    have created := apart (r := some ⟨c.nextUid, 1, annotations, [("spec", .obj spec)]⟩) ne
    exact created.of_eq rfl rfl rfl created.unrepairable
  | delete other => exact apart undisturbed
  | _ => exact declared.of_eq rfl rfl rfl declared.unrepairable

theorem Declared.step (declared : Declared name generation status report c) {e : ModeEvent}
    (step : ModeStep c e t) (undisturbed : Undisturbed name (generationId generation) c e)
    (same : ∀ invariant : Unstructured, invariant.status = some status → ∀ now,
      reportStatusAlreadyApplied invariant
        (enrichScheduledStatus report now (generationRun generation)) = true) :
    Declared name generation status report t := by
  cases step with
  | other e t step around => exact declared.around step around undisturbed
  | pass k invariant writes found made =>
    by_cases own : k = name
    · subst own
      obtain ⟨invariant', interval, found', -, -, -, -, shown⟩ := declared.stored
      obtain rfl := Option.some.inj (found.symm.trans found')
      rw [(declared.writes_nil_iff found).mpr (same invariant shown c.now)] at made
      rw [List.prefix_nil.mp made]
      exact declared
    · obtain ⟨maps, policies, -, -, ns⟩ := applyAll_frame c k writes
      refine declared.of_eq (invariant_congr ns (applyAll_other (Ne.symm own) c writes))
        (congrFun maps _) (congrFun maps _) ?_
      rw [policies]
      exact declared.unrepairable

theorem Declared.shown (declared : Declared name generation status report c) :
    ∃ r, c.invariants name = some r ∧ r.status = some status := by
  obtain ⟨invariant, interval, found, -, -, -, -, shown⟩ := declared.stored
  exact ⟨invariant.toResource, (invariant_some found).1, shown⟩

end Pass

/-- A status made without a checker outlives every pass in job mode exactly when the
report of its generation tells the same: then the report is never copied, whatever
happens that leaves the Invariant and its reports alone. -/
theorem declared_stays_iff {c : Cluster} {name : String} {generation : Int} {status report : Fields}
    {declaredBy : Unstructured} {driftCount now : Int}
    (built : buildSyntheticInvariantStatus declaredBy now = .ok status)
    (counted : syntheticDriftCount declaredBy = .ok driftCount)
    (declared : Declared name generation status report c) :
    (∀ events t, Run (· = c) (Guarded (Undisturbed name (generationId generation)) ModeStep) events t →
      ∃ r, t.invariants name = some r ∧ r.status = some status) ↔
    Tells declaredBy driftCount report := by
  obtain ⟨driftCount', counted', tells⟩ := buildSyntheticInvariantStatus_tells built
  rw [counted] at counted'
  obtain rfl := Except.ok.inj counted'
  constructor
  · intro stays
    obtain ⟨invariant, interval, found, -, -, -, -, shown⟩ := declared.stored
    obtain ⟨stored, -⟩ := invariant_some found
    by_contra other
    have unapplied : reportStatusAlreadyApplied invariant
        (enrichScheduledStatus report c.now (generationRun generation)) = false :=
      Bool.eq_false_iff.mpr fun applied => other ((declaredApplied_iff tells shown c.now).mp applied)
    have pass := declared.pass found
    unfold applyReport at pass
    rw [unapplied] at pass
    have step : ModeStep c (.pass name (reconcile c invariant).writes)
        (c.applyAll name (reconcile c invariant).writes) :=
      .pass c name invariant _ found List.prefix_rfl
    have run : Run (· = c) (Guarded (Undisturbed name (generationId generation)) ModeStep)
        [.pass name (reconcile c invariant).writes] (c.applyAll name (reconcile c invariant).writes) :=
      .next (.start rfl) ⟨trivial, step⟩
    obtain ⟨r, after, unchanged⟩ := stays _ _ run
    rw [pass] at after
    simp only [Bool.false_eq_true, if_false] at after
    rw [applyAll_patched stored] at after
    rw [← Option.some.inj after, Resource.status_patchStatus] at unchanged
    have same : status = enrichScheduledStatus report c.now (generationRun generation) :=
      (Option.some.inj unchanged).symm
    have current : currentStatus invariant = some status := shown
    unfold reportStatusAlreadyApplied at unapplied
    rw [current, ← same] at unapplied
    simp at unapplied
  · intro same events t run
    have applied : ∀ invariant : Unstructured, invariant.status = some status → ∀ now,
        reportStatusAlreadyApplied invariant
          (enrichScheduledStatus report now (generationRun generation)) = true :=
      fun _ shown now => (declaredApplied_iff tells shown now).mpr same
    have kept : Declared name generation status report t := by
      refine run.invariant (I := fun _ t => Declared name generation status report t) ?_ ?_
      · rintro t rfl
        exact declared
      · intro tr s e t _ kept step
        exact kept.step step.2 step.1 applied
    exact kept.shown

/-- The first check after the mode changed, which found both stores in agreement. -/
def agreed : Cluster :=
  { switchedChecking with
    configMaps := Function.update (fun _ => none) (reportConfigMapName "orders" "g1")
      (some (reportConfigMap [] (summaryStatus "default" "orders" twoOrders twoOrders))) }

theorem switchedChecking_invariant : switchedChecking.invariant "orders" = some switchedInvariant := by
  have kept : switchedChecking.invariants = switched.invariants := rfl
  have ns : switchedChecking.ns = switched.ns := rfl
  exact (invariant_congr ns (congrFun kept "orders")).trans switched_invariant

theorem agreed_declared : Declared "orders" 1 declaredStatus
    (summaryReport "default" "orders" twoOrders twoOrders) agreed := by
  have invariant : agreed.invariant "orders" = some switchedInvariant := switchedChecking_invariant
  have maps : agreed.configMaps = Function.update (fun _ => none) (reportConfigMapName "orders" "g1")
      (some (reportConfigMap [] (summaryStatus "default" "orders" twoOrders twoOrders))) := rfl
  have apart : repairConfigMapName "orders" "g1" ≠ reportConfigMapName "orders" "g1" := by
    decide +kernel
  have stored : agreed.configMaps (reportConfigMapName "orders" "g1") =
      some (reportConfigMap [] (summaryStatus "default" "orders" twoOrders twoOrders)) := by
    rw [maps, Function.update_self]
  have unrepaired : agreed.configMaps (repairConfigMapName "orders" "g1") = none := by
    rw [maps, Function.update_of_ne apart]
  refine ⟨⟨switchedInvariant, none, invariant, rfl, rfl, rfl, le_refl 0, rfl⟩,
    ⟨_, stored, summary_decoded _ _ _ _ _, rfl, rfl⟩, unrepaired, ?_⟩
  intro _ _
  rfl

/-- The report tells the same, and nothing shows that the check was made. -/
theorem declared_stays_agreed :
    Tells (declaredInvariant []) 0 (summaryReport "default" "orders" twoOrders twoOrders) ∧
    ∀ events t, Run (· = agreed) (Guarded (Undisturbed "orders" (generationId 1)) ModeStep) events t →
      ∃ r, t.invariants "orders" = some r ∧ r.status = some declaredStatus := by
  have same : Tells (declaredInvariant []) 0 (summaryReport "default" "orders" twoOrders twoOrders) :=
    ⟨rfl, rfl, rfl, rfl, rfl, rfl, rfl, rfl, rfl, rfl⟩
  exact ⟨same, (declared_stays_iff declaredStatus_built rfl agreed_declared).mpr same⟩

end KubeDataGuard
