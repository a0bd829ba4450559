import KubeDataGuard.Operator.FirstCheck

/-!
# Which repairs the operator starts

A repair Job is created for drift a report of the current run found, in the
mode of the first policy that allows the operator to repair by itself.
-/

namespace KubeDataGuard

open Runs

section Policies

variable {history : Past} {c t : Cluster} {e : Event}

/-- Every policy passed admission, which fills in the default of `approvalRequired`. -/
def Admitted (c : Cluster) : Prop := ∀ p ∈ c.policies, ∃ raw, admitRepairPolicy raw = some p

theorem step_admitted (h : Step c e t) (admitted : Admitted c) : Admitted t := by
  cases h with
  | reconcile name _ writes =>
    intro p hp
    rw [(applyAll_frame c name writes).2.1] at hp
    exact admitted p hp
  | work name job calls scan =>
    intro p hp
    rw [(work_frame c job calls scan).2.2.1] at hp
    exact admitted p hp
  | setPolicies policies =>
    intro p hp
    obtain ⟨raw, -, hraw⟩ := List.mem_filterMap.mp hp
    exact ⟨raw, hraw⟩
  | _ => exact admitted

theorem reachable_admitted (run : Run Fresh (Recorded Step) history c) : Admitted c := by
  refine run.recorded_invariant (I := fun _ c => Admitted c) ?_ ?_
  · intro c fresh p hp
    rw [fresh.policies] at hp
    cases hp
  · exact fun history c e t _ admitted step => step_admitted step admitted

end Policies

/-- A repair Job in a mode is called for: the stored report is for this run and
found drift, and the first policy that allows any repair allows this one. -/
structure Authorised (c : Cluster) (invariant : Unstructured) (source mode : String) : Prop where
  drift : ∃ run configMap report, currentCheckRun invariant c.now = .ok run ∧
    source = reportConfigMapName invariant.name run.id ∧
    ReportFor c invariant.generation run.id source configMap report ∧
    stringField report "phase" = some "DriftDetected"
  policy : ∃ before policy after, c.policies = before ++ policy :: after ∧
    Allows policy invariant.name mode ∧ (∀ p ∈ before, ∀ m, ¬Allows p invariant.name m) ∧
    (mode = "direct-reindex" → policy.annotation annotationAllowUnsafeReindex = "true")

theorem Allows.unfenced {policy : Unstructured} {invariantName mode : String}
    (h : Allows policy invariantName mode) (direct : mode = "direct-reindex") :
    policy.annotation annotationAllowUnsafeReindex = "true" := by
  obtain ⟨before, action, after, -, -, entry, -⟩ := h.action
  exact repairModeForAction_direct (entry.trans direct)

theorem WriteOf.authorised {c : Cluster} {invariant : Unstructured} {job : Job}
    {source mode : String} (admitted : Admitted c) (h : WriteOf c invariant (.createJob job))
    (repair : job.args.kind = .repairJob source mode) : Authorised c invariant source mode := by
  cases h with
  | checkerJob run job hrun unrepaired unreported absent named kind =>
    rw [kind] at repair
    cases repair
  | repairJob run job status policy mode' hrun unrepaired reported drift allowed absent named kind =>
    rw [kind] at repair
    obtain ⟨rfl, rfl⟩ := JobKind.repairJob.inj repair
    constructor
    · obtain ⟨configMap, report, found, rfl⟩ :=
        statusFromReportConfigMap_some (currentCheckRun_ne_empty hrun) reported
      refine ⟨run, configMap, report, hrun, rfl, found, ?_⟩
      unfold stringField at drift ⊢
      rwa [get?_enrichScheduledStatus _ _ _ (by decide)] at drift
    · obtain ⟨before, after, split, allows, first⟩ := findAutoRepairPolicy_allows admitted allowed
      exact ⟨before, policy, after, split, allows, first, allows.unfenced⟩

/-- Whatever policies there are and whatever happened before, a reconcile
creates a repair Job only where one is called for. -/
theorem repair_job_authorised {history : Past} {c t : Cluster} {name : String}
    {writes : List Write} {job : Job} {source mode : String} (run : Run Fresh (Recorded Step) history c)
    (step : Step c (.reconcile name writes) t) (created : .createJob job ∈ writes)
    (repair : job.args.kind = .repairJob source mode) :
    ∃ invariant, c.invariant name = some invariant ∧ Authorised c invariant source mode := by
  obtain ⟨invariant, found, write⟩ := reconcile_write step created
  exact ⟨invariant, found, write.authorised (reachable_admitted run) repair⟩

/-- A policy that unfences the direct write, after an action nothing executes. -/
def reindexPolicy : Unstructured where
  ns := "default"
  name := "repair-orders"
  uid := 0
  generation := 1
  annotations := [(annotationAllowUnsafeReindex, "true")]
  object := [("spec", .obj [("invariantRef", .str "orders"), ("approvalRequired", .bool false),
    ("actions", .arr [.obj [("type", .str "page-owner")], .obj [("type", .str "reindex-records")]])])]

/-- A first check found drift that the policy has repaired directly. -/
def permitted (payload : Fields) : Cluster :=
  { reported "default" "orders" "aggregate"
      (reportConfigMap payload (summaryStatus "default" "orders" twoOrders oneOrder)) with
    policies := [reindexPolicy] }

theorem permitted_run : ∃ payload history, Run Fresh (Recorded Step) history (permitted payload) := by
  obtain ⟨payload, published⟩ := drift_published "default" "orders"
  have permit := Step.setPolicies (reported "default" "orders" "aggregate"
    (reportConfigMap payload (summaryStatus "default" "orders" twoOrders oneOrder))) [reindexPolicy]
  exact ⟨payload, _, ((((Run.start (Cluster.fresh_empty "default")).record (created_step _ _ _)).record
    (checking_step _ _ _)).record (reported_step _ _ _ published)).record permit⟩

theorem permitted_configMaps (payload : Fields) : (permitted payload).configMaps =
    (reported "default" "orders" "aggregate"
      (reportConfigMap payload (summaryStatus "default" "orders" twoOrders oneOrder))).configMaps := rfl

theorem permitted_repairs (payload : Fields) : ∃ job,
    .createJob job ∈ (reconcileJobBackedInvariant (permitted payload)
      (checkedInvariant "default" "orders" "aggregate")).writes ∧
    job.args.kind = .repairJob (reportConfigMapName "orders" "g1") "direct-reindex" := by
  obtain ⟨healthy, reads⟩ := summary_reads "default" "orders" twoOrders oneOrder
  have there := reported_report (summary_decoded "default" "orders" twoOrders oneOrder payload) reads
  have report : ReportFor (permitted payload) 1 "g1" (reportConfigMapName "orders" "g1")
      (reportConfigMap payload (summaryStatus "default" "orders" twoOrders oneOrder))
      (summaryReport "default" "orders" twoOrders oneOrder) :=
    ⟨there.stored, there.decoded, there.observedGeneration, there.checkID⟩
  have unrepaired : (permitted payload).configMaps (repairConfigMapName "orders" "g1") = none := by
    rw [permitted_configMaps]
    exact reported_unrepaired (by decide +kernel) _
  have absent : (permitted payload).jobs (repairJobName "orders" "g1") = none := by
    have other : repairJobName "orders" "g1" ≠ checkerJobName "orders" "g1" := by decide +kernel
    change (checking "default" "orders" "aggregate").jobs _ = none
    rw [checking_jobs, Function.update_of_ne other]
  obtain ⟨job, built⟩ : ∃ job, buildRepairJobWithEnv (checkedInvariant "default" "orders" "aggregate")
      (reportConfigMapName "orders" "g1") firstRun
      (checkerEnv (checkedInvariant "default" "orders" "aggregate") ++
        repairPolicyEnv reindexPolicy "direct-reindex") "direct-reindex" = .ok job := ⟨_, rfl⟩
  have current : currentCheckRun (checkedInvariant "default" "orders" "aggregate")
      (permitted payload).now = .ok firstRun := rfl
  have drift : stringField (enrichScheduledStatus (summaryReport "default" "orders" twoOrders oneOrder)
      (permitted payload).now firstRun) "phase" = some "DriftDetected" := rfl
  have jobs := reconcile_repairs current unrepaired report drift rfl absent rfl built
  exact ⟨job, mem_createdJobs.mp (jobs ▸ List.mem_singleton.mpr rfl),
    (buildRepairJobWithEnv_ok built).2.2⟩

theorem repair_job_authorised_directly : ∃ history c t writes job source invariant,
    Run Fresh (Recorded Step) history c ∧ Step c (.reconcile "orders" writes) t ∧
    .createJob job ∈ writes ∧ job.args.kind = .repairJob source "direct-reindex" ∧
    c.invariant "orders" = some invariant ∧ Authorised c invariant source "direct-reindex" := by
  obtain ⟨payload, history, run⟩ := permitted_run
  obtain ⟨job, created, repair⟩ := permitted_repairs payload
  have invariant : (permitted payload).invariant "orders" =
      some (checkedInvariant "default" "orders" "aggregate") :=
    reported_invariant "default" "orders" "aggregate" (reportConfigMap payload
      (summaryStatus "default" "orders" twoOrders oneOrder))
  have step := Step.reconcile (permitted payload) "orders" _ _ invariant rfl List.prefix_rfl
  obtain ⟨invariant', same, authorised⟩ := repair_job_authorised run step created repair
  exact ⟨_, _, _, _, _, _, _, run, step, created, repair, same, authorised⟩

end KubeDataGuard
