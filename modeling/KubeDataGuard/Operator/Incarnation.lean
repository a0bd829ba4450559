import KubeDataGuard.Operator.FirstCheck

/-!
# Reports and the objects they are for

A report is found again by a name, a generation and a check ID, and none of
them knows the object. They lead to a report for another object once an
Invariant is created where something of an earlier one is left; where nothing
is, every report applied is one computed for the object itself.
-/

namespace KubeDataGuard

open Runs

/-- The names under which an Invariant of this name may look for reports. -/
def MapName (name configMap : String) : Prop :=
  ∃ (duty : Duty) (generation interval now : Int),
    configMap = duty.configMapName name (runId generation interval now)

/-- A new Invariant of this name finds no report and no Job of an earlier one,
and no other Invariant shares a report name with it. -/
structure Vacant (c : Cluster) (name : String) : Prop where
  configMaps : ∀ k configMap, c.configMaps k = some configMap → ¬MapName name k
  jobs : ∀ k job, c.jobs k = some job → ¬MapName name job.args.configMap
  invariants : ∀ other r, c.invariants other = some r → ∀ k, MapName name k → ¬MapName other k

/-- Invariants are only created where nothing is in the way. -/
def CreatedVacant (c : Cluster) : Event → Prop
  | .create name _ _ => Vacant c name
  | _ => True

def ownerOf (name : String) (uid : Uid) : List OwnerReference := [⟨"Invariant", name, uid, true⟩]

/-- The Jobs and reports an Invariant can come across are its own. -/
structure Owned (history : Past) (c : Cluster) : Prop where
  jobs : ∀ name r, c.invariants name = some r → ∀ k job, c.jobs k = some job →
    MapName name job.args.configMap → job.ownerReferences = ownerOf name r.uid
  configMaps : ∀ name r, c.invariants name = some r → ∀ k configMap,
    c.configMaps k = some configMap → MapName name k →
    ∃ job calls scan, PublishedBy history k configMap job calls scan ∧
      job.ownerReferences = ownerOf name r.uid
  apart : ∀ name r other r', c.invariants name = some r → c.invariants other = some r' →
    name ≠ other → ∀ k, MapName name k → ¬MapName other k

section Step

variable {history : Past} {c t : Cluster} {e : Event}

/-- A Job is created for the object the pass is over, to publish under one of its names. -/
theorem created_owned {name : String} {writes : List Write} {job : Job}
    (step : Step c (.reconcile name writes) t) (created : .createJob job ∈ writes) :
    ∃ r, c.invariants name = some r ∧ job.ownerReferences = ownerOf name r.uid ∧
      MapName name job.args.configMap := by
  obtain ⟨invariant, found, write⟩ := reconcile_write step created
  obtain ⟨run, created⟩ := write.created
  obtain ⟨found, rfl⟩ := invariant_some found
  obtain ⟨interval, -, id⟩ := currentCheckRun_id created.hrun
  refine ⟨invariant.toResource, found, created.built.owner, job.duty, invariant.generation,
    interval.getD 0, c.now, ?_⟩
  rw [created.built.configMap, id]

theorem step_owned_jobs (step : Step c e t) (guard : CreatedVacant c e) (owned : Owned history c)
    {name : String} {r' : Resource} (h' : t.invariants name = some r') {k : String} {job' : Job}
    (hjob : t.jobs k = some job') (mapped : MapName name job'.args.configMap) :
    job'.ownerReferences = ownerOf name r'.uid := by
  obtain ⟨r, before, uid⟩ | ⟨annotations, spec, rfl, -⟩ := step_identity step h'
  · rw [uid]
    obtain ⟨job, hbefore, args, owners⟩ | ⟨creator, writes, rfl, created, -⟩ := step_job step hjob
    · rw [owners]
      exact owned.jobs name r before k job hbefore (args ▸ mapped)
    · obtain ⟨r₁, found, owner, creatorMapped⟩ := created_owned step created
      by_cases same : name = creator
      · subst same
        rw [owner, Option.some.inj (found.symm.trans before)]
      · exact absurd creatorMapped (owned.apart name r creator r₁ before found same _ mapped)
  · obtain ⟨job, hbefore, args, -⟩ | ⟨creator, writes, event, -⟩ := step_job step hjob
    · exact absurd (args ▸ mapped) (guard.jobs k job hbefore)
    · cases event

theorem step_owned_configMaps (step : Step c e t) (guard : CreatedVacant c e)
    (owned : Owned history c) {name : String} {r' : Resource}
    (h' : t.invariants name = some r') {k : String} {configMap : ConfigMap}
    (stored : t.configMaps k = some configMap) (mapped : MapName name k) :
    ∃ job calls scan, PublishedBy ((c, e) :: history) k configMap job calls scan ∧
      job.ownerReferences = ownerOf name r'.uid := by
  obtain kept | ⟨jobName, job, calls, scan, published, rfl, found, target, out, now⟩ :=
    step_configMap step k
  · rw [kept] at stored
    obtain ⟨r, before, uid⟩ | ⟨annotations, spec, rfl, -⟩ := step_identity step h'
    · rw [uid]
      obtain ⟨job, calls, scan, published, owner⟩ :=
        owned.configMaps name r before k configMap stored mapped
      exact ⟨job, calls, scan, published.later _, owner⟩
    · exact absurd mapped (guard.configMaps k configMap stored)
  · obtain ⟨r, before, uid⟩ | ⟨annotations, spec, event, -⟩ := step_identity step h'
    · rw [uid]
      rw [now] at stored
      obtain rfl := Option.some.inj stored
      exact ⟨job, calls, scan, ⟨c, jobName, List.mem_cons_self, found, target, out⟩,
        owned.jobs name r before jobName job found (target ▸ mapped)⟩
    · cases event

theorem step_owned_apart (step : Step c e t) (guard : CreatedVacant c e) (owned : Owned history c)
    {name other : String} {r r' : Resource} (h : t.invariants name = some r)
    (h' : t.invariants other = some r') (ne : name ≠ other) {k : String} (mapped : MapName name k) :
    ¬MapName other k := by
  obtain ⟨r₁, before, -⟩ | ⟨annotations, spec, rfl, -⟩ := step_identity step h
  · obtain ⟨r₂, before', -⟩ | ⟨annotations, spec, rfl, -⟩ := step_identity step h'
    · exact owned.apart name r₁ other r₂ before before' ne k mapped
    · exact fun mapped' => guard.invariants name r₁ before k mapped' mapped
  · obtain ⟨r₂, before', -⟩ | ⟨annotations, spec, event, -⟩ := step_identity step h'
    · exact guard.invariants other r₂ before' k mapped
    · cases event
      exact absurd rfl ne

end Step

section Runs

variable {history : Past} {c t : Cluster}

theorem reachable_owned (run : Run Fresh (Recorded (Guarded CreatedVacant Step)) history c) :
    Owned history c := by
  refine run.recorded_invariant ?_ ?_
  · intro c fresh
    constructor <;> intro name r <;> simp [fresh.invariants]
  · rintro history c e t run owned ⟨guard, step⟩
    exact ⟨fun _ _ h _ _ hjob mapped => step_owned_jobs step guard owned h hjob mapped,
      fun _ _ h _ _ stored mapped =>
        step_owned_configMaps step guard owned h stored mapped,
      fun _ _ _ _ h h' ne _ mapped => step_owned_apart step guard owned h h' ne mapped⟩

/-- Where Invariants are only created with nothing in the way, a report is only
ever applied to the object and the generation it was computed for. -/
theorem applied_report_own (run : Run Fresh (Recorded (Guarded CreatedVacant Step)) history c)
    {name : String} {writes : List Write} (step : Step c (.reconcile name writes) t)
    {source : String} {status : Fields} (copied : .patchStatus (.copied source) status ∈ writes) :
    ∃ invariant configMap job calls scan, c.invariant name = some invariant ∧
      c.configMaps source = some configMap ∧ PublishedBy history source configMap job calls scan ∧
      job.ownerReferences = invariantOwnerReferences invariant ∧
      job.args.observedGeneration = invariant.generation := by
  obtain ⟨invariant, found, write⟩ := reconcile_write step copied
  cases write with
  | copied checkRun source status current sourced read =>
    obtain ⟨configMap, report, reportFor, -⟩ :=
      statusFromReportConfigMap_some (currentCheckRun_ne_empty current) read
    obtain ⟨before, rfl⟩ := invariant_some found
    have mapped : MapName invariant.name source := by
      obtain ⟨interval, -, id⟩ := currentCheckRun_id current
      rw [id] at sourced
      obtain rfl | rfl := sourced
      · exact ⟨.check, _, _, _, rfl⟩
      · exact ⟨.repair, _, _, _, rfl⟩
    obtain ⟨job, calls, scan, published, owner⟩ :=
      (reachable_owned run).configMaps _ _ before source configMap reportFor.stored mapped
    obtain ⟨generation, -⟩ := published.report run.recorded_unguarded reportFor.decoded
    rw [reportFor.observedGeneration] at generation
    exact ⟨invariant, configMap, job, calls, scan, found, reportFor.stored, published, owner,
      (Option.some.inj generation).symm⟩

end Runs

/-- The report of a first check is applied to the object it is for. -/
theorem applied_report_own_first : ∃ history c t writes status,
    Run Fresh (Recorded (Guarded CreatedVacant Step)) history c ∧
    Step c (.reconcile "orders" writes) t ∧
    .patchStatus (.copied (reportConfigMapName "orders" "g1")) status ∈ writes ∧
    ∃ invariant configMap job calls scan, c.invariant "orders" = some invariant ∧
      c.configMaps (reportConfigMapName "orders" "g1") = some configMap ∧
      PublishedBy history (reportConfigMapName "orders" "g1") configMap job calls scan ∧
      job.ownerReferences = invariantOwnerReferences invariant ∧
      job.args.observedGeneration = invariant.generation := by
  obtain ⟨payload, published⟩ := agreement_published "default" "orders"
  obtain ⟨healthy, reads⟩ := summary_reads "default" "orders" twoOrders twoOrders
  have decoded := summary_decoded "default" "orders" twoOrders twoOrders payload
  have copied := copied_step (by decide +kernel) decoded reads rfl
  have vacant : Vacant (.empty "default") "orders" := by
    constructor <;> intro _ _ h <;> cases h
  have first : Guarded CreatedVacant Step (.empty "default")
      (.create "orders" jobMode (typeSpec "aggregate")) (created "default" "orders" "aggregate") :=
    ⟨vacant, created_step _ _ _⟩
  have second : Guarded CreatedVacant Step (created "default" "orders" "aggregate")
      (.reconcile "orders" (firstWrites "default" "orders" "aggregate" 0))
      (checking "default" "orders" "aggregate") := ⟨trivial, checking_step _ _ _⟩
  have third : Guarded CreatedVacant Step (checking "default" "orders" "aggregate")
      (.work (checkerJobName "orders" "g1") (summaryCalls twoOrders twoOrders) ⟨none, [], []⟩)
      (reported "default" "orders" "aggregate"
        (reportConfigMap payload (summaryStatus "default" "orders" twoOrders twoOrders))) :=
    ⟨trivial, reported_step _ _ _ published⟩
  have run := (((Run.start (Cluster.fresh_empty "default")).record first).record second).record third
  exact ⟨_, _, _, _, _, run, copied, List.mem_singleton.mpr rfl,
    applied_report_own run copied (List.mem_singleton.mpr rfl)⟩

/-- An Invariant checked once, deleted, and created again after its Job was collected. -/
def deleted (configMap : ConfigMap) : Cluster :=
  let c := reported "default" "orders" "aggregate" configMap
  { c with invariants := Function.update c.invariants "orders" none }

def recreated (configMap : ConfigMap) : Cluster :=
  ((deleted configMap).removeJob (checkerJobName "orders" "g1")).create "orders" jobMode
    (typeSpec "aggregate")

theorem recreated_invariant (configMap : ConfigMap) : (recreated configMap).invariant "orders" =
    some (newInvariant "default" "orders" "aggregate" 1) := rfl

theorem deleted_step (configMap : ConfigMap) :
    Step (reported "default" "orders" "aggregate" configMap) (.delete "orders") (deleted configMap) :=
  .delete _ _

theorem collected_step (configMap : ConfigMap) :
    Step (deleted configMap) (.collect (checkerJobName "orders" "g1"))
      ((deleted configMap).removeJob (checkerJobName "orders" "g1")) := by
  have there : (deleted configMap).jobs (checkerJobName "orders" "g1") =
      some (firstJob "default" "orders" "aggregate" 0) := checking_job "default" "orders" "aggregate"
  refine .collect _ _ _ there ?_
  intro owner howner r live
  rw [List.mem_singleton.mp howner] at live
  cases live

theorem recreated_step (configMap : ConfigMap) :
    Step ((deleted configMap).removeJob (checkerJobName "orders" "g1"))
      (.create "orders" jobMode (typeSpec "aggregate")) (recreated configMap) :=
  .create _ _ _ _ rfl

/-- A report is applied to an object created after the one it was computed for. -/
theorem stale_report_applied : ∃ history c t status invariant,
    Run Fresh (Recorded Step) history c ∧ c.invariant "orders" = some invariant ∧
    Step c (.reconcile "orders"
      [.patchStatus (.copied (reportConfigMapName "orders" "g1")) status]) t ∧
    ∀ configMap job calls scan,
      PublishedBy history (reportConfigMapName "orders" "g1") configMap job calls scan →
      job.ownerReferences ≠ invariantOwnerReferences invariant := by
  obtain ⟨payload, published⟩ := agreement_published "default" "orders"
  obtain ⟨healthy, reads⟩ := summary_reads "default" "orders" twoOrders twoOrders
  have there := reported_report (summary_decoded "default" "orders" twoOrders twoOrders payload) reads
  let configMap := reportConfigMap payload (summaryStatus "default" "orders" twoOrders twoOrders)
  have maps : (recreated configMap).configMaps =
      (reported "default" "orders" "aggregate" configMap).configMaps := rfl
  have run := ((((((Run.start (Cluster.fresh_empty "default")).record (created_step _ _ _)).record
    (checking_step _ _ _)).record (reported_step _ _ _ published)).record (deleted_step _)).record
    (collected_step _)).record (recreated_step _)
  have report : ReportFor (recreated configMap) 1 "g1" (reportConfigMapName "orders" "g1") configMap
      (summaryReport "default" "orders" twoOrders twoOrders) :=
    ⟨maps ▸ there.stored, there.decoded, there.observedGeneration, there.checkID⟩
  have current : currentCheckRun (newInvariant "default" "orders" "aggregate" 1)
      (recreated configMap).now = .ok firstRun := rfl
  have unrepaired : (recreated configMap).configMaps (repairConfigMapName "orders" "g1") = none := by
    rw [maps]
    exact reported_unrepaired (by decide +kernel) _
  have healthy : stringField (enrichScheduledStatus
      (summaryReport "default" "orders" twoOrders twoOrders) (recreated configMap).now firstRun)
      "phase" = some "Healthy" := rfl
  have pass := reconcile_copies current unrepaired report (by rw [healthy]; decide) rfl
  have step := Step.reconcile (recreated configMap) "orders" _ _ (recreated_invariant configMap) rfl
    List.prefix_rfl
  rw [pass] at step
  refine ⟨_, _, _, _, _, run, recreated_invariant configMap, step, ?_⟩
  rintro configMap' job calls scan ⟨c, jobName, event, found, -, -⟩
  simp only [List.mem_cons, Prod.mk.injEq, reduceCtorEq, and_false, false_or, List.not_mem_nil,
    or_false, Event.work.injEq] at event
  obtain ⟨rfl, rfl, -⟩ := event
  rw [checking_job] at found
  rw [← Option.some.inj found]
  decide

end KubeDataGuard
