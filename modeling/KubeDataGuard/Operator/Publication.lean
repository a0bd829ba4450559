import KubeDataGuard.Operator.Cluster

/-!
# Publications

Where the report ConfigMaps of a reachable state come from, and what a pass
reads of one: the generation and the check ID of the Job whose worker published
it, and a health that a complete check is behind.
-/

namespace KubeDataGuard

open Runs

/-! ## Jobs -/

section Jobs

variable {history : Past} {c t : Cluster}

theorem generation_int64 (run : Run Fresh (Recorded Step) history c) {name : String} {r : Resource}
    (h : c.invariants name = some r) : inInt64 r.generation = true := by
  have all : ∀ name r, c.invariants name = some r → inInt64 r.generation = true := by
    refine run.recorded_invariant (I := fun _ c => ∀ name r, c.invariants name = some r →
      inInt64 r.generation = true) ?_ ?_
    · intro c fresh name r h
      rw [fresh.invariants name] at h
      cases h
    · intro history c e t _ ih step name r' h'
      cases step_invariant step h' with
      | kept r before same => exact same.generation ▸ ih name r before
      | patched r writes origin status before same => exact same.generation ▸ ih name r before
      | respecified r before uid generation counted => exact counted
      | created annotations spec before event uid generation =>
        rw [generation]
        decide
  exact all name r h

/-- What every Job was created with. -/
def Identified (job : Job) : Prop :=
  inInt64 job.args.observedGeneration = true ∧ job.args.check.checkId ≠ ""

theorem created_identified (run : Run Fresh (Recorded Step) history c) {name : String}
    {writes : List Write} (step : Step c (.reconcile name writes) t) {job : Job}
    (created : .createJob job ∈ writes) : Identified job := by
  obtain ⟨invariant, found, write⟩ := reconcile_write step created
  obtain ⟨checkRun, created⟩ := write.created
  constructor
  · rw [created.built.generation]
    exact generation_int64 run (invariant_some found).1
  · rw [created.built.checkId]
    exact currentCheckRun_ne_empty created.hrun

theorem job_identified (run : Run Fresh (Recorded Step) history c) {k : String} {job : Job}
    (h : c.jobs k = some job) : Identified job := by
  have all : ∀ k job, c.jobs k = some job → Identified job := by
    refine run.recorded_invariant (I := fun _ c => ∀ k job, c.jobs k = some job → Identified job) ?_ ?_
    · intro c fresh k job h
      rw [fresh.jobs k] at h
      cases h
    · intro history c e t run ih step k job' h'
      obtain ⟨job, before, args, -⟩ | ⟨name, writes, rfl, created, -⟩ := step_job step h'
      · unfold Identified
        rw [args]
        exact ih k job before
      · exact created_identified run step created
  exact all k job h

end Jobs

/-! ## ConfigMaps -/

/-- The ConfigMap under a name is what the worker of a Job published in this history. -/
inductive PublishedBy (history : Past) (name : String) (configMap : ConfigMap) (job : Job)
    (calls : WorkerCalls) (scan : ScanWorld) : Prop
  | intro (c : Cluster) (jobName : String) (event : (c, .work jobName calls scan) ∈ history)
      (found : c.jobs jobName = some job) (target : job.args.configMap = name)
      (published : (runJob calls job.args c.configMaps scan).2.published = some configMap)

section Published

variable {history : Past} {c : Cluster} {name : String} {configMap : ConfigMap} {job : Job}
  {calls : WorkerCalls} {scan : ScanWorld}

theorem PublishedBy.later (h : PublishedBy history name configMap job calls scan)
    (moment : Cluster × Event) : PublishedBy (moment :: history) name configMap job calls scan := by
  obtain ⟨c, jobName, event, found, target, published⟩ := h
  exact ⟨c, jobName, List.mem_cons_of_mem moment event, found, target, published⟩

/-- Every ConfigMap was published by a worker. -/
theorem configMap_publishedBy (run : Run Fresh (Recorded Step) history c)
    (stored : c.configMaps name = some configMap) :
    ∃ job calls scan, PublishedBy history name configMap job calls scan := by
  have all : ∀ name configMap, c.configMaps name = some configMap →
      ∃ job calls scan, PublishedBy history name configMap job calls scan := by
    refine run.recorded_invariant (I := fun history c =>
      ∀ name configMap, c.configMaps name = some configMap →
        ∃ job calls scan, PublishedBy history name configMap job calls scan) ?_ ?_
    · intro c fresh name configMap h
      rw [fresh.configMaps name] at h
      cases h
    · intro history c e t run ih step name configMap h'
      obtain kept | ⟨jobName, job, calls, scan, published, rfl, found, target, out, stored⟩ :=
        step_configMap step name
      · obtain ⟨job, calls, scan, earlier⟩ := ih name configMap (kept ▸ h')
        exact ⟨job, calls, scan, earlier.later (c, e)⟩
      · rw [stored] at h'
        cases h'
        exact ⟨job, calls, scan, c, jobName, List.mem_cons_self, found, target, out⟩
  exact all name configMap stored

end Published

/-! ## Reports -/

/-- What a pass reads of a report a Job published. -/
structure Reads (args : JobArgs) (report : Fields) (healthy : Bool) : Prop where
  generation : inInt64 args.observedGeneration = true →
    int64Field report "observedGeneration" = some args.observedGeneration
  checkId : args.check.checkId ≠ "" → stringField report "checkID" = some args.check.checkId
  flag : boolField report "healthy" = some healthy
  agrees : HealthAgrees report

/-- Decoding leaves these fields of a published status as they are. -/
theorem Reported.reads {args : JobArgs} {status : Fields} {healthy : Bool}
    (h : Reported args status healthy) : Reads args (normalizeMembers status) healthy := by
  have flag : boolField (normalizeMembers status) "healthy" = some healthy := by
    unfold boolField
    rw [get?_normalizeMembers h.unique, h.flag]
    rfl
  refine ⟨fun counted => ?_, fun id => ?_, flag, ?_⟩
  · unfold int64Field
    rw [get?_normalizeMembers h.unique, h.generation]
    simp only [keptMember, normalizeJSONValue, counted, if_true]
  · unfold stringField
    rw [get?_normalizeMembers h.unique, h.checkId id]
    rfl
  · obtain ⟨phase, hphase, agrees⟩ := h.phase
    have read : stringField (normalizeMembers status) "phase" = some phase := by
      unfold stringField
      rw [get?_normalizeMembers h.unique, hphase]
      rfl
    unfold HealthAgrees
    rw [flag, read, Option.some.injEq, Option.some.injEq]
    exact agrees.symm

theorem published_reads {calls : WorkerCalls} {args : JobArgs}
    {configMaps : String → Option ConfigMap} {scan : ScanWorld} {configMap : ConfigMap}
    (published : (runJob calls args configMaps scan).2.published = some configMap) :
    ∃ report healthy, decodeStatusPayload configMap.statusJson = .ok report ∧
      Reads args report healthy ∧
      (healthy = true → ∃ drift after, Backed calls args scan drift after) := by
  obtain ⟨payload, status, rfl, outcome⟩ := runJob_published published
  obtain ⟨healthy, reported, backed⟩ := outcome.reported
  exact ⟨normalizeMembers status, healthy, rfl, reported.reads, backed⟩

/-- A published report carries the generation and the check ID of its Job. -/
theorem PublishedBy.report {history : Past} {name : String} {configMap : ConfigMap} {job : Job}
    {calls : WorkerCalls} {scan : ScanWorld} {report : Fields}
    {c : Cluster} (run : Run Fresh (Recorded Step) history c)
    (h : PublishedBy history name configMap job calls scan)
    (decoded : decodeStatusPayload configMap.statusJson = .ok report) :
    int64Field report "observedGeneration" = some job.args.observedGeneration ∧
      stringField report "checkID" = some job.args.check.checkId ∧ HealthAgrees report ∧
      (boolField report "healthy" = some true →
        ∃ drift after, Backed calls job.args scan drift after) := by
  obtain ⟨c₁, jobName, event, found, target, published⟩ := h
  obtain ⟨earlier, reached⟩ := run.recorded_state event
  obtain ⟨report', healthy, decoded', reads, backed⟩ := published_reads published
  rw [decoded] at decoded'
  obtain rfl := Except.ok.inj decoded'
  obtain ⟨counted, id⟩ := job_identified reached found
  refine ⟨reads.generation counted, reads.checkId id, reads.agrees, fun h => backed ?_⟩
  rw [reads.flag] at h
  exact Option.some.inj h

end KubeDataGuard
