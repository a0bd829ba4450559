import KubeDataGuard.Operator.FirstCheck

/-!
# At most one Job for a check

A check is not given a second Job while its first is there or its report is.
That fails once a Job that published nothing expires within its run; it holds
as long as Jobs only expire when their report is there or their run is over.
-/

namespace KubeDataGuard

open Runs

/-! ## Objects -/

/-- Live Invariants have UIDs that were given out, each its own. -/
structure Distinct (c : Cluster) : Prop where
  given : ∀ name r, c.invariants name = some r → r.uid < c.nextUid
  own : ∀ name r other r', c.invariants name = some r → c.invariants other = some r' →
    r.uid = r'.uid → name = other

section Objects

variable {history : Past} {c t : Cluster} {e : Event}

theorem step_distinct (step : Step c e t) (distinct : Distinct c) : Distinct t := by
  constructor
  · intro name r h
    obtain ⟨r₁, before, uid⟩ | ⟨annotations, spec, -, uid, more⟩ := step_identity step h
    · rw [uid]
      exact lt_of_lt_of_le (distinct.given name r₁ before) (step_nextUid step)
    · exact uid ▸ more
  · intro name r other r' h h' same
    obtain ⟨r₁, before, uid⟩ | ⟨annotations, spec, event, uid, -⟩ := step_identity step h
    · obtain ⟨r₂, before', uid'⟩ | ⟨annotations, spec, -, uid', -⟩ := step_identity step h'
      · exact distinct.own name r₁ other r₂ before before' (by rw [← uid, ← uid', same])
      · have old := distinct.given name r₁ before
        rw [← uid, same, uid'] at old
        exact absurd old (lt_irrefl _)
    · obtain ⟨r₂, before', uid'⟩ | ⟨annotations', spec', event', -⟩ := step_identity step h'
      · have old := distinct.given other r₂ before'
        rw [← uid', ← same, uid] at old
        exact absurd old (lt_irrefl _)
      · rw [event] at event'
        cases event'
        rfl

theorem reachable_distinct (run : Run Fresh (Recorded Step) history c) : Distinct c := by
  refine run.recorded_invariant (I := fun _ c => Distinct c) ?_ ?_
  · intro c fresh
    constructor <;> intro name r <;> simp [fresh.invariants]
  · exact fun _ _ _ _ _ distinct step => step_distinct step distinct

end Objects

/-! ## When a check needs no Job -/

/-- A report of a generation and a check ID is there to be read. -/
def Readable (c : Cluster) (name : String) (generation : Int) (checkId : String) : Prop :=
  ∃ configMap report, ReportFor c generation checkId name configMap report

/-- The report of a Job is there, or its run is not the current one of its owner. -/
def Discharged (c : Cluster) (job : Job) : Prop :=
  Readable c job.args.configMap job.args.observedGeneration job.args.check.checkId ∨
    ∀ name invariant run, c.invariant name = some invariant → job.ownedBy invariant.uid = true →
      currentCheckRun invariant c.now = .ok run → run.id ≠ job.args.check.checkId

/-- Jobs expire once they are discharged, and a worker writes over no report of another check. -/
def Retained (c : Cluster) : Event → Prop
  | .expire name => ∀ job, c.jobs name = some job → Discharged c job
  | .work name _ _ => ∀ job, c.jobs name = some job → ∀ generation checkId,
      Readable c job.args.configMap generation checkId →
      generation = job.args.observedGeneration ∧ checkId = job.args.check.checkId
  | _ => True

/-- A run of a check: its generation, the interval of its spec, and a time in it. -/
structure Slot where
  generation : Int
  interval : Option Int
  since : Int

def Slot.idAt (slot : Slot) (now : Int) : String := runId slot.generation (slot.interval.getD 0) now

def Slot.id (slot : Slot) : String := slot.idAt slot.since

/-- A Job for a run of the Invariant object of this name and UID. -/
structure MadeFor (duty : Duty) (slot : Slot) (name : String) (uid : Uid) (job : Job) : Prop where
  owner : job.ownerReferences = [⟨"Invariant", name, uid, true⟩]
  generation : job.args.observedGeneration = slot.generation
  checkId : job.args.check.checkId = slot.id
  configMap : job.args.configMap = duty.configMapName name slot.id

/-- Why an Invariant at a generation has no use for another Job of a run. -/
inductive Spent (c : Cluster) (duty : Duty) (slot : Slot) (name : String) (uid : Uid) : Prop
  | ended (past : slot.idAt c.now ≠ slot.id)
  | present (job : Job) (found : c.jobs (duty.jobName name slot.id) = some job)
      (made : MadeFor duty slot name uid job)
  | reported (readable : Readable c (duty.configMapName name slot.id) slot.generation slot.id)

/-- The Invariant object creates no Job of the run any more. -/
structure Barred (duty : Duty) (slot : Slot) (uid : Uid) (c : Cluster) : Prop where
  given : uid < c.nextUid
  later : slot.since ≤ c.now
  closed : ∀ name r, c.invariants name = some r → r.uid = uid →
    slot.generation < r.generation ∨ slot.generation = r.generation ∧
      checkInterval r = .ok slot.interval ∧ Spent c duty slot name uid

section Steps

variable {history : Past} {c t : Cluster} {e : Event} {duty : Duty} {slot : Slot}
  {name : String} {uid : Uid}

/-- A Job stays unless it expires or its owner is gone. -/
theorem step_job_kept (step : Step c e t) {k : String} {job : Job} (h : c.jobs k = some job) :
    (∃ job', t.jobs k = some job' ∧ job'.args = job.args ∧
        job'.ownerReferences = job.ownerReferences) ∨
      (e = .expire k ∧ t = c.removeJob k) ∨
      ∀ owner ∈ job.ownerReferences, ∀ r, c.invariants owner.name = some r → r.uid ≠ owner.uid := by
  cases step_jobs step k with
  | kept same => exact Or.inl ⟨job, same.trans h, rfl, rfl⟩
  | finished job' condition _ found _ after =>
    obtain rfl := Option.some.inj (h.symm.trans found)
    exact Or.inl ⟨_, after, rfl, rfl⟩
  | expired event after => exact Or.inr (Or.inl ⟨event, after⟩)
  | collected job' found orphan =>
    obtain rfl := Option.some.inj (h.symm.trans found)
    exact Or.inr (Or.inr orphan)
  | created name writes job' event made named =>
    subst event
    obtain ⟨invariant, -, write⟩ := reconcile_write step made
    obtain ⟨run, created⟩ := write.created
    have absent := created.absent
    rw [named, h] at absent
    cases absent

theorem Readable.of_configMaps {c t : Cluster} (same : t.configMaps name = c.configMaps name)
    {generation : Int} {checkId : String} (h : Readable c name generation checkId) :
    Readable t name generation checkId := by
  obtain ⟨configMap, report, found⟩ := h
  exact ⟨configMap, report, same.trans found.stored, found.decoded, found.observedGeneration,
    found.checkID⟩

/-- A report stays until a worker writes over it, and what it writes is a report of the same check. -/
theorem step_readable (run : Run Fresh (Recorded Step) history c) (guard : Retained c e)
    (step : Step c e t) {generation : Int} {checkId : String}
    (h : Readable c name generation checkId) : Readable t name generation checkId := by
  obtain kept | ⟨jobName, job, calls, scan, configMap, rfl, found, target, published, stored⟩ :=
    step_configMap step name
  · exact h.of_configMaps kept
  · obtain ⟨rfl, rfl⟩ := guard job found generation checkId (target ▸ h)
    obtain ⟨report, healthy, decoded, reads, -⟩ := published_reads published
    obtain ⟨counted, id⟩ := job_identified run found
    exact ⟨configMap, report, stored, decoded, reads.generation counted, reads.checkId id⟩

theorem step_spent (run : Run Fresh (Recorded Step) history c) (guard : Retained c e)
    (step : Step c e t) (later : slot.since ≤ c.now) {r : Resource}
    (live : c.invariants name = some r) (object : r.uid = uid)
    (generation : slot.generation = r.generation) (interval : checkInterval r = .ok slot.interval)
    (spent : Spent c duty slot name uid) : Spent t duty slot name uid := by
  cases spent with
  | ended past => exact .ended (runId_past later (step_now step) past)
  | reported readable => exact .reported (step_readable run guard step readable)
  | present job found made =>
    obtain ⟨job', found', args, owners⟩ | ⟨rfl, rfl⟩ | orphan := step_job_kept step found
    · refine .present job' found' ?_
      constructor
      · rw [owners, made.owner]
      · rw [args, made.generation]
      · rw [args, made.checkId]
      · rw [args, made.configMap]
    · obtain readable | other := guard job found
      · rw [made.configMap, made.generation, made.checkId] at readable
        refine .reported (Readable.of_configMaps ?_ readable)
        rfl
      · let invariant : Unstructured := { r with ns := c.ns, name := name }
        have current : c.invariant name = some invariant := by
          rw [Cluster.invariant, live]
          rfl
        have read : checkInterval invariant.toResource = .ok slot.interval := interval
        obtain ⟨checkRun, hrun, id⟩ := currentCheckRun_ok read c.now
        have owned : job.ownedBy invariant.uid = true := by
          rw [Job.ownedBy, made.owner]
          simpa using object.symm
        have past := other name invariant checkRun current owned hrun
        rw [made.checkId, id] at past
        refine .ended ?_
        unfold Slot.idAt
        rw [generation]
        exact past
    · rw [made.owner] at orphan
      exact absurd object (orphan _ (List.mem_singleton.mpr rfl) r live)

theorem step_barred (run : Run Fresh (Recorded Step) history c) (guard : Retained c e)
    (step : Step c e t) (barred : Barred duty slot uid c) : Barred duty slot uid t := by
  refine ⟨lt_of_lt_of_le barred.given (step_nextUid step), barred.later.trans (step_now step), ?_⟩
  intro name r' h' object
  have unchanged : ∀ r, c.invariants name = some r → r.Same r' →
      slot.generation < r'.generation ∨ slot.generation = r'.generation ∧
        checkInterval r' = .ok slot.interval ∧ Spent t duty slot name uid := by
    intro r before same
    have interval : checkInterval r' = checkInterval r := same.spec _ _
    rw [same.generation, interval]
    obtain newer | ⟨generation, interval, spent⟩ := barred.closed name r before (same.uid ▸ object)
    · exact Or.inl newer
    · exact Or.inr ⟨generation, interval,
        step_spent run guard step barred.later before (same.uid ▸ object) generation interval spent⟩
  cases step_invariant step h' with
  | kept r before same => exact unchanged r before same
  | patched r writes origin status before same => exact unchanged r before same
  | respecified r before same generation =>
    refine Or.inl ?_
    rw [generation]
    obtain newer | ⟨generation, -, -⟩ := barred.closed name r before (same ▸ object)
    · omega
    · omega
  | created annotations spec before event fresh =>
    have given := barred.given
    rw [← object, fresh] at given
    exact absurd given (lt_irrefl _)

theorem reconcile_same {writes : List Write} (step : Step c (.reconcile name writes) t) {r : Resource}
    (before : c.invariants name = some r) : ∃ r', t.invariants name = some r' ∧ r.Same r' := by
  cases step
  obtain ⟨r', after, same, -⟩ := applyAll_invariant writes before
  exact ⟨r', after, same⟩

theorem reconcile_created {writes : List Write} (step : Step c (.reconcile name writes) t) {job : Job}
    (created : createdJobs writes = [job]) : t.jobs job.name = some job := by
  cases step
  exact applyAll_created created c name

/-- A Job created for an object was created for the object's run at that time. -/
theorem owned_created {writes : List Write} (step : Step c (.reconcile name writes) t) {job : Job}
    (created : job ∈ createdJobs writes) (owned : job.ownedBy uid = true) :
    ∃ invariant checkRun interval, c.invariants name = some invariant.toResource ∧
      invariant.name = name ∧ invariant.uid = uid ∧ CreatedFor c invariant checkRun job ∧
      checkInterval invariant.toResource = .ok interval ∧
      checkRun.id = runId invariant.generation (interval.getD 0) c.now := by
  obtain ⟨invariant, found, write⟩ := reconcile_write step (mem_createdJobs.mp created)
  obtain ⟨checkRun, made⟩ := write.created
  obtain ⟨interval, hinterval, id⟩ := currentCheckRun_id made.hrun
  obtain ⟨before, named⟩ := invariant_some found
  have object : invariant.uid = uid := by
    rw [Job.ownedBy, made.built.owner] at owned
    simpa [invariantOwnerReferences] using owned
  exact ⟨invariant, checkRun, interval, before, named, object, made, hinterval, id⟩

/-- What a pass creates for a run bars the run for its object. -/
theorem created_barred (run : Run Fresh (Recorded Step) history c) {writes : List Write}
    (step : Step c (.reconcile name writes) t) {job : Job} (created : createdJobs writes = [job])
    (owned : job.ownedBy uid = true) :
    ∃ slot : Slot, job.args.check.checkId = slot.id ∧ Barred job.duty slot uid t := by
  obtain ⟨invariant, checkRun, interval, before, rfl, object, made, hinterval, id⟩ :=
    owned_created step (created ▸ List.mem_singleton.mpr rfl) owned
  refine ⟨⟨invariant.generation, interval, c.now⟩, made.built.checkId.trans id, ?_, step_now step, ?_⟩
  · rw [← object]
    exact lt_of_lt_of_le ((reachable_distinct run).given _ _ before) (step_nextUid step)
  · intro other r' h' same
    obtain ⟨r₁, before₁, uid₁⟩ | ⟨annotations, spec, event, -⟩ := step_identity step h'
    · obtain rfl := (reachable_distinct run).own _ _ _ _ before₁ before (by rw [← uid₁, same, object])
      obtain ⟨r₂, after, kept⟩ := reconcile_same step before
      obtain rfl := Option.some.inj (h'.symm.trans after)
      refine Or.inr ⟨kept.generation.symm, (kept.spec _ _).trans hinterval, .present job ?_ ?_⟩
      · have stored := reconcile_created step created
        rw [made.named, id] at stored
        exact stored
      · refine ⟨made.built.owner.trans ?_, made.built.generation, made.built.checkId.trans id, ?_⟩
        · rw [← object]
          rfl
        · rw [made.built.configMap, id]
          rfl
    · cases event

/-- A barred run is given no Job. -/
theorem barred_created (barred : Barred duty slot uid c) {writes : List Write}
    (step : Step c (.reconcile name writes) t) {job : Job} (created : job ∈ createdJobs writes)
    (kind : job.duty = duty) (owned : job.ownedBy uid = true) : job.args.check.checkId ≠ slot.id := by
  intro same
  obtain ⟨invariant, checkRun, interval, before, rfl, object, made, hinterval, id⟩ :=
    owned_created step created owned
  rw [made.built.checkId] at same
  have generation : invariant.generation = slot.generation := runId_generation (id.symm.trans same)
  obtain newer | ⟨-, read, spent⟩ := barred.closed _ _ before object
  · omega
  rw [hinterval] at read
  have interval := Except.ok.inj read
  cases spent with
  | ended past =>
    apply past
    rw [← same, id, Slot.idAt, generation, interval]
  | present job' there =>
    have absent := made.absent
    rw [made.named, kind, same, there] at absent
    cases absent
  | reported readable =>
    obtain ⟨configMap, report, found⟩ := readable
    have unreported := made.unreported
    rw [← generation, ← same] at found
    rw [kind, statusFromReportConfigMap_of_report found] at unreported
    cases unreported

end Steps

/-! ## Runs -/

/-- How many Jobs of a duty a reconcile creates for an Invariant object and a check ID. -/
def jobsCreated (duty : Duty) (uid : Uid) (checkId : String) : Event → Nat
  | .reconcile _ writes => ((createdJobs writes).filter fun job => decide (job.duty = duty) &&
      job.ownedBy uid && decide (job.args.check.checkId = checkId)).length
  | _ => 0

section Runs

variable {history : Past} {c t : Cluster} {duty : Duty} {uid : Uid} {checkId : String}

theorem createdJobs_step {name : String} {writes : List Write}
    (step : Step c (.reconcile name writes) t) : (createdJobs writes).length ≤ 1 := by
  cases step with
  | reconcile name invariant writes found mode made =>
    have sub : (createdJobs writes).length ≤
        (createdJobs (reconcileJobBackedInvariant c invariant).writes).length :=
      (made.sublist.filterMap _).length_le
    exact sub.trans (createdJobs_reconcile c invariant)

theorem jobsCreated_pos {e : Event} (h : jobsCreated duty uid checkId e ≠ 0) :
    ∃ name writes job, e = .reconcile name writes ∧ job ∈ createdJobs writes ∧ job.duty = duty ∧
      job.ownedBy uid = true ∧ job.args.check.checkId = checkId := by
  cases e with
  | reconcile name writes =>
    obtain ⟨job, hjob⟩ := List.exists_mem_of_length_pos (Nat.pos_of_ne_zero h)
    obtain ⟨mem, for_⟩ := List.mem_filter.mp hjob
    simp only [Bool.and_eq_true, decide_eq_true_eq] at for_
    exact ⟨name, writes, job, rfl, mem, for_.1.1, for_.1.2, for_.2⟩
  | _ => exact absurd rfl h

theorem jobsCreated_le (step : Step c e t) : jobsCreated duty uid checkId e ≤ 1 := by
  cases e with
  | reconcile name writes => exact (List.length_filter_le _ _).trans (createdJobs_step step)
  | _ => exact Nat.zero_le 1

/-- Where Jobs only expire discharged, a check of an Invariant object gets at most
one checker Job and one repair Job, over every run. -/
theorem one_job_per_check (run : Run Fresh (Recorded (Guarded Retained Step)) history c) (duty : Duty)
    (uid : Uid) (checkId : String) :
    (history.map fun moment => jobsCreated duty uid checkId moment.2).sum ≤ 1 := by
  refine run.at_most_once
    (B := fun c => ∃ slot : Slot, checkId = slot.id ∧ Barred duty slot uid c) ?_ ?_ ?_ ?_
  · rintro history c ⟨_, e⟩ t run ⟨rfl, guard, step⟩
    exact jobsCreated_le step
  · rintro history c ⟨_, e⟩ t run ⟨rfl, guard, step⟩ one
    obtain ⟨name, writes, job, rfl, mem, rfl, owned, rfl⟩ := jobsCreated_pos (one ▸ one_ne_zero)
    obtain ⟨job', single⟩ := List.length_eq_one_iff.mp
      (le_antisymm (createdJobs_step step) (List.length_pos_of_mem mem))
    rw [single] at mem
    obtain rfl := List.mem_singleton.mp mem
    exact created_barred run.recorded_unguarded step single owned
  · rintro history c ⟨_, e⟩ t run ⟨slot, id, barred⟩ ⟨rfl, guard, step⟩
    exact ⟨slot, id, step_barred run.recorded_unguarded guard step barred⟩
  · rintro history c ⟨_, e⟩ t run ⟨slot, rfl, barred⟩ ⟨rfl, guard, step⟩
    by_contra some
    obtain ⟨name, writes, job, rfl, mem, kind, owned, id⟩ := jobsCreated_pos some
    exact barred_created barred step mem kind owned id

end Runs

/-- A first check has its one Job. -/
theorem one_job_first_check : ∃ history c,
    Run Fresh (Recorded (Guarded Retained Step)) history c ∧
    (history.map fun moment => jobsCreated .check 0 "g1" moment.2).sum = 1 ∧
    ∀ duty uid checkId, (history.map fun moment => jobsCreated duty uid checkId moment.2).sum ≤ 1 := by
  have first : Guarded Retained Step (.empty "default")
      (.create "orders" jobMode (typeSpec "aggregate")) (created "default" "orders" "aggregate") :=
    ⟨trivial, created_step _ _ _⟩
  have second : Guarded Retained Step (created "default" "orders" "aggregate")
      (.reconcile "orders" (firstWrites "default" "orders" "aggregate" 0))
      (checking "default" "orders" "aggregate") := ⟨trivial, checking_step _ _ _⟩
  have run := ((Run.start (Cluster.fresh_empty "default")).record first).record second
  exact ⟨_, _, run, rfl, one_job_per_check run⟩

/-- A first check whose Job failed without a report, and expired. -/
def failed : Cluster :=
  (checking "default" "orders" "aggregate").setJob (checkerJobName "orders" "g1")
    { firstJob "default" "orders" "aggregate" 0 with
      conditions := [⟨.failed, true, "BackoffLimitExceeded", ""⟩]
      finishedAt := some 0 }

def waited : Cluster := { failed with now := failed.now + (600000000000 : Nat) }

def expired : Cluster := waited.removeJob (checkerJobName "orders" "g1")

theorem failed_step : Step (checking "default" "orders" "aggregate")
    (.finish (checkerJobName "orders" "g1") ⟨.failed, true, "BackoffLimitExceeded", ""⟩) failed :=
  .finish _ _ _ _ (checking_job _ _ _) rfl

theorem expired_step : Step waited (.expire (checkerJobName "orders" "g1")) expired := by
  have there : waited.jobs (checkerJobName "orders" "g1") =
      some { firstJob "default" "orders" "aggregate" 0 with
        conditions := [⟨.failed, true, "BackoffLimitExceeded", ""⟩]
        finishedAt := some 0 } := Function.update_self _ _ _
  exact .expire _ _ _ 0 there rfl (by decide)

theorem expired_checks : ∃ job, createdJobs (reconcileJobBackedInvariant expired
    (checkedInvariant "default" "orders" "aggregate")).writes = [job] ∧ job.duty = .check ∧
    job.ownedBy 0 = true ∧ job.args.check.checkId = "g1" := by
  have absent : ∀ name, expired.configMaps name = none :=
    congrFun (checking_configMaps "default" "orders" "aggregate")
  have current : currentCheckRun (checkedInvariant "default" "orders" "aggregate") expired.now =
      .ok firstRun := rfl
  obtain ⟨job, built⟩ : ∃ job, buildCheckerJobWithEnv (checkedInvariant "default" "orders" "aggregate")
      firstRun (checkerEnv (checkedInvariant "default" "orders" "aggregate")) = .ok job := ⟨_, rfl⟩
  obtain ⟨made, -, kind⟩ := buildCheckerJobWithEnv_ok built
  refine ⟨job, reconcile_checks current (absent _) (absent _) (Function.update_self _ _ _) rfl built,
    ?_, ?_, made.checkId⟩
  · rw [Job.duty, kind]
  · rw [Job.ownedBy, made.owner]
    rfl

/-- The check of a failed Job gets a second one once the first has expired. -/
theorem expired_job_created_again : ∃ history c, Run Fresh (Recorded Step) history c ∧
    1 < (history.map fun moment => jobsCreated .check 0 "g1" moment.2).sum := by
  have live : expired.invariant "orders" = some (checkedInvariant "default" "orders" "aggregate") :=
    rfl
  have again := Step.reconcile expired "orders" _ _ live rfl List.prefix_rfl
  have run := ((((((Run.start (Cluster.fresh_empty "default")).record (created_step _ _ _)).record
    (checking_step _ _ _)).record failed_step).record (.tick _ 600000000000)).record
    expired_step).record again
  obtain ⟨job, jobs, duty, owned, id⟩ := expired_checks
  refine ⟨_, _, run, ?_⟩
  have second : jobsCreated .check 0 "g1" (.reconcile "orders" (reconcileJobBackedInvariant expired
      (checkedInvariant "default" "orders" "aggregate")).writes) = 1 := by
    rw [jobsCreated, jobs]
    simp [duty, owned, id]
  have first : jobsCreated .check 0 "g1"
      (.reconcile "orders" (firstWrites "default" "orders" "aggregate" 0)) = 1 := rfl
  simp only [List.map_cons, List.map_nil, List.sum_cons, List.sum_nil]
  rw [second, first]
  decide

end KubeDataGuard
