import KubeDataGuard.Operator.FirstCheck
import KubeDataGuard.Operator.StatusPatch
import KubeDataGuard.Worker.AtOnce
import KubeDataGuard.Worker.Mirrored

/-!
# The whole deployment

The operator's namespace and the pipeline from the generators to the index, step
by step in any order. The worker of an existence check reads the source at one
moment and the index at that or a later one, while its Job runs; its report, and
the status copied from it, tell of these two moments, however much has happened
since.
-/

namespace KubeDataGuard

open Runs

structure Deployment where
  cluster : Cluster
  flow : OrderFlow

namespace Deployment

inductive Action
  | operator (e : Event)
  | pipeline (m : FlowMove)

abbrev History := List (Deployment × Action)

/-- Every Invariant is checked in job mode, and the indexer skips no paid order. -/
inductive Step (partitionOf : String → Nat) (topic : String) : Deployment → Action → Deployment → Prop
  | operator (d : Deployment) (e : Event) (c : Cluster) (step : KubeDataGuard.Step d.cluster e c) :
      Step partitionOf topic d (.operator e) { d with cluster := c }
  | pipeline (d : Deployment) (m : FlowMove) (flow : OrderFlow) (rereads : d.flow.Rereads m)
      (step : OrderFlow.Step partitionOf topic d.flow m flow) :
      Step partitionOf topic d (.pipeline m) { d with flow := flow }

def Starting (d : Deployment) : Prop := Fresh d.cluster ∧ d.flow.Starting

def clusterMoment : Deployment × Action → Option (Cluster × Event)
  | (d, .operator e) => some (d.cluster, e)
  | _ => none

def flowMove : Deployment × Action → Option FlowMove
  | (_, .pipeline m) => some m
  | _ => none

abbrev flowMoves (history : History) : List FlowMove := history.filterMap flowMove

variable {partitionOf : String → Nat} {topic : String} {history : History} {s : Deployment}

theorem run_cluster (run : Run Starting (Recorded (Step partitionOf topic)) history s) :
    Run Fresh (Recorded KubeDataGuard.Step) (history.filterMap clusterMoment) s.cluster := by
  refine run.viewed (fun _ starting => starting.1) ?_
  rintro d ⟨_, a⟩ t ⟨rfl, step⟩
  cases step with
  | operator e c step => exact ⟨rfl, step⟩
  | pipeline => rfl

theorem run_flow (run : Run Starting (Recorded (Step partitionOf topic)) history s) :
    Run OrderFlow.Starting (Guarded OrderFlow.Rereads (OrderFlow.Step partitionOf topic))
      (flowMoves history) s.flow := by
  refine run.viewed (fun _ starting => starting.2) ?_
  rintro d ⟨_, a⟩ t ⟨rfl, step⟩
  cases step with
  | operator => rfl
  | pipeline m flow rereads step => exact ⟨rereads, step⟩

/-! ## Moments -/

/-- A step of a run, the state it was taken in and the steps before it. -/
structure Moment where
  deployment : Deployment
  action : Action
  before : History

namespace Moment

def steps (m : Moment) : History := (m.deployment, m.action) :: m.before

/-- The worker of the Job is at work. -/
def Running (m : Moment) (jobName : String) (args : JobArgs) : Prop :=
  ∃ job, m.deployment.cluster.jobs jobName = some job ∧ job.args = args ∧ job.finishedAt = none

theorem steps_injective : Function.Injective steps := by
  rintro ⟨d, a, before⟩ ⟨d', a', before'⟩ same
  obtain ⟨step, rfl⟩ := List.cons.inj same
  obtain ⟨rfl, rfl⟩ := Prod.mk.inj step
  rfl

theorem run {m : Moment} (run : Run Starting (Recorded (Step partitionOf topic)) history s)
    (within : m.steps <:+ history) :
    Run Starting (Recorded (Step partitionOf topic)) m.before m.deployment := by
  obtain ⟨t, before⟩ := run.earlier within
  cases before with
  | next before step =>
    obtain ⟨rfl, -⟩ := step
    exact before

/-- The orders of a moment are those of the source afterwards. -/
theorem kept {m : Moment} (run : Run Starting (Recorded (Step partitionOf topic)) history s)
    (within : m.steps <:+ history) : OrderFlow.Kept m.deployment.flow s.flow := by
  induction run with
  | start => cases List.suffix_nil.mp within
  | @next history s e t before step ih =>
    obtain ⟨d, a⟩ := e
    obtain ⟨rfl, step⟩ := step
    have moved : OrderFlow.Kept d.flow t.flow := by
      cases step with
      | operator => exact .refl d.flow
      | pipeline m flow rereads step => exact OrderFlow.step_kept step
    obtain last | earlier := List.suffix_cons_iff.mp within
    · obtain ⟨here, -⟩ := List.cons.inj last
      obtain ⟨rfl, -⟩ := Prod.mk.inj here
      exact moved
    · exact (ih earlier).trans moved

theorem kept_until {source index : Moment}
    (run : Run Starting (Recorded (Step partitionOf topic)) history s)
    (within : index.steps <:+ history) (order : source.steps <:+ index.steps) :
    OrderFlow.Kept source.deployment.flow index.deployment.flow := by
  obtain same | earlier := List.suffix_cons_iff.mp order
  · obtain rfl := steps_injective same
    exact .refl _
  · exact kept (Moment.run run within) earlier

end Moment

/-- The source, by its own clock, and then the index answered an existence check while its
Job ran. -/
structure Answered (history : History) (jobName : String) (args : JobArgs) (checks : CheckCalls)
    (source index : Moment) (clock : Instant) : Prop where
  within : index.steps <:+ history
  order : source.steps <:+ index.steps
  running : source.Running jobName args ∧ index.Running jobName args
  orders : ∀ orders, checks.fetchPaidOrders args.check.maxLagSeconds = .ok orders →
    orders = fetchPaidOrders source.deployment.flow.db.orders clock args.check.maxLagSeconds
  documents : ∀ ids found, checks.mgetOrders ids = .ok found →
    found = mgetOrders index.deployment.flow.index ids

/-- The stores answer every existence check with what they hold, or not at all. -/
def Served (history : History) : Prop :=
  ∀ d jobName calls scan before job,
    (d, .operator (.work jobName calls scan)) :: before <:+ history →
    d.cluster.jobs jobName = some job → job.args.check.invariant = "existence" →
    ∃ source index clock, Answered ((d, .operator (.work jobName calls scan)) :: before) jobName
      job.args calls.checks source index clock

/-- A verdict of an existence check: healthy if and only if each order that was paid and old
enough when the source was read had been brought to the index by the time that was read. -/
structure Exact (partitionOf : String → Nat) (history : History) (jobName : String) (args : JobArgs)
    (healthy : Prop) (source index : Moment) (clock : Instant) : Prop where
  within : index.steps <:+ history
  order : source.steps <:+ index.steps
  running : source.Running jobName args ∧ index.Running jobName args
  verdict : healthy ↔ ∀ o ∈ source.deployment.flow.db.orders,
    o.paidBy (clock - seconds args.check.maxLagSeconds) = true →
      index.deployment.flow.Reached partitionOf (flowMoves index.before) o.id

/-! ## Verdicts -/

def isVerdict (phase : Option String) : Prop :=
  phase = some "Healthy" ∨ phase = some "DriftDetected"

theorem checkFailedStatus_phase (args : JobArgs) (reason : String) (checkedAt : Instant) :
    (checkFailedStatus args reason checkedAt).get? "phase" = some (.str "CheckFailed") := by
  unfold checkFailedStatus withCheckId
  split
  · rfl
  · rw [Fields.get?_set_ne _ _ (by decide)]
    rfl

theorem phase_normalised {args : JobArgs} {status : Fields} {healthy : Bool}
    (reported : Reported args status healthy) {phase : String}
    (there : status.get? "phase" = some (.str phase)) :
    stringField (normalizeMembers status) "phase" = some phase := by
  unfold stringField
  rw [get?_normalizeMembers reported.unique, there]
  rfl

/-- A verdict is that of a check that returned. -/
theorem outcome_checked {calls : WorkerCalls} {args : JobArgs} {scan : ScanWorld} {status : Fields}
    (outcome : JobOutcome calls args scan status)
    (verdict : isVerdict (stringField (normalizeMembers status) "phase")) :
    ∃ report after, checkInvariant calls.checks args.check scan = (.ok report, after) ∧
      Reported args status report.healthy := by
  cases outcome with
  | failed reason checkedAt =>
    rw [phase_normalised (reported_checkFailedStatus args reason checkedAt)
      (checkFailedStatus_phase args reason checkedAt)] at verdict
    obtain same | same := verdict <;> exact absurd (Option.some.inj same) (by decide)
  | checked report after reportRef ran => exact ⟨report, after, ran, reported_jobStatus _ _ _⟩
  | repaired verification after repairAction reportRef ran =>
    exact ⟨verification, after, ran, reported_repairJobStatus _ _ _ _⟩

theorem existence_ran {checks : CheckCalls} {args : CheckArgs} (kind : args.invariant = "existence")
    {scan after : ScanWorld} {report : DriftReport}
    (ran : checkInvariant checks args scan = (.ok report, after)) :
    checkPaidOrdersIndexed checks args.maxLagSeconds = .ok report := by
  rw [checkInvariant, kind] at ran
  exact (Prod.mk.inj ran).1

/-! ## Statuses -/

/-- The status is a copy of a report that the worker of a Job published. -/
inductive CopyOf (history : Past) (status : Fields) : Prop
  | intro (now : Int) (checkRun : CheckRun) (name : String) (configMap : ConfigMap) (report : Fields)
      (job : Job) (calls : WorkerCalls) (scan : ScanWorld)
      (published : PublishedBy history name configMap job calls scan)
      (decoded : decodeStatusPayload configMap.statusJson = .ok report)
      (checkId : stringField report "checkID" = some checkRun.id)
      (enriched : status = enrichScheduledStatus report now checkRun)

theorem CopyOf.later {past : Past} {status : Fields} (h : CopyOf past status)
    (moment : Cluster × Event) : CopyOf (moment :: past) status := by
  obtain ⟨now, checkRun, name, configMap, report, job, calls, scan, published, decoded, checkId,
    enriched⟩ := h
  exact ⟨now, checkRun, name, configMap, report, job, calls, scan, published.later moment, decoded,
    checkId, enriched⟩

section Statuses

variable {past : Past} {c t : Cluster} {name : String} {status : Fields}

theorem lifecycle_undecided (invariant : Unstructured) (now : Int) (checkRun : CheckRun)
    (jobName : String) {l : Lifecycle} (undecided : l.phase ≠ .healthy ∧ l.phase ≠ .driftDetected) :
    ¬isVerdict (stringField (lifecycleStatus invariant now checkRun jobName l) "phase") := by
  rw [lifecycleStatus_phase, isVerdict, Option.some.injEq, Option.some.injEq, not_or]
  exact ⟨fun same => undecided.1 (Phase.text_injective.eq_iff (b := .healthy) |>.mp same),
    fun same => undecided.2 (Phase.text_injective.eq_iff (b := .driftDetected) |>.mp same)⟩

/-- A verdict that a pass patches is a report's. -/
theorem patched_copy (run : Run Fresh (Recorded KubeDataGuard.Step) past c) {writes : List Write}
    {origin : Origin} (step : KubeDataGuard.Step c (.reconcile name writes) t)
    (patched : .patchStatus origin status ∈ writes)
    (verdict : isVerdict (stringField status "phase")) : CopyOf past status := by
  cases step with
  | reconcile name invariant writes found mode made =>
    have origin : PatchedBy c invariant status := reconcile_patches (made.subset patched)
    cases origin with
    | lifecycle checkRun jobName l undecided =>
      exact absurd verdict (lifecycle_undecided _ _ _ _ undecided)
    | report checkRun source status id read =>
      obtain ⟨configMap, report, reported, enriched⟩ := statusFromReportConfigMap_some id read
      obtain ⟨job, calls, scan, published⟩ := configMap_publishedBy run reported.stored
      exact ⟨_, checkRun, source, configMap, report, job, calls, scan, published, reported.decoded,
        reported.checkID, enriched⟩

theorem status_copy (run : Run Fresh (Recorded KubeDataGuard.Step) past c) {r : Resource}
    (h : c.invariants name = some r) (current : r.status = some status)
    (verdict : isVerdict (stringField status "phase")) : CopyOf past status := by
  have all : ∀ name r status, c.invariants name = some r → r.status = some status →
      isVerdict (stringField status "phase") → CopyOf past status := by
    refine run.recorded_invariant (I := fun past c => ∀ name r status, c.invariants name = some r →
      r.status = some status → isVerdict (stringField status "phase") → CopyOf past status) ?_ ?_
    · intro c fresh name r status h
      rw [fresh.invariants name] at h
      cases h
    · intro past c e t run ih step name r' status h' current verdict
      cases step_invariant step h' with
      | kept r before same kept => exact (ih name r status before (kept ▸ current) verdict).later (c, e)
      | patched r writes origin patch before same event made patched =>
        subst event
        rw [current] at patched
        obtain rfl := Option.some.inj patched
        exact (patched_copy run step made verdict).later _
      | respecified r before uid generation counted kept =>
        exact (ih name r status before (kept ▸ current) verdict).later (c, e)
      | created annotations spec before event uid generation none =>
        rw [none] at current
        cases current
  exact all name r status h current verdict

theorem checkId_enriched {report : Fields} {checkRun : CheckRun}
    (same : stringField report "checkID" = some checkRun.id) (now : Int) :
    stringField (enrichScheduledStatus report now checkRun) "checkID" = some checkRun.id := by
  have checked : stringField (if checkRun.id = "" then report
      else report.set "checkID" (.str checkRun.id)) "checkID" = some checkRun.id := by
    split
    · exact same
    · unfold stringField
      rw [Fields.get?_set_self]
  simp only [enrichScheduledStatus]
  split
  · unfold stringField at checked ⊢
    rw [Fields.get?_set_ne _ _ (by decide), Fields.get?_set_ne _ _ (by decide)]
    exact checked
  · exact checked

end Statuses

/-! ## The moments of a verdict -/

/-- The status is a copy of the report that the worker of a Job published at a moment. -/
structure CopiedFrom (history : History) (status : Fields) (work : Moment) (jobName : String)
    (job : Job) (calls : WorkerCalls) (scan : ScanWorld) : Prop where
  within : work.steps <:+ history
  action : work.action = .operator (.work jobName calls scan)
  found : work.deployment.cluster.jobs jobName = some job
  copied : ∃ configMap report now, ∃ checkRun : CheckRun,
    (runJob calls job.args work.deployment.cluster.configMaps scan).2.published = some configMap ∧
    decodeStatusPayload configMap.statusJson = .ok report ∧
    stringField report "checkID" = some checkRun.id ∧
    status = enrichScheduledStatus report now checkRun

section Copied

variable {status : Fields} {work : Moment} {jobName : String} {job : Job} {calls : WorkerCalls}
  {scan : ScanWorld}

theorem CopyOf.copiedFrom (h : CopyOf (history.filterMap clusterMoment) status) :
    ∃ work jobName job calls scan, CopiedFrom history status work jobName job calls scan := by
  obtain ⟨now, checkRun, name, configMap, report, job, calls, scan, published, decoded, checkId,
    enriched⟩ := h
  obtain ⟨c, jobName, event, found, -, published⟩ := published
  obtain ⟨⟨d, action⟩, mem, moment⟩ := List.mem_filterMap.mp event
  cases action with
  | pipeline m => cases moment
  | operator e =>
    obtain ⟨rfl, rfl⟩ := Prod.mk.inj (Option.some.inj moment)
    obtain ⟨later, before, split⟩ := List.append_of_mem mem
    exact ⟨⟨d, _, before⟩, jobName, job, calls, scan, ⟨later, split.symm⟩, rfl, found, configMap,
      report, now, checkRun, published, decoded, checkId, enriched⟩

theorem phase_enriched (report : Fields) (now : Int) (checkRun : CheckRun) :
    stringField (enrichScheduledStatus report now checkRun) "phase" = stringField report "phase" := by
  unfold stringField
  rw [get?_enrichScheduledStatus _ _ _ (by decide)]

variable (copied : CopiedFrom history status work jobName job calls scan)
include copied

/-- The status names the Job's generation and check. -/
theorem CopiedFrom.named (run : Run Starting (Recorded (Step partitionOf topic)) history s) :
    int64Field status "observedGeneration" = some job.args.observedGeneration ∧
    stringField status "checkID" = some job.args.check.checkId := by
  obtain ⟨within, action, found, configMap, report, now, checkRun, published, decoded, checkId, rfl⟩ :=
    copied
  have event : (work.deployment.cluster, .work jobName calls scan) ∈ history.filterMap clusterMoment :=
    List.mem_filterMap.mpr ⟨(work.deployment, work.action), within.subset List.mem_cons_self,
      by rw [action]; rfl⟩
  have publication : PublishedBy (history.filterMap clusterMoment) job.args.configMap configMap job
      calls scan := ⟨_, _, event, found, rfl, published⟩
  obtain ⟨generation, named, -, -⟩ := publication.report (run_cluster run) decoded
  refine ⟨?_, ?_⟩
  · unfold int64Field at generation ⊢
    rwa [get?_enrichScheduledStatus _ _ _ (by decide)]
  · rw [checkId_enriched checkId, ← checkId, named]

/-- What a worker published is true of the moments it read the stores at. -/
theorem CopiedFrom.exact (run : Run Starting (Recorded (Step partitionOf topic)) history s)
    (served : Served history) (verdict : isVerdict (stringField status "phase"))
    (kind : job.args.check.invariant = "existence") :
    ∃ source index clock, Exact partitionOf work.steps jobName job.args
      (stringField status "phase" = some "Healthy") source index clock := by
  obtain ⟨within, action, found, configMap, report, now, checkRun, published, decoded, -, rfl⟩ := copied
  obtain ⟨d, a, before⟩ := work
  obtain rfl : a = Action.operator (.work jobName calls scan) := action
  obtain ⟨source, index, clock, answered⟩ := served d jobName calls scan before job within found kind
  have inside := answered.within.trans within
  obtain ⟨payload, status, rfl, outcome⟩ := runJob_published published
  obtain rfl : normalizeMembers status = report := Except.ok.inj decoded
  rw [phase_enriched] at verdict ⊢
  obtain ⟨drift, after, ran, reported⟩ := outcome_checked outcome verdict
  obtain ⟨phase, there, healthy⟩ := reported.phase
  refine ⟨source, index, clock, answered.within, answered.order, answered.running, ?_⟩
  rw [phase_normalised reported there, Option.some.injEq, healthy]
  exact OrderFlow.existence_exact (run_flow (Moment.run run inside))
    (Moment.kept_until run inside answered.order) clock _ answered.orders answered.documents
    (existence_ran kind ran)

end Copied

/-- Whatever the operator, the workers, the generators, the indexer and repairs do, and in
which order: a verdict in the status of an Invariant is a copy of what the worker of a Job
published, and of whichever Job it is a copy, it names the generation and the check, and is
exact for the two moments at which the worker read the stores if it made an existence check. -/
theorem verdict_exact (run : Run Starting (Recorded (Step partitionOf topic)) history s)
    (served : Served history) {name : String} {r : Resource} {status : Fields}
    (h : s.cluster.invariants name = some r) (current : r.status = some status)
    (verdict : isVerdict (stringField status "phase")) :
    (∃ work jobName job calls scan, CopiedFrom history status work jobName job calls scan) ∧
    ∀ work jobName job calls scan, CopiedFrom history status work jobName job calls scan →
      int64Field status "observedGeneration" = some job.args.observedGeneration ∧
      stringField status "checkID" = some job.args.check.checkId ∧
      (job.args.check.invariant = "existence" → ∃ source index clock,
        Exact partitionOf work.steps jobName job.args (stringField status "phase" = some "Healthy")
          source index clock) := by
  refine ⟨(status_copy (run_cluster run) h current verdict).copiedFrom, ?_⟩
  intro work jobName job calls scan copied
  obtain ⟨generation, checkId⟩ := copied.named run
  exact ⟨generation, checkId, copied.exact run served verdict⟩

/-! ## A verdict -/

theorem run_pipeline {moves : List FlowMove} {flow : OrderFlow} {c : Cluster} (fresh : Fresh c)
    (run : Run OrderFlow.Starting (Guarded (fun _ => OrderFlow.Unrepaired)
      (OrderFlow.Step partitionOf topic)) moves flow) :
    ∃ history, Run Starting (Recorded (Step partitionOf topic)) history ⟨c, flow⟩ ∧
      ∀ moment ∈ history, ∃ m, moment.2 = .pipeline m := by
  induction run with
  | start starting => exact ⟨[], .start ⟨fresh, starting⟩, fun _ mem => absurd mem List.not_mem_nil⟩
  | @next moves flow m t _ step ih =>
    obtain ⟨history, before, pipeline⟩ := ih
    obtain ⟨unrepaired, step⟩ := step
    have rereads : flow.Rereads m := fun o now same => absurd same (unrepaired o now)
    refine ⟨_, before.record (.pipeline ⟨c, flow⟩ m t rereads step), fun moment mem => ?_⟩
    obtain rfl | earlier := List.mem_cons.mp mem
    · exact ⟨m, rfl⟩
    · exact pipeline moment earlier

theorem served_pipeline (pipeline : ∀ moment ∈ history, ∃ m, moment.2 = .pipeline m) :
    Served history := by
  intro d jobName calls scan before job within
  obtain ⟨m, same⟩ := pipeline _ (within.subset List.mem_cons_self)
  cases same

def Action.isWork : Action → Bool
  | .operator (.work _ _ _) => true
  | _ => false

theorem Served.next (served : Served history) (d : Deployment) {a : Action} (other : a.isWork = false) :
    Served ((d, a) :: history) := by
  intro d' jobName calls scan before job within
  obtain same | earlier := List.suffix_cons_iff.mp within
  · obtain ⟨here, -⟩ := List.cons.inj same
    rw [← (Prod.mk.inj here).2] at other
    cases other
  · exact served d' jobName calls scan before job earlier

/-- A worker that reads both stores as it publishes. -/
theorem Served.work (served : Served history) (d : Deployment) {jobName : String} {job : Job}
    (calls : WorkerCalls) (scan : ScanWorld) (clock : Instant)
    (found : d.cluster.jobs jobName = some job) (running : job.finishedAt = none)
    (orders : calls.checks.fetchPaidOrders job.args.check.maxLagSeconds =
      .ok (fetchPaidOrders d.flow.db.orders clock job.args.check.maxLagSeconds))
    (documents : ∀ ids, calls.checks.mgetOrders ids = .ok (mgetOrders d.flow.index ids)) :
    Served ((d, .operator (.work jobName calls scan)) :: history) := by
  intro d' jobName' calls' scan' before job' within found' kind
  obtain same | earlier := List.suffix_cons_iff.mp within
  · obtain ⟨here, rfl⟩ := List.cons.inj same
    obtain ⟨rfl, action⟩ := Prod.mk.inj here
    obtain ⟨rfl, rfl, rfl⟩ := Event.work.inj (Action.operator.inj action)
    obtain rfl := Option.some.inj (found'.symm.trans found)
    have work : (Moment.mk d' (.operator (.work jobName' calls' scan')) before).Running jobName'
        job'.args := ⟨job', found, rfl, running⟩
    refine ⟨⟨d', _, before⟩, ⟨d', _, before⟩, clock, List.suffix_rfl, List.suffix_rfl, ⟨work, work⟩,
      fun l fetched => ?_, fun ids answer got => ?_⟩
    · exact (Except.ok.inj (orders.symm.trans fetched)).symm
    · exact (Except.ok.inj ((documents ids).symm.trans got)).symm
  · exact served d' jobName' calls' scan' before job' earlier found' kind

/-- The one order of the flow, published and indexed. -/
def indexedFlow : OrderFlow := OrderFlow.indexingFlow 2 OrderFlow.indexedTwice none

def existenceCalls : WorkerCalls :=
  { summaryCalls twoOrders twoOrders with
    checks := indexedFlow.checkCalls (storesOnly (seconds 100)).readings (seconds 100) }

def existenceReport : DriftReport :=
  comparePaidOrdersToIndex OrderFlow.publishedFlow.db.orders (mgetOrders OrderFlow.indexedTwice ["o1"])
    ((storesOnly (seconds 100)).readings.evidence 60
      (latestSourceWatermark OrderFlow.publishedFlow.db.orders) none)

def existenceStatus : Fields :=
  jobStatus (firstJob "default" "orders" "existence" 0).args existenceReport
    "file:///tmp/dataguard-reports/report.json"

theorem existence_published : ∃ payload,
    (runJob existenceCalls (firstJob "default" "orders" "existence" 0).args (fun _ => none)
      ⟨none, [], []⟩).2.published = some (reportConfigMap payload existenceStatus) := ⟨_, rfl⟩

theorem verdict_exact_indexed : ∃ history s r status,
    Run Starting (Recorded (Step (fun _ => 0) "dataguard.order-events")) history s ∧ Served history ∧
    s.cluster.invariants "orders" = some r ∧ r.status = some status ∧
    stringField status "phase" = some "Healthy" ∧
    (∃ work jobName job calls scan, CopiedFrom history status work jobName job calls scan) ∧
    ∀ work jobName job calls scan, CopiedFrom history status work jobName job calls scan →
      int64Field status "observedGeneration" = some job.args.observedGeneration ∧
      stringField status "checkID" = some job.args.check.checkId ∧
      (job.args.check.invariant = "existence" → ∃ source index clock,
        Exact (fun _ => 0) work.steps jobName job.args (stringField status "phase" = some "Healthy")
          source index clock) := by
  obtain ⟨payload, published⟩ := existence_published
  have reported := reported_jobStatus (firstJob "default" "orders" "existence" 0).args existenceReport
    "file:///tmp/dataguard-reports/report.json"
  have decoded : decodeStatusPayload (reportConfigMap payload existenceStatus).statusJson =
      .ok (normalizeMembers existenceStatus) := rfl
  have healthy : stringField (normalizeMembers existenceStatus) "phase" = some "Healthy" := rfl
  obtain ⟨history, before, pipeline⟩ := run_pipeline (Cluster.fresh_empty "default")
    OrderFlow.consumedTwice_unrepaired
  have run := (((before.record (.operator _ _ _ (created_step "default" "orders" "existence"))).record
    (.operator _ _ _ (checking_step "default" "orders" "existence"))).record
    (.operator _ _ _ (reported_step _ _ _ published))).record
    (.operator _ _ _ (copied_step (by decide +kernel) decoded reported.reads healthy))
  have started : Served ((⟨created "default" "orders" "existence", indexedFlow⟩, .operator
      (.reconcile "orders" (firstWrites "default" "orders" "existence" 0))) ::
      (⟨.empty "default", indexedFlow⟩, .operator (.create "orders" jobMode (typeSpec "existence"))) ::
      history) := ((served_pipeline pipeline).next _ rfl).next _ rfl
  have worked := started.work ⟨checking "default" "orders" "existence", indexedFlow⟩ existenceCalls
    ⟨none, [], []⟩ (seconds 100) (checking_job "default" "orders" "existence") rfl rfl fun _ => rfl
  have patched := applyAll_patched (reported_invariants "default" "orders" "existence"
    (reportConfigMap payload existenceStatus)) (.copied (reportConfigMapName "orders" "g1"))
    (enrichScheduledStatus (normalizeMembers existenceStatus) 0 firstRun)
  have shown := Resource.status_patchStatus
    (checkedInvariant "default" "orders" "existence").toResource
    (enrichScheduledStatus (normalizeMembers existenceStatus) 0 firstRun)
  exact ⟨_, _, _, _, run, worked.next _ rfl, patched, shown, rfl,
    verdict_exact run (worked.next _ rfl) patched shown (Or.inl rfl)⟩

end Deployment

end KubeDataGuard
