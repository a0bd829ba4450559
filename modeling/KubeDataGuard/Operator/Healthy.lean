import KubeDataGuard.Operator.FirstCheck

/-!
# Where Healthy comes from

A status that is healthy was copied from a report of the run it was copied in,
and behind that report is a complete check without drift. The statuses the
operator builds itself never are.
-/

namespace KubeDataGuard

open Runs

/-- A pass of this history over the Invariant object copied the status from a
report for its generation and run, which a worker had published on the strength
of a complete check. -/
inductive CopiedFrom (history : Past) (name : String) (uid : Uid) (status : Fields) : Prop
  | intro (writes : List Write) (earlier : Past) (c : Cluster) (invariant : Unstructured)
      (checkRun : CheckRun) (source : String) (configMap : ConfigMap) (report : Fields) (job : Job)
      (calls : WorkerCalls) (scan : ScanWorld)
      (event : (c, .reconcile name writes) :: earlier <:+ history)
      (found : c.invariant name = some invariant) (object : invariant.uid = uid)
      (copied : .patchStatus (.copied source) status ∈ writes)
      (current : currentCheckRun invariant c.now = .ok checkRun)
      (read : ReportFor c invariant.generation checkRun.id source configMap report)
      (enriched : status = enrichScheduledStatus report c.now checkRun)
      (published : PublishedBy earlier source configMap job calls scan)
      (backed : ∃ drift after, Backed calls job.args scan drift after)

/-- A status agrees with itself, and if it is healthy it was copied. -/
def Justified (history : Past) (name : String) (uid : Uid) (status : Fields) : Prop :=
  HealthAgrees status ∧
    (boolField status "healthy" = some true → CopiedFrom history name uid status)

section Healthy

variable {history : Past} {c t : Cluster} {name : String}

theorem Justified.later {uid : Uid} {status : Fields} (h : Justified history name uid status)
    (moment : Cluster × Event) : Justified (moment :: history) name uid status := by
  obtain ⟨agrees, copied⟩ := h
  refine ⟨agrees, fun healthy => ?_⟩
  obtain ⟨writes, earlier, c, invariant, checkRun, source, configMap, report, job, calls, scan, event,
    found, object, copied, current, read, enriched, published, backed⟩ := copied healthy
  exact ⟨writes, earlier, c, invariant, checkRun, source, configMap, report, job, calls, scan,
    event.trans (List.suffix_cons moment history), found, object, copied, current, read, enriched,
    published, backed⟩

theorem healthAgrees_enriched {report : Fields} (h : HealthAgrees report) (now : Int)
    (run : CheckRun) : HealthAgrees (enrichScheduledStatus report now run) := by
  unfold HealthAgrees boolField stringField
  rw [get?_enrichScheduledStatus _ _ _ (by decide), get?_enrichScheduledStatus _ _ _ (by decide)]
  exact h

/-- What a reconcile copies into a status is justified by the report it read. -/
theorem copied_justified (run : Run Fresh (Recorded Step) history c) {writes : List Write}
    {source : String} {status : Fields} {r : Resource} (h : c.invariants name = some r)
    (step : Step c (.reconcile name writes) t)
    (copied : .patchStatus (.copied source) status ∈ writes) :
    Justified ((c, .reconcile name writes) :: history) name r.uid status := by
  obtain ⟨invariant, found, write⟩ := reconcile_write step copied
  have object : invariant.toResource = r :=
    Option.some.inj ((invariant_some found).1.symm.trans h)
  cases write with
  | copied checkRun source status current sourced read =>
    obtain ⟨configMap, report, reportFor, rfl⟩ :=
      statusFromReportConfigMap_some (currentCheckRun_ne_empty current) read
    obtain ⟨job, calls, scan, published⟩ := configMap_publishedBy run reportFor.stored
    obtain ⟨-, -, agrees, backed⟩ := published.report run reportFor.decoded
    refine ⟨healthAgrees_enriched agrees _ _, fun healthy => ?_⟩
    have flag : boolField report "healthy" = some true := by
      unfold boolField at healthy ⊢
      rwa [get?_enrichScheduledStatus _ _ _ (by decide)] at healthy
    exact ⟨writes, history, c, invariant, checkRun, source, configMap, report, job, calls, scan,
      List.suffix_refl _, found, congrArg Resource.uid object, copied, current, reportFor, rfl,
      published, backed flag⟩

/-- A status the operator builds itself is unhealthy. -/
theorem built_unhealthy {writes : List Write} {status : Fields}
    (step : Step c (.reconcile name writes) t) (built : .patchStatus .built status ∈ writes) :
    Unhealthy status := by
  obtain ⟨invariant, -, write⟩ := reconcile_write step built
  cases write with
  | built status unhealthy => exact unhealthy

theorem patched_justified (run : Run Fresh (Recorded Step) history c) {writes : List Write}
    {origin : Origin} {status : Fields} {r : Resource} (h : c.invariants name = some r)
    (step : Step c (.reconcile name writes) t) (patched : .patchStatus origin status ∈ writes) :
    Justified ((c, .reconcile name writes) :: history) name r.uid status := by
  cases origin with
  | copied source => exact copied_justified run h step patched
  | built =>
    have unhealthy := built_unhealthy step patched
    refine ⟨unhealthy.agrees, fun healthy => ?_⟩
    rw [unhealthy.1] at healthy
    cases healthy

theorem status_justified (run : Run Fresh (Recorded Step) history c) {r : Resource} {status : Fields}
    (h : c.invariants name = some r) (current : r.status = some status) :
    Justified history name r.uid status := by
  have all : ∀ name r status, c.invariants name = some r → r.status = some status →
      Justified history name r.uid status := by
    refine run.recorded_invariant (I := fun history c => ∀ name r status, c.invariants name = some r →
      r.status = some status → Justified history name r.uid status) ?_ ?_
    · intro c fresh name r status h
      rw [fresh.invariants name] at h
      cases h
    · intro history c e t run ih step name r' status h' current
      cases step_invariant step h' with
      | kept r before same kept =>
        rw [same.uid]
        exact (ih name r status before (kept ▸ current)).later (c, e)
      | patched r writes origin patch before same event made patched =>
        subst event
        rw [current] at patched
        obtain rfl := Option.some.inj patched
        rw [same.uid]
        exact patched_justified run before step made
      | respecified r before uid generation counted kept =>
        rw [uid]
        exact (ih name r status before (kept ▸ current)).later (c, e)
      | created annotations spec before event uid generation none =>
        rw [none] at current
        cases current
  exact all name r status h current

/-- Healthy is never made up: over every run, a stored status is healthy exactly
when its phase is Healthy, it is then a copy of a report of its run with a
complete check behind it, and no status the operator builds is healthy. -/
theorem healthy_only_from_complete_check (run : Run Fresh (Recorded Step) history c) :
    (∀ name r status, c.invariants name = some r → r.status = some status →
      (boolField status "healthy" = some true ↔ stringField status "phase" = some "Healthy") ∧
      (boolField status "healthy" = some true → CopiedFrom history name r.uid status)) ∧
    ∀ name writes t, Step c (.reconcile name writes) t →
      ∀ status, .patchStatus .built status ∈ writes → Unhealthy status :=
  ⟨fun _ _ _ h current => status_justified run h current,
    fun _ _ _ step _ built => built_unhealthy step built⟩

/-- A first check that finds both stores in agreement makes its Invariant healthy. -/
theorem healthy_after_first_check : ∃ history c r status, Run Fresh (Recorded Step) history c ∧
    c.invariants "orders" = some r ∧ r.status = some status ∧
    boolField status "healthy" = some true ∧ CopiedFrom history "orders" r.uid status := by
  obtain ⟨payload, published⟩ := agreement_published "default" "orders"
  obtain ⟨healthy, reads⟩ := summary_reads "default" "orders" twoOrders twoOrders
  have decoded := summary_decoded "default" "orders" twoOrders twoOrders payload
  have copied := copied_step (by decide +kernel) decoded reads rfl
  have run := ((((Run.start (Cluster.fresh_empty "default")).record (created_step _ _ _)).record
    (checking_step _ _ _)).record (reported_step _ _ _ published)).record copied
  have patched := applyAll_patched (reported_invariants "default" "orders" "aggregate"
    (reportConfigMap payload (summaryStatus "default" "orders" twoOrders twoOrders)))
    (.copied (reportConfigMapName "orders" "g1"))
    (enrichScheduledStatus (summaryReport "default" "orders" twoOrders twoOrders) 0 firstRun)
  have status := Resource.status_patchStatus
    (checkedInvariant "default" "orders" "aggregate").toResource
    (enrichScheduledStatus (summaryReport "default" "orders" twoOrders twoOrders) 0 firstRun)
  exact ⟨_, _, _, _, run, patched, status, rfl,
    ((healthy_only_from_complete_check run).1 _ _ _ patched status).2 rfl⟩

end Healthy

end KubeDataGuard
