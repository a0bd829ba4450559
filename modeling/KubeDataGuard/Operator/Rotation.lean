import KubeDataGuard.Operator.ScheduledCheck

/-!
# Rotated credentials

A change of what a checker's environment is made from enqueues the Invariant.
The pass that follows makes a checker Job only for a check that has neither a
Job nor a report yet, so that a rotation within the run of a check changes
nothing.
-/

namespace KubeDataGuard

open Runs

/-- No Job of the Invariant runs. -/
def Idle (c : Cluster) (invariant : Unstructured) : Prop :=
  ∀ k job, c.jobs k = some job → job.ownedBy invariant.uid = true → job.finishedAt ≠ none

/-- The change enqueues the Invariant, and its pass makes a checker Job. -/
def Rechecks {c : Cluster} (listing : Listing c) (invariant : Unstructured) (change : Change) : Prop :=
  invariant.key ∈ enqueued listing change ∧
    ∃ job, .createJob job ∈ (reconcileJobBackedInvariant c invariant).writes ∧ job.duty = .check

/-- The current check has left no trace: no Job under its name, no report of it or of its repair. -/
structure Untouched (c : Cluster) (invariant : Unstructured) (run : CheckRun) : Prop where
  hrun : currentCheckRun invariant c.now = .ok run
  lag : ∃ maxLag, maxLagSeconds invariant = .ok maxLag
  absent : c.jobs (checkerJobName invariant.name run.id) = none
  unreported : ∀ duty : Duty,
    ¬Readable c (duty.configMapName invariant.name run.id) invariant.generation run.id

section Rotation

variable {history : Past} {c : Cluster} {invariant : Unstructured} {run : CheckRun}

/-- The checker Job of an environment that resolves. -/
theorem createdJobs_checker {env : List EnvVar}
    (absent : c.jobs (checkerJobName invariant.name run.id) = none)
    (resolved : resolveCheckerEnv c invariant = .ok env) (job : Job) :
    .createJob job ∈ (reconcileCheckerJob c invariant run).writes ↔
      buildCheckerJobWithEnv invariant run env = .ok job := by
  rw [← mem_createdJobs]
  unfold reconcileCheckerJob
  simp only [absent, resolved, Outcome.after, createdJobs_append, createdJobs_rbac, List.nil_append]
  cases built : buildCheckerJobWithEnv invariant run env with
  | error e => simp [createdJobs, Outcome.fail]
  | ok made =>
    simp only
    rw [← List.singleton_append, createdJobs_append, createdJobs_running, List.append_nil]
    simp [createdJobs, eq_comm]

theorem Untouched.creates (reached : Run Fresh (Recorded Step) history c)
    (h : Untouched c invariant run) {env : List EnvVar}
    (resolved : resolveCheckerEnv c invariant = .ok env) :
    ∃ job, .createJob job ∈ (reconcileJobBackedInvariant c invariant).writes ∧ job.duty = .check := by
  obtain ⟨maxLag, lag⟩ := h.lag
  have id := currentCheckRun_ne_empty h.hrun
  have unrepaired := (report_unread_iff reached id).mpr (h.unreported .repair)
  have unreported := (report_unread_iff reached id).mpr (h.unreported .check)
  obtain ⟨job, built⟩ : ∃ job, buildCheckerJobWithEnv invariant run env = .ok job := by
    unfold buildCheckerJobWithEnv
    rw [lag]
    exact ⟨_, rfl⟩
  refine ⟨job, ?_, ?_⟩
  · unfold reconcileJobBackedInvariant
    simp only [Duty.configMapName] at unrepaired unreported
    simp only [h.hrun, unrepaired, unreported]
    exact (createdJobs_checker h.absent resolved job).mpr built
  · rw [Job.duty, (buildCheckerJobWithEnv_ok built).2.2]

theorem untouched_of_created (reached : Run Fresh (Recorded Step) history c) {env : List EnvVar}
    (resolved : resolveCheckerEnv c invariant = .ok env) {job : Job}
    (created : .createJob job ∈ (reconcileJobBackedInvariant c invariant).writes)
    (check : job.duty = .check) : ∃ run, Untouched c invariant run := by
  cases reconcile_writes c invariant _ created with
  | checkerJob run job hrun unrepaired unreported absent named kind built =>
    have id := currentCheckRun_ne_empty hrun
    refine ⟨run, hrun, ?_, absent, ?_⟩
    · unfold reconcileJobBackedInvariant at created
      simp only [hrun, unrepaired, unreported] at created
      have made := (createdJobs_checker absent resolved job).mp created
      unfold buildCheckerJobWithEnv at made
      split at made
      · cases made
      · rename_i maxLag lag
        exact ⟨maxLag, lag⟩
    · intro duty
      cases duty with
      | check => exact (report_unread_iff reached id).mp unreported
      | repair => exact (report_unread_iff reached id).mp unrepaired
  | repairJob run job status policy mode hrun unrepaired reported drift allowed absent named kind =>
    rw [Job.duty, kind] at check
    cases check

/-- In every reachable state, a change that the resolved environment depends on is followed by a
fresh check exactly where the current check has left no trace. -/
theorem rotation_rechecks_iff (reached : Run Fresh (Recorded Step) history c) (listing : Listing c)
    (listed : invariant ∈ listing.invariants) {env : List EnvVar}
    (resolved : resolveCheckerEnv c invariant = .ok env) {change : Change}
    (depends : DependsOn c invariant env change) :
    (Idle c invariant → Rechecks listing invariant change) ↔
      (Idle c invariant → StringRefs listing ∧ ∃ run, Untouched c invariant run) := by
  refine imp_congr_right fun _ => ?_
  constructor
  · rintro ⟨enqueued, job, created, check⟩
    exact ⟨stringRefs_of_mem enqueued, untouched_of_created reached resolved created check⟩
  · rintro ⟨refs, run, untouched⟩
    refine ⟨?_, untouched.creates reached resolved⟩
    exact (mem_enqueued refs change _).mpr ⟨invariant, listed, rfl, depends.refersTo resolved⟩

end Rotation

/-! ## The Secret of the source -/

section Listing

variable (now : Int) (status : Option Fields) (jobs : String → Option Job)
  (configMaps : String → Option ConfigMap)

theorem orders_listed : Listed (orders now status jobs configMaps).invariant
    (namespaceObjects "default" [("orders", ordersResource status)]) := by
  have stored : (orders now status jobs configMaps).invariant = fun name =>
      (List.lookup name [("orders", ordersResource status)]).map
        fun r => { r with ns := "default", name := name } := by
    funext name
    by_cases same : name = "orders"
    · subst same
      exact orders_invariant now status jobs configMaps
    · have other : (orders now status jobs configMaps).invariants name = none := by
        change Function.update (fun _ => none) "orders" (some (ordersResource status)) name = none
        rw [Function.update_of_ne same]
      unfold Cluster.invariant
      rw [other, List.lookup_cons, beq_eq_false_iff_ne.mpr same]
      rfl
  rw [stored]
  exact listed_entries "default" _ (List.nodup_singleton _) (by simp)

theorem orders_sources : Listed (orders now status jobs configMaps).dataSource
    (namespaceObjects "default" postgresEntries) :=
  listed_entries "default" postgresEntries (by decide) (by decide)

theorem orders_views : Listed (orders now status jobs configMaps).derivedView
    (namespaceObjects "default" searchEntries) :=
  listed_entries "default" searchEntries (by decide) (by decide)

def ordersListing : Listing (orders now status jobs configMaps) where
  dataSources := namespaceObjects "default" postgresEntries
  derivedViews := namespaceObjects "default" searchEntries
  invariants := namespaceObjects "default" [("orders", ordersResource status)]
  allDataSources := orders_sources now status jobs configMaps
  allDerivedViews := orders_views now status jobs configMaps
  allInvariants := orders_listed now status jobs configMaps

theorem ordersListing_mem :
    ordersInvariant status ∈ (ordersListing now status jobs configMaps).invariants :=
  List.mem_cons_self

theorem ordersListing_refs : StringRefs (ordersListing now status jobs configMaps) := by
  intro o mem
  rw [List.mem_singleton.mp mem]
  cases status <;> exact ⟨_, rfl⟩

theorem orders_depends : DependsOn (orders now status jobs configMaps) (ordersInvariant status)
    (ordersJob firstSlot).env postgresSecret :=
  ⟨"POSTGRES_DSN", "dsn", List.mem_cons_self⟩

end Listing

theorem rotation_rechecks_iff_first_check :
    Rechecks (ordersListing 0 none noJobs noConfigMaps) (ordersInvariant none) postgresSecret := by
  obtain ⟨history, reached⟩ := orders_created
  have untouched : Untouched (orders 0 none noJobs noConfigMaps) (ordersInvariant none) firstSlot := by
    refine ⟨orders_first none, ⟨60, rfl⟩, rfl, ?_⟩
    rintro duty ⟨configMap, report, there⟩
    exact nomatch there.stored
  have idle : Idle (orders 0 none noJobs noConfigMaps) (ordersInvariant none) :=
    fun _ _ found => nomatch found
  exact (rotation_rechecks_iff (started_run reached) (ordersListing 0 none noJobs noConfigMaps)
    (ordersListing_mem 0 none noJobs noConfigMaps) (orders_env 0 none noJobs noConfigMaps)
    (orders_depends 0 none noJobs noConfigMaps)).mpr
    (fun _ => ⟨ordersListing_refs 0 none noJobs noConfigMaps, firstSlot, untouched⟩) idle

theorem doneJobs_finished {k : String} {job : Job} (found : doneJobs k = some job) :
    job.finishedAt ≠ none := by
  unfold doneJobs doneJob firstJobs at found
  by_cases same : k = checkerJobName "orders" "g1-t0"
  · rw [same, Function.update_self] at found
    rw [← Option.some.inj found]
    decide
  · rw [Function.update_of_ne same, Function.update_of_ne same] at found
    cases found

/-- After the slot's report a rotated Secret enqueues the Invariant and no Job follows. -/
theorem rotated_secret_unchecked : ∃ history c, ∃ listing : Listing c, ∃ invariant env,
    Run Started (Recorded Step) history c ∧ invariant ∈ listing.invariants ∧
    resolveCheckerEnv c invariant = .ok env ∧ DependsOn c invariant env postgresSecret ∧
    Idle c invariant ∧ invariant.key ∈ enqueued listing postgresSecret ∧
    createdJobs (reconcileJobBackedInvariant c invariant).writes = [] := by
  obtain ⟨history, reached⟩ := orders_checking
  obtain ⟨payload, published⟩ := orders_agreement_published noConfigMaps
  have finish : Step (orders 0 (some ordersRunning) firstJobs (reportMaps firstSlot payload twoOrders))
      (.finish (checkerJobName "orders" "g1-t0") _)
      (orders 0 (some ordersRunning) doneJobs (reportMaps firstSlot payload twoOrders)) :=
    orders_finishes (ordersJob firstSlot) ⟨.complete, true, "", ""⟩ firstJobs_checker rfl
  have reached := (reached.record (orders_reported published)).record finish
  have resolved := orders_env 0 (some ordersRunning) doneJobs (reportMaps firstSlot payload twoOrders)
  have depends := orders_depends 0 (some ordersRunning) doneJobs (reportMaps firstSlot payload twoOrders)
  have listed := ordersListing_mem 0 (some ordersRunning) doneJobs
    (reportMaps firstSlot payload twoOrders)
  refine ⟨_, _, ordersListing 0 (some ordersRunning) doneJobs (reportMaps firstSlot payload twoOrders),
    ordersInvariant (some ordersRunning), _, reached, listed, resolved, depends,
    fun k job found _ => doneJobs_finished found, ?_, ?_⟩
  · exact (mem_enqueued (ordersListing_refs 0 _ doneJobs _) postgresSecret _).mpr
      ⟨_, listed, rfl, depends.refersTo resolved⟩
  · rw [orders_agreement_pass]
    rfl

end KubeDataGuard
