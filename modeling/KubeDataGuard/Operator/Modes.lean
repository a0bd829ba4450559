import KubeDataGuard.Operator.Synthetic
import KubeDataGuard.Operator.Healthy

/-!
# Both modes

`Reconcile` makes a pass of one mode or the other, by an annotation that may
change at any time. No status of either mode is read back: without the statuses,
a run of both modes is a run of the mode that creates Jobs.
-/

namespace KubeDataGuard

open Runs

inductive ModeEvent
  | pass (name : String) (writes : List Write)
  | other (e : Event)

def Event.isReconcile : Event → Bool
  | .reconcile _ _ => true
  | _ => false

inductive ModeStep : Cluster → ModeEvent → Cluster → Prop
  | pass (c : Cluster) (name : String) (invariant : Unstructured) (writes : List Write)
      (found : c.invariant name = some invariant)
      (made : writes <+: (reconcile c invariant).writes) :
      ModeStep c (.pass name writes) (c.applyAll name writes)
  | other (c : Cluster) (e : Event) (t : Cluster) (step : Step c e t)
      (around : e.isReconcile = false) : ModeStep c (.other e) t

abbrev ModePast := List (Cluster × ModeEvent)

/-! ## Without the statuses -/

def withoutStatus (object : Fields) : Fields := object.filter fun member => member.1 != "status"

def Resource.bare (r : Resource) : Resource := { r with object := withoutStatus r.object }

def Unstructured.bare (o : Unstructured) : Unstructured := { o with object := withoutStatus o.object }

def Cluster.bare (c : Cluster) : Cluster :=
  { c with invariants := fun name => (c.invariants name).map Resource.bare }

/-- The write is none of a status. -/
def Write.creates : Write → Bool
  | .patchStatus _ _ => false
  | _ => true

section Reads

variable (c : Cluster) (invariant : Unstructured) (run : CheckRun)

theorem nestedAs_withoutStatus {α : Type} (pick : Json → Option α) (object : Fields)
    (fields : List String) : nestedAs pick (withoutStatus object) ("spec" :: fields) =
      nestedAs pick object ("spec" :: fields) := by
  have spec : Fields.get? (withoutStatus object) "spec" = Fields.get? object "spec" := by
    have set := Fields.get?_set_ne object .null (show "spec" ≠ "status" by decide)
    rwa [Fields.set, Fields.get?_cons, if_neg (by decide)] at set
  unfold nestedAs
  rw [nestedField, nestedField, spec]

theorem currentCheckRun_bare (now : Int) :
    currentCheckRun invariant.bare now = currentCheckRun invariant now := by
  unfold currentCheckRun nestedInt64 Unstructured.bare
  rw [nestedAs_withoutStatus]

theorem specInt64_bare (field : String) : specInt64 invariant.bare field = specInt64 invariant field := by
  unfold specInt64 nestedInt64 Unstructured.bare
  rw [nestedAs_withoutStatus]

theorem specString_bare (field : String) :
    specString invariant.bare field = specString invariant field := by
  unfold specString nestedStringOrEmpty nestedString Unstructured.bare
  rw [nestedAs_withoutStatus]

theorem maxLagSeconds_bare : maxLagSeconds invariant.bare = maxLagSeconds invariant := by
  unfold maxLagSeconds nestedInt64 Unstructured.bare
  rw [nestedAs_withoutStatus]

theorem compareFields_bare : compareFields invariant.bare = compareFields invariant := by
  unfold compareFields Unstructured.bare
  simp only [nestedAs_withoutStatus]

theorem boundedJobSeconds_bare (specField annotation : String) (fallback minValue maxValue : Int) :
    boundedJobSeconds invariant.bare specField annotation fallback minValue maxValue =
      boundedJobSeconds invariant specField annotation fallback minValue maxValue := by
  unfold boundedJobSeconds
  rw [specInt64_bare]
  rfl

theorem checkerInvariantArg_bare : checkerInvariantArg invariant.bare = checkerInvariantArg invariant := by
  have type : invariantType invariant.bare = invariantType invariant := specString_bare invariant "type"
  unfold checkerInvariantArg
  rw [type]

theorem checkArgs_bare (maxLag : Int) :
    checkArgs invariant.bare run maxLag = checkArgs invariant run maxLag := by
  unfold checkArgs appendQueryArgs checksumPrefixLength keyField sourceScanPageSize sourceMaxPages
  rw [checkerInvariantArg_bare, compareFields_bare]
  simp only [specString_bare, specInt64_bare]
  rfl

theorem buildCheckerJobWithEnv_bare (env : List EnvVar) :
    buildCheckerJobWithEnv invariant.bare run env = buildCheckerJobWithEnv invariant run env := by
  unfold buildCheckerJobWithEnv jobTTLSecondsAfterFinished jobActiveDeadlineSeconds
  simp only [maxLagSeconds_bare, boundedJobSeconds_bare, checkArgs_bare]
  rfl

theorem buildRepairJobWithEnv_bare (source : String) (env : List EnvVar) (mode : String) :
    buildRepairJobWithEnv invariant.bare source run env mode =
      buildRepairJobWithEnv invariant source run env mode := by
  unfold buildRepairJobWithEnv jobTTLSecondsAfterFinished jobActiveDeadlineSeconds
  simp only [maxLagSeconds_bare, boundedJobSeconds_bare, checkArgs_bare]
  rfl

theorem resolveCheckerEnv_bare :
    resolveCheckerEnv c.bare invariant.bare = resolveCheckerEnv c invariant := by
  unfold resolveCheckerEnv
  rw [specString_bare]
  rfl

theorem findAutoRepairPolicy_bare (policies : List Unstructured) :
    findAutoRepairPolicy invariant.bare policies = findAutoRepairPolicy invariant policies := by
  induction policies with
  | nil => rfl
  | cons policy policies ih =>
    unfold findAutoRepairPolicy
    rw [ih]
    rfl

theorem jobLifecycleStatus_bare (now : Int) (base : Fields) :
    jobLifecycleStatus invariant.bare now run base = jobLifecycleStatus invariant now run base := by
  have type : invariantType invariant.bare = invariantType invariant := specString_bare invariant "type"
  have lag : shownMaxLag invariant.bare = shownMaxLag invariant := by
    unfold shownMaxLag
    rw [maxLagSeconds_bare]
  unfold jobLifecycleStatus
  rw [type, lag]
  rfl

theorem lifecycleStatus_bare (now : Int) (jobName : String) (l : Lifecycle) :
    lifecycleStatus invariant.bare now run jobName l = lifecycleStatus invariant now run jobName l :=
  jobLifecycleStatus_bare invariant run now (l.base invariant jobName)

/-- A repair is made the same way, its statuses included. -/
theorem reconcileRepairForDrift_bare (status : Fields) (source : String) :
    reconcileRepairForDrift c.bare invariant.bare status source run =
      reconcileRepairForDrift c invariant status source run := by
  have policies : c.bare.policies = c.policies := rfl
  unfold reconcileRepairForDrift repairFailureStatusForJob buildRepairRunningStatus
    buildRepairFailedStatus buildRepairTimedOutStatus
  simp only [policies, findAutoRepairPolicy_bare, resolveCheckerEnv_bare, buildRepairJobWithEnv_bare,
    lifecycleStatus_bare]
  rfl

end Reads

/-! ## What a pass creates -/

section Creates

variable (c : Cluster) (invariant : Unstructured) (run : CheckRun)

def Outcome.creations (o : Outcome) : List Write := o.writes.filter Write.creates

theorem creations_rbac (serviceAccountName : String) :
    (ensureCheckerRBAC c serviceAccountName).filter Write.creates =
      ensureCheckerRBAC c serviceAccountName := by
  refine List.filter_eq_self.mpr fun w mem => ?_
  obtain rfl | rfl | rfl := mem_ensureCheckerRBAC mem <;> rfl

theorem creations_after (serviceAccountName : String) (o : Outcome) :
    (o.after (ensureCheckerRBAC c serviceAccountName)).creations =
      ensureCheckerRBAC c serviceAccountName ++ o.creations := by
  unfold Outcome.creations Outcome.after
  rw [List.filter_append, creations_rbac]

theorem creations_applyReport (name : String) (status : Fields) :
    (applyReport invariant name status run).creations = [] := by
  unfold applyReport
  split <;> rfl

theorem creations_running (status : Fields) :
    (if shouldPatchCheckerRunningStatus invariant then [Write.patchStatus .built status]
      else []).filter Write.creates = [] := by
  split <;> rfl

theorem creations_checkerJob_bare : (reconcileCheckerJob c.bare invariant.bare run).creations =
    (reconcileCheckerJob c invariant run).creations := by
  have rbac : ensureCheckerRBAC c.bare (checkerServiceAccountName invariant.bare) =
      ensureCheckerRBAC c (checkerServiceAccountName invariant) := rfl
  have jobs : c.bare.jobs (checkerJobName invariant.bare.name run.id) =
      c.jobs (checkerJobName invariant.name run.id) := rfl
  unfold reconcileCheckerJob
  simp only [resolveCheckerEnv_bare, buildCheckerJobWithEnv_bare, jobs]
  rw [rbac, creations_after, creations_after]
  congr 1
  cases c.jobs (checkerJobName invariant.name run.id) with
  | none =>
    simp only
    split
    · rfl
    split
    · rfl
    · unfold Outcome.creations
      rw [List.filter_cons_of_pos (by rfl), List.filter_cons_of_pos (by rfl), creations_running,
        creations_running]
  | some job =>
    simp only
    split
    · rfl
    split
    · rfl
    · unfold Outcome.creations
      rw [creations_running, creations_running]

/-- What a pass creates does not depend on any status. -/
theorem creations_bare : (reconcileJobBackedInvariant c.bare invariant.bare).creations =
    (reconcileJobBackedInvariant c invariant).creations := by
  have now : c.bare.now = c.now := rfl
  have read : ∀ name run, statusFromReportConfigMap c.bare invariant.bare name run =
      statusFromReportConfigMap c invariant name run := fun _ _ => rfl
  have named : invariant.bare.name = invariant.name := rfl
  unfold reconcileJobBackedInvariant
  simp only [now, currentCheckRun_bare, read, reconcileRepairForDrift_bare, named]
  split
  · rfl
  split
  · rfl
  · rw [creations_applyReport, creations_applyReport]
  split
  · rfl
  · exact creations_checkerJob_bare c invariant _
  split
  · split
    · rfl
    · rw [creations_applyReport, creations_applyReport]
  · rw [creations_applyReport, creations_applyReport]

/-- A pass creates first: its statuses come last. -/
def Outcome.CreatesFirst (o : Outcome) : Prop := o.creations <+: o.writes

theorem createsFirst_after (serviceAccountName : String) {o : Outcome} (first : o.CreatesFirst) :
    (o.after (ensureCheckerRBAC c serviceAccountName)).CreatesFirst := by
  unfold Outcome.CreatesFirst
  rw [creations_after]
  exact (List.prefix_append_right_inj _).mpr first

theorem createsFirst_applyReport (name : String) (status : Fields) :
    (applyReport invariant name status run).CreatesFirst := by
  unfold Outcome.CreatesFirst
  rw [creations_applyReport]
  exact List.nil_prefix

theorem createsFirst_fail (e : Error) : (Outcome.fail e).CreatesFirst := List.nil_prefix

theorem createsFirst_patch (status : Fields) (result : Except Error Requeue) :
    Outcome.CreatesFirst ⟨[.patchStatus .built status], result⟩ := List.nil_prefix

/-- A created Job, and then statuses. -/
theorem createsFirst_job (job : Job) {patches : List Write} (none : patches.filter Write.creates = [])
    (result : Except Error Requeue) : Outcome.CreatesFirst ⟨.createJob job :: patches, result⟩ := by
  unfold Outcome.CreatesFirst Outcome.creations
  rw [List.filter_cons_of_pos (by rfl), none]
  exact ⟨patches, rfl⟩

theorem createsFirst_checkerJob : (reconcileCheckerJob c invariant run).CreatesFirst := by
  unfold reconcileCheckerJob
  refine createsFirst_after c _ ?_
  split
  · split
    · exact createsFirst_fail _
    split
    · exact createsFirst_fail _
    · exact createsFirst_job _ (creations_running _ _) _
  · split
    · exact createsFirst_patch _ _
    split
    · exact createsFirst_patch _ _
    · unfold Outcome.CreatesFirst Outcome.creations
      rw [creations_running]
      exact List.nil_prefix

theorem createsFirst_repairForDrift {status : Fields} {source : String} {outcome : Outcome}
    (repair : reconcileRepairForDrift c invariant status source run = some outcome) :
    outcome.CreatesFirst := by
  unfold reconcileRepairForDrift at repair
  split at repair
  · rw [← Option.some.inj repair]
    exact createsFirst_fail _
  · cases repair
  rw [← Option.some.inj repair]
  refine createsFirst_after c _ ?_
  split
  · split
    · exact createsFirst_fail _
    split
    · exact createsFirst_fail _
    · exact createsFirst_job _ (by rfl) _
  · split
    · exact createsFirst_patch _ _
    split <;> exact createsFirst_patch _ _

theorem reconcile_createsFirst : (reconcileJobBackedInvariant c invariant).CreatesFirst := by
  have branches : ∀ {o}, Branch c invariant o → o.CreatesFirst := by
    intro o branch
    cases branch with
    | noRun e => exact createsFirst_fail e
    | unreadable run duty e => exact createsFirst_fail e
    | repaired run status => exact createsFirst_applyReport invariant run _ status
    | unreported run => exact createsFirst_checkerJob c invariant run
    | repairing run status outcome hrun unrepaired read drift repair =>
      exact createsFirst_repairForDrift c invariant run repair
    | reported run status => exact createsFirst_applyReport invariant run _ status
  exact branches (reconcile_branch c invariant)

end Creates

/-! ## The view -/

section View

variable {c t : Cluster}

theorem withoutStatus_set_status (object : Fields) (value : Json) :
    withoutStatus (object.set "status" value) = withoutStatus object := by
  unfold withoutStatus Fields.set
  rw [List.filter_cons_of_neg (by simp), List.filter_filter]
  simp only [Bool.and_self]

theorem withoutStatus_set_spec (object : Fields) (value : Json) :
    withoutStatus (object.set "spec" value) = (withoutStatus object).set "spec" value := by
  unfold withoutStatus Fields.set
  rw [List.filter_cons_of_pos (by simp), List.filter_filter, List.filter_filter]
  simp only [Bool.and_comm]

theorem bare_found {name : String} {invariant : Unstructured}
    (found : c.invariant name = some invariant) : c.bare.invariant name = some invariant.bare := by
  obtain ⟨r, hr, rfl⟩ := Option.map_eq_some_iff.mp found
  unfold Cluster.invariant Cluster.bare
  simp only [hr, Option.map_some]
  rfl

theorem bare_update (c : Cluster) (name : String) (r : Option Resource) :
    Cluster.bare { c with invariants := Function.update c.invariants name r } =
      { c.bare with invariants := Function.update c.bare.invariants name (r.map Resource.bare) } :=
  congrArg (fun invariants => { c with invariants := invariants })
    (Function.comp_update (Option.map Resource.bare) c.invariants name r)

theorem bare_setInvariant (c : Cluster) (name : String) (r : Resource) :
    (c.setInvariant name r).bare = c.bare.setInvariant name r.bare := bare_update c name (some r)

/-- A created object is created in the view as well, a patch is not seen. -/
theorem bare_apply (c : Cluster) (name : String) (w : Write) :
    (c.apply name w).bare = if w.creates then c.bare.apply name w else c.bare := by
  cases w with
  | patchStatus origin status =>
    rw [if_neg (by simp [Write.creates])]
    simp only [Cluster.apply]
    split
    · rename_i r found
      rw [bare_setInvariant]
      have patched : (r.patchStatus status).bare = r.bare := by
        unfold Resource.patchStatus Resource.bare
        rw [withoutStatus_set_status]
      rw [patched]
      have kept : c.bare.invariants name = some r.bare := congrArg (Option.map Resource.bare) found
      unfold Cluster.setInvariant
      rw [← kept, Function.update_eq_self]
    · rfl
  | _ => rfl

theorem bare_applyAll (c : Cluster) (name : String) (writes : List Write) :
    (c.applyAll name writes).bare = c.bare.applyAll name (writes.filter Write.creates) := by
  induction writes generalizing c with
  | nil => rfl
  | cons w writes ih =>
    have step := bare_apply c name w
    unfold Cluster.applyAll at ih ⊢
    rw [List.foldl_cons, ih, step]
    by_cases creates : w.creates = true
    · rw [List.filter_cons_of_pos creates, if_pos creates]
      rfl
    · rw [List.filter_cons_of_neg creates, if_neg creates]

theorem bare_pass {name : String} {invariant : Unstructured} {writes : List Write}
    (found : c.invariant name = some invariant) (mode : checkerMode invariant = "job")
    (made : writes <+: (reconcileJobBackedInvariant c invariant).writes) :
    Step c.bare (.reconcile name (writes.filter Write.creates)) (c.applyAll name writes).bare := by
  rw [bare_applyAll]
  refine .reconcile c.bare name invariant.bare _ (bare_found found) mode ?_
  have created : writes.filter Write.creates <+: (reconcileJobBackedInvariant c invariant).creations :=
    made.filter _
  rw [← creations_bare] at created
  exact created.trans (reconcile_createsFirst c.bare invariant.bare)

theorem bare_step {e : Event} (step : Step c e t) (around : e.isReconcile = false) :
    Step c.bare e t.bare := by
  cases step with
  | reconcile => cases around
  | work name job calls scan found running =>
    have same : (c.work job calls scan).bare = c.bare.work job calls scan := by
      unfold Cluster.work
      have maps : c.bare.configMaps = c.configMaps := rfl
      rw [maps]
      split <;> rfl
    rw [same]
    exact .work c.bare name job calls scan found running
  | finish name job condition found running => exact .finish c.bare name job condition found running
  | expire name job finishedAt found finished elapsed =>
    exact .expire c.bare name job finishedAt found finished elapsed
  | collect name job found orphan =>
    refine .collect c.bare name job found ?_
    intro owner mem r stored
    obtain ⟨r', stored', rfl⟩ := Option.map_eq_some_iff.mp stored
    exact orphan owner mem r' stored'
  | updateSpec name r spec found counted =>
    have same : (r.respecify spec).bare = r.bare.respecify spec := by
      unfold Resource.respecify Resource.bare
      rw [withoutStatus_set_spec]
    rw [bare_setInvariant, same]
    exact .updateSpec c.bare name r.bare spec (by simp [Cluster.bare, found]) counted
  | annotate name r annotations found =>
    rw [bare_setInvariant]
    exact .annotate c.bare name r.bare annotations (by simp [Cluster.bare, found])
  | setPolicies policies => exact .setPolicies c.bare policies
  | setTopology derivedViews dataSources => exact .setTopology c.bare derivedViews dataSources
  | tick elapsed => exact .tick c.bare elapsed
  | create name annotations spec absent =>
    have same : (c.create name annotations spec).bare = c.bare.create name annotations spec := by
      unfold Cluster.create
      have set := bare_setInvariant c name ⟨c.nextUid, 1, annotations, [("spec", .obj spec)]⟩
      exact congrArg (fun d : Cluster => { d with nextUid := c.nextUid + 1 }) set
    rw [same]
    exact .create c.bare name annotations spec (by simp [Cluster.bare, absent])
  | delete name =>
    rw [bare_update]
    exact .delete c.bare name

end View

/-! ## A change of mode -/

/-- An Invariant that was declared healthy before its mode changed. -/
def declaredInvariant (annotations : List (String × String)) : Unstructured where
  uid := 0
  generation := 1
  annotations := annotations
  object := [("spec", .obj (typeSpec "aggregate"))]
  ns := "default"
  name := "orders"

def declaredStatus : Fields :=
  match buildSyntheticInvariantStatus (declaredInvariant []) 0 with
  | .ok status => status
  | .error _ => []

theorem declaredStatus_built :
    buildSyntheticInvariantStatus (declaredInvariant []) 0 = .ok declaredStatus := rfl

def newlyDeclared : Cluster := (Cluster.empty "default").create "orders" [] (typeSpec "aggregate")

def declaredHealthy : Cluster := newlyDeclared.applyAll "orders" [.patchStatus .built declaredStatus]

def switchedInvariant : Unstructured :=
  { (newResource "aggregate" 0).patchStatus declaredStatus with
    ns := "default"
    name := "orders" }

def switched : Cluster := declaredHealthy.setInvariant "orders" switchedInvariant.toResource

def switchedWrites : List Write :=
  [.createServiceAccount "dataguard-checker", .createRole "dataguard-checker",
    .createRoleBinding "dataguard-checker", .createJob (firstJob "default" "orders" "aggregate" 0)]

def switchedChecking : Cluster := switched.applyAll "orders" switchedWrites

theorem setInvariant_self (c : Cluster) (name : String) (r : Resource) :
    (c.setInvariant name r).invariants name = some r := Function.update_self _ _ _

theorem created_self (c : Cluster) (name : String) (annotations : List (String × String))
    (spec : Fields) : (c.create name annotations spec).invariants name =
      some ⟨c.nextUid, 1, annotations, [("spec", .obj spec)]⟩ := Function.update_self _ _ _

theorem newlyDeclared_invariants :
    newlyDeclared.invariants "orders" = some (declaredInvariant []).toResource := by
  rw [newlyDeclared, created_self]
  rfl

theorem declaredHealthy_invariants : declaredHealthy.invariants "orders" =
    some ((declaredInvariant []).toResource.patchStatus declaredStatus) :=
  applyAll_patched newlyDeclared_invariants .built declaredStatus

theorem declared_pass :
    ModeStep newlyDeclared (.pass "orders" [.patchStatus .built declaredStatus]) declaredHealthy := by
  have found : newlyDeclared.invariant "orders" = some (declaredInvariant []) := by
    unfold Cluster.invariant
    rw [newlyDeclared_invariants]
    rfl
  exact .pass _ _ _ _ found ⟨[], rfl⟩

theorem switched_step : ModeStep declaredHealthy (.other (.annotate "orders" jobMode)) switched :=
  .other _ _ _ (.annotate _ _ _ _ declaredHealthy_invariants) rfl

theorem switched_frame : switched.ns = "default" ∧ switched.now = 0 ∧
    switched.configMaps = fun _ => none := by
  obtain ⟨maps, -, now, -, ns⟩ :=
    applyAll_frame newlyDeclared "orders" [.patchStatus .built declaredStatus]
  exact ⟨ns, now, maps⟩

theorem switched_invariant : switched.invariant "orders" = some switchedInvariant := by
  have stored : switched.invariants "orders" = some switchedInvariant.toResource := by
    rw [switched, setInvariant_self]
  unfold Cluster.invariant
  rw [stored, switched_frame.1]
  rfl

theorem switched_checks : ModeStep switched (.pass "orders" switchedWrites) switchedChecking := by
  refine .pass _ _ _ _ switched_invariant ⟨[], ?_⟩
  rfl

/-! ## Runs of both modes -/

/-- What is left of a moment: a pass in job mode without its statuses, or what
happened around the passes. -/
def jobMoment : Cluster × ModeEvent → Option (Cluster × Event)
  | (c, .pass name writes) =>
    if (c.invariant name).any fun invariant => checkerMode invariant == "job" then
      some (c.bare, .reconcile name (writes.filter Write.creates))
    else none
  | (c, .other e) => some (c.bare, e)

/-- A pass in the other mode only patches. -/
theorem synthetic_creations {c : Cluster} {invariant : Unstructured} {writes : List Write}
    (mode : checkerMode invariant ≠ "job") (made : writes <+: (reconcile c invariant).writes) :
    writes.filter Write.creates = [] := by
  have none : (reconcile c invariant).creations = [] := by
    unfold reconcile
    rw [if_neg mode]
    split <;> rfl
  have created : writes.filter Write.creates <+: (reconcile c invariant).creations := made.filter _
  rw [none] at created
  exact List.prefix_nil.mp created

section Runs

variable {history : ModePast} {c : Cluster}

/-- Without the statuses, a run of both modes is a run of job mode alone: the same
Jobs, reports and service accounts, made by the same steps. -/
theorem modes_run_bare (run : Run Fresh (Recorded ModeStep) history c) :
    Run Fresh (Recorded Step) (history.filterMap jobMoment) c.bare := by
  refine run.viewed ?_ ?_
  · intro s fresh
    exact ⟨fun name => congrArg (Option.map Resource.bare) (fresh.invariants name), fresh.jobs,
      fresh.configMaps, fresh.policies⟩
  · rintro s ⟨_, e⟩ t ⟨rfl, step⟩
    cases step with
    | pass name invariant writes found made =>
      unfold jobMoment
      simp only [found, Option.any_some, beq_iff_eq]
      by_cases mode : checkerMode invariant = "job"
      · simp only [mode, if_true]
        unfold reconcile at made
        rw [if_pos mode] at made
        exact ⟨rfl, bare_pass found mode made⟩
      · simp only [mode, if_false]
        rw [bare_applyAll, synthetic_creations mode made]
        rfl
    | other e t step around => exact ⟨rfl, bare_step step around⟩

end Runs

theorem declaredHealthy_run : ∃ history, Run Fresh (Recorded ModeStep) history declaredHealthy :=
  ⟨_, ((Run.start (Cluster.fresh_empty "default")).record
    (.other _ _ _ (.create _ "orders" [] (typeSpec "aggregate") rfl) rfl)).record declared_pass⟩

/-- Declared healthy, and checked after the mode changed. -/
theorem modes_run_bare_switched : ∃ history, Run Fresh (Recorded ModeStep) history switchedChecking ∧
    Run Fresh (Recorded Step) (history.filterMap jobMoment) switchedChecking.bare := by
  obtain ⟨history, declared⟩ := declaredHealthy_run
  have run := (declared.record switched_step).record switched_checks
  exact ⟨_, run, modes_run_bare run⟩

/-! ## Health in both modes -/

/-- Where a healthy status comes from: a report, as in job mode, or a pass without
a checker over an Invariant whose annotation counts no drift. -/
inductive HealthFrom (history : ModePast) (name : String) (uid : Uid) (status : Fields) : Prop
  | reported (writes : List Write) (earlier : ModePast) (c : Cluster) (invariant : Unstructured)
      (checkRun : CheckRun) (source : String) (configMap : ConfigMap) (report : Fields) (job : Job)
      (calls : WorkerCalls) (scan : ScanWorld)
      (event : (c, .pass name writes) :: earlier <:+ history)
      (found : c.invariant name = some invariant) (object : invariant.uid = uid)
      (mode : checkerMode invariant = "job")
      (current : currentCheckRun invariant c.now = .ok checkRun)
      (read : ReportFor c invariant.generation checkRun.id source configMap report)
      (enriched : status = enrichScheduledStatus report c.now checkRun)
      (published : PublishedBy (earlier.filterMap jobMoment) source configMap job calls scan)
      (backed : ∃ drift after, Backed calls job.args scan drift after)
  | declared (writes : List Write) (earlier : ModePast) (c : Cluster) (invariant : Unstructured)
      (event : (c, .pass name writes) :: earlier <:+ history)
      (found : c.invariant name = some invariant) (object : invariant.uid = uid)
      (mode : checkerMode invariant ≠ "job")
      (built : buildSyntheticInvariantStatus invariant c.now = .ok status)
      (none : syntheticDriftCount invariant = .ok 0)

def HealthKnown (history : ModePast) (name : String) (uid : Uid) (status : Fields) : Prop :=
  HealthAgrees status ∧
    (boolField status "healthy" = some true → HealthFrom history name uid status)

theorem HealthKnown.later {history : ModePast} {name : String} {uid : Uid} {status : Fields}
    (h : HealthKnown history name uid status) (moment : Cluster × ModeEvent) :
    HealthKnown (moment :: history) name uid status := by
  obtain ⟨agrees, known⟩ := h
  refine ⟨agrees, fun healthy => ?_⟩
  cases known healthy with
  | reported writes earlier c invariant checkRun source configMap report job calls scan event found
      object mode current read enriched published backed =>
    exact .reported writes earlier c invariant checkRun source configMap report job calls scan
      (event.trans (List.suffix_cons moment history)) found object mode current read enriched
      published backed
  | declared writes earlier c invariant event found object mode built none =>
    exact .declared writes earlier c invariant (event.trans (List.suffix_cons moment history)) found
      object mode built none

section Synthetic

variable {invariant : Unstructured} {now : Int} {status : Fields}

theorem synthetic_agrees (h : buildSyntheticInvariantStatus invariant now = .ok status) :
    HealthAgrees status := by
  obtain ⟨driftCount, counted, tells⟩ := buildSyntheticInvariantStatus_tells h
  have nonneg := syntheticDriftCount_nonneg counted
  unfold HealthAgrees
  rw [tells.health, tells.phase]
  by_cases drift : 0 < driftCount
  · rw [if_pos drift]
    simp [Phase.text, drift.ne']
  · rw [if_neg drift]
    simp [Phase.text, le_antisymm (not_lt.mp drift) nonneg]

end Synthetic

/-- How the status of an Invariant came to be what it is after a step. -/
inductive StatusEvolved (c : Cluster) (e : ModeEvent) (name : String) (r' : Resource) : Prop
  | kept (r : Resource) (before : c.invariants name = some r) (uid : r'.uid = r.uid)
      (status : r'.status = r.status)
  | patched (invariant : Unstructured) (writes : List Write) (origin : Origin) (status : Fields)
      (event : e = .pass name writes) (found : c.invariant name = some invariant)
      (uid : r'.uid = invariant.uid) (made : .patchStatus origin status ∈ (reconcile c invariant).writes)
      (status : r'.status = some status)
  | none (status : r'.status = none)

section Health

variable {history : ModePast} {c t : Cluster} {e : ModeEvent} {name : String}

theorem modeStep_status (step : ModeStep c e t) {r' : Resource} (h : t.invariants name = some r') :
    StatusEvolved c e name r' := by
  cases step with
  | pass k invariant writes found made =>
    obtain ⟨stored, -⟩ := invariant_some found
    by_cases same : name = k
    · subst same
      obtain ⟨r₁, h₁, hsame, status⟩ := applyAll_invariant writes stored
      rw [h] at h₁
      obtain rfl := Option.some.inj h₁
      obtain kept | ⟨origin, status, mem, patched⟩ := status
      · exact .kept _ stored hsame.uid kept
      · exact .patched invariant writes origin status rfl found hsame.uid (made.subset mem) patched
    · rw [applyAll_other same] at h
      exact .kept r' h rfl rfl
  | other e t step around =>
    cases step_invariant step h with
    | kept r before same status => exact .kept r before same.uid status
    | patched r writes origin status before same event =>
      rw [event] at around
      cases around
    | respecified r before uid generation counted status => exact .kept r before uid status
    | created annotations spec before event uid generation none => exact .none none

/-- What a pass patches says where its health comes from. -/
theorem patched_known (run : Run Fresh (Recorded ModeStep) history c) {invariant : Unstructured}
    {writes : List Write} {origin : Origin} {status : Fields}
    (found : c.invariant name = some invariant)
    (patched : .patchStatus origin status ∈ (reconcile c invariant).writes) :
    HealthKnown ((c, .pass name writes) :: history) name invariant.uid status := by
  unfold reconcile at patched
  by_cases mode : checkerMode invariant = "job"
  · rw [if_pos mode] at patched
    cases reconcile_writes c invariant _ patched with
    | built status unhealthy =>
      refine ⟨unhealthy.agrees, fun healthy => ?_⟩
      rw [unhealthy.1] at healthy
      cases healthy
    | copied checkRun source status current sourced read =>
      have reached := modes_run_bare run
      obtain ⟨configMap, report, reportFor, rfl⟩ :=
        statusFromReportConfigMap_some (currentCheckRun_ne_empty current) read
      obtain ⟨job, calls, scan, published⟩ := configMap_publishedBy reached reportFor.stored
      obtain ⟨-, -, agrees, backed⟩ := published.report reached reportFor.decoded
      refine ⟨healthAgrees_enriched agrees _ _, fun healthy => ?_⟩
      have flag : boolField report "healthy" = some true := by
        unfold boolField at healthy ⊢
        rwa [get?_enrichScheduledStatus _ _ _ (by decide)] at healthy
      exact .reported writes history c invariant checkRun source configMap report job calls scan
        (List.suffix_refl _) found rfl mode current reportFor rfl published (backed flag)
  · rw [if_neg mode] at patched
    cases built : buildSyntheticInvariantStatus invariant c.now with
    | error e =>
      rw [built] at patched
      cases patched
    | ok status' =>
      rw [built] at patched
      obtain ⟨rfl, rfl⟩ : origin = .built ∧ status = status' := by simpa using patched
      refine ⟨synthetic_agrees built, fun healthy => ?_⟩
      obtain ⟨driftCount, counted, tells⟩ := buildSyntheticInvariantStatus_tells built
      have zero : driftCount = 0 :=
        of_decide_eq_true (Option.some.inj (tells.health.symm.trans healthy))
      exact .declared writes history c invariant (List.suffix_refl _) found rfl mode built
        (zero ▸ counted)

/-- With both modes in use a stored status is healthy exactly when its phase is
Healthy, and a healthy one was copied from a report with a complete check behind
it or made while the annotation counted no drift. -/
theorem modes_health (run : Run Fresh (Recorded ModeStep) history c) {r : Resource} {status : Fields}
    (h : c.invariants name = some r) (current : r.status = some status) :
    (boolField status "healthy" = some true ↔ stringField status "phase" = some "Healthy") ∧
      (boolField status "healthy" = some true → HealthFrom history name r.uid status) := by
  have all : ∀ name r status, c.invariants name = some r → r.status = some status →
      HealthKnown history name r.uid status := by
    refine run.recorded_invariant (I := fun history c => ∀ name r status,
      c.invariants name = some r → r.status = some status → HealthKnown history name r.uid status)
      ?_ ?_
    · intro c fresh name r status h
      rw [fresh.invariants name] at h
      cases h
    · intro history c e t run ih step name r' status h' current
      cases modeStep_status step h' with
      | kept r before uid kept =>
        rw [uid]
        exact (ih name r status before (kept ▸ current)).later (c, e)
      | patched invariant writes origin patch event found uid made patched =>
        rw [current] at patched
        obtain rfl := Option.some.inj patched
        rw [event, uid]
        exact patched_known run found made
      | none none =>
        rw [none] at current
        cases current
  exact all name r status h current

end Health

theorem modes_health_declared : ∃ history r, Run Fresh (Recorded ModeStep) history declaredHealthy ∧
    declaredHealthy.invariants "orders" = some r ∧ r.status = some declaredStatus ∧
    boolField declaredStatus "healthy" = some true ∧
    HealthFrom history "orders" r.uid declaredStatus := by
  obtain ⟨history, run⟩ := declaredHealthy_run
  have shown := Resource.status_patchStatus (declaredInvariant []).toResource declaredStatus
  exact ⟨history, _, run, declaredHealthy_invariants, shown, rfl,
    (modes_health run declaredHealthy_invariants shown).2 rfl⟩

end KubeDataGuard
