import Mathlib.Logic.Function.Basic
import KubeDataGuard.General.Runs
import KubeDataGuard.Operator.Reconcile

/-!
# The namespace as a transition system

Reconciles, workers and what Kubernetes and its users do around them. A
reconcile reads at one instant and makes its writes, or the first of them when
one fails. A worker's publication lands while its Job is unfinished.
-/

namespace KubeDataGuard

open Runs

inductive Event
  | reconcile (name : String) (writes : List Write)
  | work (job : String) (calls : WorkerCalls) (scan : ScanWorld)
  | finish (job : String) (condition : JobCondition)
  | expire (job : String)
  | collect (job : String)
  | updateSpec (name : String) (spec : Fields)
  | annotate (name : String) (annotations : List (String × String))
  | setPolicies (policies : List Unstructured)
  | setTopology (derivedViews dataSources : String → Option Resource)
  | tick (elapsed : Nat)
  | create (name : String) (annotations : List (String × String)) (spec : Fields)
  | delete (name : String)

def checkerMode (invariant : Unstructured) : String := invariant.annotation "dataguard.io/checker-mode"

/-- `patchInvariantStatus`: the status subresource becomes the given one. -/
def Resource.patchStatus (r : Resource) (status : Fields) : Resource :=
  { r with object := r.object.set "status" (.obj status) }

namespace Cluster

variable (c : Cluster)

def setInvariant (name : String) (r : Resource) : Cluster :=
  { c with invariants := Function.update c.invariants name (some r) }

def setJob (name : String) (job : Job) : Cluster :=
  { c with jobs := Function.update c.jobs name (some job) }

def removeJob (name : String) : Cluster := { c with jobs := Function.update c.jobs name none }

/-- One write of a pass over the Invariant `name`. -/
def apply (name : String) : Write → Cluster
  | .createServiceAccount sa => { c with serviceAccounts := sa :: c.serviceAccounts }
  | .createRole role => { c with roles := role :: c.roles }
  | .createRoleBinding binding => { c with roleBindings := binding :: c.roleBindings }
  | .createJob job => c.setJob job.name job
  | .patchStatus _ status =>
    match c.invariants name with
    | some r => c.setInvariant name (r.patchStatus status)
    | none => c

def applyAll (name : String) (writes : List Write) : Cluster :=
  writes.foldl (fun c w => c.apply name w) c

/-- A Job's worker runs; what it published is stored. -/
def work (job : Job) (calls : WorkerCalls) (scan : ScanWorld) : Cluster :=
  match (runJob calls job.args c.configMaps scan).2.published with
  | some configMap =>
    { c with configMaps := Function.update c.configMaps job.args.configMap (some configMap) }
  | none => c

/-- An Invariant as the API server first stores it: without a status. -/
def create (name : String) (annotations : List (String × String)) (spec : Fields) : Cluster :=
  { c.setInvariant name ⟨c.nextUid, 1, annotations, [("spec", .obj spec)]⟩ with
    nextUid := c.nextUid + 1 }

end Cluster

def Resource.respecify (r : Resource) (spec : Fields) : Resource :=
  { r with
    generation := r.generation + 1
    object := r.object.set "spec" (.obj spec) }

inductive Step : Cluster → Event → Cluster → Prop
  | reconcile (c : Cluster) (name : String) (invariant : Unstructured) (writes : List Write)
      (found : c.invariant name = some invariant) (mode : checkerMode invariant = "job")
      (made : writes <+: (reconcileJobBackedInvariant c invariant).writes) :
      Step c (.reconcile name writes) (c.applyAll name writes)
  | work (c : Cluster) (name : String) (job : Job) (calls : WorkerCalls) (scan : ScanWorld)
      (found : c.jobs name = some job) (running : job.finishedAt = none) :
      Step c (.work name calls scan) (c.work job calls scan)
  | finish (c : Cluster) (name : String) (job : Job) (condition : JobCondition)
      (found : c.jobs name = some job) (running : job.finishedAt = none) :
      Step c (.finish name condition)
        (c.setJob name { job with conditions := [condition], finishedAt := some c.now })
  | expire (c : Cluster) (name : String) (job : Job) (finishedAt : Int)
      (found : c.jobs name = some job) (finished : job.finishedAt = some finishedAt)
      (elapsed : finishedAt + job.ttlSecondsAfterFinished * 1000000000 ≤ c.now) :
      Step c (.expire name) (c.removeJob name)
  | collect (c : Cluster) (name : String) (job : Job) (found : c.jobs name = some job)
      (orphan : ∀ owner ∈ job.ownerReferences, ∀ r, c.invariants owner.name = some r →
        r.uid ≠ owner.uid) :
      Step c (.collect name) (c.removeJob name)
  -- the API server counts generations in an `int64`
  | updateSpec (c : Cluster) (name : String) (r : Resource) (spec : Fields)
      (found : c.invariants name = some r) (counted : inInt64 (r.generation + 1) = true) :
      Step c (.updateSpec name spec) (c.setInvariant name (r.respecify spec))
  | annotate (c : Cluster) (name : String) (r : Resource) (annotations : List (String × String))
      (found : c.invariants name = some r) :
      Step c (.annotate name annotations) (c.setInvariant name { r with annotations := annotations })
  | setPolicies (c : Cluster) (policies : List Unstructured) :
      Step c (.setPolicies policies) { c with policies := policies.filterMap admitRepairPolicy }
  | setTopology (c : Cluster) (derivedViews dataSources : String → Option Resource) :
      Step c (.setTopology derivedViews dataSources)
        { c with
          derivedViews := derivedViews
          dataSources := dataSources }
  | tick (c : Cluster) (elapsed : Nat) : Step c (.tick elapsed) { c with now := c.now + elapsed }
  | create (c : Cluster) (name : String) (annotations : List (String × String)) (spec : Fields)
      (absent : c.invariants name = none) :
      Step c (.create name annotations spec) (c.create name annotations spec)
  | delete (c : Cluster) (name : String) :
      Step c (.delete name) { c with invariants := Function.update c.invariants name none }

/-- The steps so far, newest first, each with the state it was taken in. -/
abbrev Past := List (Cluster × Event)

/-- A namespace without Invariants, Jobs, reports or policies, at any time. -/
structure Fresh (c : Cluster) : Prop where
  invariants : ∀ name, c.invariants name = none
  jobs : ∀ name, c.jobs name = none
  configMaps : ∀ name, c.configMaps name = none
  policies : c.policies = []

/-! ## What a step leaves -/

def Resource.status (r : Resource) : Option Fields :=
  match nestedMap r.object ["status"] with
  | .ok status => status
  | .error _ => none

/-- The object is the same up to its status and its annotations. -/
structure Resource.Same (r r' : Resource) : Prop where
  uid : r'.uid = r.uid
  generation : r'.generation = r.generation
  spec : ∀ {α : Type} (pick : Json → Option α) (fields : List String),
    nestedAs pick r'.object ("spec" :: fields) = nestedAs pick r.object ("spec" :: fields)

theorem Resource.Same.refl (r : Resource) : r.Same r := ⟨rfl, rfl, fun _ _ => rfl⟩

theorem Resource.Same.trans {r s t : Resource} (h : r.Same s) (h' : s.Same t) : r.Same t :=
  ⟨h'.uid.trans h.uid, h'.generation.trans h.generation,
    fun pick fields => (h'.spec pick fields).trans (h.spec pick fields)⟩

theorem Resource.same_patchStatus (r : Resource) (status : Fields) : r.Same (r.patchStatus status) :=
  ⟨rfl, rfl, fun pick fields => nestedAs_set_ne pick r.object fields _ (by decide)⟩

theorem Resource.status_patchStatus (r : Resource) (status : Fields) :
    (r.patchStatus status).status = some status := by
  simp [Resource.status, Resource.patchStatus, nestedMap, nestedAs, nestedField]

theorem Resource.status_respecify (r : Resource) (spec : Fields) :
    (r.respecify spec).status = r.status := by
  unfold Resource.status Resource.respecify nestedMap
  rw [nestedAs_set_ne _ _ _ _ (by decide)]

section Apply

variable {c : Cluster} {name : String}

theorem apply_frame (c : Cluster) (name : String) (w : Write) :
    (c.apply name w).configMaps = c.configMaps ∧ (c.apply name w).policies = c.policies ∧
      (c.apply name w).now = c.now ∧ (c.apply name w).nextUid = c.nextUid ∧
      (c.apply name w).ns = c.ns := by
  cases w with
  | patchStatus origin status =>
    simp only [Cluster.apply]
    split <;> exact ⟨rfl, rfl, rfl, rfl, rfl⟩
  | _ => exact ⟨rfl, rfl, rfl, rfl, rfl⟩

theorem applyAll_frame (c : Cluster) (name : String) (writes : List Write) :
    (c.applyAll name writes).configMaps = c.configMaps ∧
      (c.applyAll name writes).policies = c.policies ∧ (c.applyAll name writes).now = c.now ∧
      (c.applyAll name writes).nextUid = c.nextUid ∧ (c.applyAll name writes).ns = c.ns := by
  induction writes generalizing c with
  | nil => exact ⟨rfl, rfl, rfl, rfl, rfl⟩
  | cons w writes ih =>
    obtain ⟨maps, policies, now, uid, ns⟩ := ih (c.apply name w)
    obtain ⟨maps', policies', now', uid', ns'⟩ := apply_frame c name w
    exact ⟨maps.trans maps', policies.trans policies', now.trans now', uid.trans uid', ns.trans ns'⟩

theorem apply_other {name other : String} (ne : other ≠ name) (c : Cluster) (w : Write) :
    (c.apply name w).invariants other = c.invariants other := by
  cases w with
  | patchStatus origin status =>
    simp only [Cluster.apply]
    split
    · exact Function.update_of_ne ne _ _
    · rfl
  | _ => rfl

theorem applyAll_other {other : String} (ne : other ≠ name) (c : Cluster) (writes : List Write) :
    (c.applyAll name writes).invariants other = c.invariants other := by
  induction writes generalizing c with
  | nil => rfl
  | cons w writes ih => exact (ih (c.apply name w)).trans (apply_other ne c w)

/-- The status of the reconciled object is the old one or one of those patched. -/
theorem applyAll_invariant (writes : List Write) {r : Resource}
    (h : c.invariants name = some r) :
    ∃ r', (c.applyAll name writes).invariants name = some r' ∧ r.Same r' ∧
      (r'.status = r.status ∨ ∃ origin status, .patchStatus origin status ∈ writes ∧
        r'.status = some status) := by
  induction writes generalizing c r with
  | nil => exact ⟨r, h, .refl r, Or.inl rfl⟩
  | cons w writes ih =>
    have step : ∃ r₁, (c.apply name w).invariants name = some r₁ ∧ r.Same r₁ ∧
        (r₁.status = r.status ∨ ∃ origin status, w = .patchStatus origin status ∧
          r₁.status = some status) := by
      cases w with
      | patchStatus origin status =>
        refine ⟨r.patchStatus status, ?_, r.same_patchStatus status,
          Or.inr ⟨origin, status, rfl, r.status_patchStatus status⟩⟩
        simp only [Cluster.apply, h]
        exact Function.update_self _ _ _
      | _ => exact ⟨r, h, .refl r, Or.inl rfl⟩
    obtain ⟨r₁, h₁, same₁, status₁⟩ := step
    obtain ⟨r', h', same', status'⟩ := ih h₁
    refine ⟨r', h', same₁.trans same', ?_⟩
    obtain kept | ⟨origin, status, hmem, patched⟩ := status'
    · obtain kept₁ | ⟨origin, status, rfl, patched⟩ := status₁
      · exact Or.inl (kept.trans kept₁)
      · exact Or.inr ⟨origin, status, List.mem_cons_self, kept.trans patched⟩
    · exact Or.inr ⟨origin, status, List.mem_cons_of_mem w hmem, patched⟩

theorem applyAll_patched {r : Resource} (h : c.invariants name = some r) (origin : Origin)
    (status : Fields) : (c.applyAll name [.patchStatus origin status]).invariants name =
      some (r.patchStatus status) := by
  simp only [Cluster.applyAll, List.foldl, Cluster.apply, h]
  exact Function.update_self _ _ _

theorem apply_jobs (c : Cluster) (name : String) (w : Write) (k : String) :
    (c.apply name w).jobs k = c.jobs k ∨
      ∃ job, w = .createJob job ∧ job.name = k ∧ (c.apply name w).jobs k = some job := by
  cases w with
  | createJob job =>
    by_cases same : k = job.name
    · refine Or.inr ⟨job, rfl, same.symm, ?_⟩
      rw [same]
      exact Function.update_self _ _ _
    · exact Or.inl (Function.update_of_ne same _ _)
  | patchStatus origin status =>
    simp only [Cluster.apply]
    split <;> exact Or.inl rfl
  | _ => exact Or.inl rfl

/-- A Job is the one that was there, or one the pass created. -/
theorem applyAll_jobs (c : Cluster) (name : String) (writes : List Write) (k : String) :
    (c.applyAll name writes).jobs k = c.jobs k ∨
      ∃ job, .createJob job ∈ writes ∧ job.name = k ∧
        (c.applyAll name writes).jobs k = some job := by
  induction writes generalizing c with
  | nil => exact Or.inl rfl
  | cons w writes ih =>
    obtain kept | ⟨job, hmem, named, created⟩ := ih (c.apply name w)
    · obtain kept' | ⟨job, rfl, named, created⟩ := apply_jobs c name w k
      · exact Or.inl (kept.trans kept')
      · exact Or.inr ⟨job, List.mem_cons_self, named, kept.trans created⟩
    · exact Or.inr ⟨job, List.mem_cons_of_mem w hmem, named, created⟩

/-- The one Job a pass creates is there afterwards. -/
theorem applyAll_created {job : Job} {writes : List Write} (h : createdJobs writes = [job])
    (c : Cluster) (name : String) : (c.applyAll name writes).jobs job.name = some job := by
  induction writes generalizing c with
  | nil => cases h
  | cons w writes ih =>
    cases w with
    | createJob job' =>
      obtain ⟨rfl, rest⟩ : job' = job ∧ createdJobs writes = [] := List.cons.inj h
      obtain kept | ⟨job₁, created, -⟩ :=
        applyAll_jobs (c.apply name (.createJob job')) name writes job'.name
      · exact kept.trans (Function.update_self _ _ _)
      · have mem := mem_createdJobs.mpr created
        rw [rest] at mem
        cases mem
    | _ => exact ih h _

end Apply

/-! ## Step lemmas -/

/-- How the Invariant stored under a name came to be what it is after a step. -/
inductive Evolved (c : Cluster) (e : Event) (name : String) (r' : Resource) : Prop
  | kept (r : Resource) (before : c.invariants name = some r) (same : r.Same r')
      (status : r'.status = r.status)
  | patched (r : Resource) (writes : List Write) (origin : Origin) (status : Fields)
      (before : c.invariants name = some r) (same : r.Same r') (event : e = .reconcile name writes)
      (made : .patchStatus origin status ∈ writes) (status : r'.status = some status)
  | respecified (r : Resource) (before : c.invariants name = some r) (uid : r'.uid = r.uid)
      (generation : r'.generation = r.generation + 1) (counted : inInt64 r'.generation = true)
      (status : r'.status = r.status)
  | created (annotations : List (String × String)) (spec : Fields)
      (before : c.invariants name = none) (event : e = .create name annotations spec)
      (uid : r'.uid = c.nextUid) (generation : r'.generation = 1) (status : r'.status = none)

/-- What a step does with the Job stored under a name. -/
inductive JobEvolved (c : Cluster) (e : Event) (t : Cluster) (k : String) : Prop
  | kept (same : t.jobs k = c.jobs k)
  | finished (job : Job) (condition : JobCondition) (event : e = .finish k condition)
      (found : c.jobs k = some job) (running : job.finishedAt = none)
      (after : t.jobs k = some { job with conditions := [condition], finishedAt := some c.now })
  | expired (event : e = .expire k) (after : t = c.removeJob k)
  | collected (job : Job) (found : c.jobs k = some job)
      (orphan : ∀ owner ∈ job.ownerReferences, ∀ r, c.invariants owner.name = some r →
        r.uid ≠ owner.uid) (after : t.jobs k = none)
  | created (name : String) (writes : List Write) (job : Job) (event : e = .reconcile name writes)
      (made : .createJob job ∈ writes) (named : job.name = k) (after : t.jobs k = some job)

section StepLemmas

variable {c t : Cluster} {e : Event}

theorem work_cases (c : Cluster) (job : Job) (calls : WorkerCalls) (scan : ScanWorld) (k : String) :
    (c.work job calls scan).configMaps k = c.configMaps k ∨
      ∃ configMap, (runJob calls job.args c.configMaps scan).2.published = some configMap ∧
        job.args.configMap = k ∧ (c.work job calls scan).configMaps k = some configMap := by
  unfold Cluster.work
  split
  · rename_i configMap published
    by_cases same : k = job.args.configMap
    · refine Or.inr ⟨configMap, published, same.symm, ?_⟩
      rw [same]
      exact Function.update_self _ _ _
    · exact Or.inl (Function.update_of_ne same _ _)
  · exact Or.inl rfl

theorem work_frame (c : Cluster) (job : Job) (calls : WorkerCalls) (scan : ScanWorld) :
    (c.work job calls scan).invariants = c.invariants ∧ (c.work job calls scan).jobs = c.jobs ∧
      (c.work job calls scan).policies = c.policies ∧ (c.work job calls scan).now = c.now ∧
      (c.work job calls scan).nextUid = c.nextUid := by
  unfold Cluster.work
  split <;> exact ⟨rfl, rfl, rfl, rfl, rfl⟩

/-- A write of a reconcile is one of a pass over the Invariant as it is. -/
theorem reconcile_write {name : String} {writes : List Write} (h : Step c (.reconcile name writes) t)
    {w : Write} (hw : w ∈ writes) :
    ∃ invariant, c.invariant name = some invariant ∧ WriteOf c invariant w := by
  cases h with
  | reconcile name invariant writes found mode made =>
    exact ⟨invariant, found, reconcile_writes c invariant w (made.subset hw)⟩

theorem invariant_some {name : String} {invariant : Unstructured}
    (h : c.invariant name = some invariant) :
    c.invariants name = some invariant.toResource ∧ invariant.name = name := by
  obtain ⟨r, hr, rfl⟩ := Option.map_eq_some_iff.mp h
  exact ⟨hr, rfl⟩

theorem step_invariant (h : Step c e t) {name : String} {r' : Resource}
    (h' : t.invariants name = some r') : Evolved c e name r' := by
  have unchanged : t.invariants = c.invariants → Evolved c e name r' :=
    fun same => .kept r' (same ▸ h') (.refl r') rfl
  have updated : ∀ {k r}, t.invariants = Function.update c.invariants k (some r) →
      (k = name → Evolved c e name r) → Evolved c e name r' := by
    intro k r hupdate own
    rw [hupdate] at h'
    by_cases same : name = k
    · rw [same, Function.update_self] at h'
      rw [← Option.some.inj h']
      exact own same.symm
    · rw [Function.update_of_ne same] at h'
      exact .kept r' h' (.refl r') rfl
  cases h with
  | reconcile k invariant writes found mode made =>
    by_cases same : name = k
    · subst same
      obtain ⟨r, hr, -⟩ := Option.map_eq_some_iff.mp found
      obtain ⟨r₁, h₁, hsame, status⟩ := applyAll_invariant writes hr
      rw [h'] at h₁
      rw [Option.some.inj h₁]
      obtain kept | ⟨origin, status, hmem, patched⟩ := status
      · exact .kept r hr hsame kept
      · exact .patched r writes origin status hr hsame rfl hmem patched
    · rw [applyAll_other same] at h'
      exact .kept r' h' (.refl r') rfl
  | work k job calls scan => exact unchanged (work_frame c job calls scan).1
  | finish => exact unchanged rfl
  | expire => exact unchanged rfl
  | collect => exact unchanged rfl
  | updateSpec k r spec found counted =>
    refine updated rfl ?_
    rintro rfl
    exact .respecified r found rfl rfl counted (r.status_respecify spec)
  | annotate k r annotations found =>
    refine updated rfl ?_
    rintro rfl
    exact .kept r found ⟨rfl, rfl, fun _ _ => rfl⟩ rfl
  | setPolicies => exact unchanged rfl
  | setTopology => exact unchanged rfl
  | tick => exact unchanged rfl
  | create k annotations spec absent =>
    refine updated rfl ?_
    rintro rfl
    exact .created annotations spec absent rfl rfl rfl rfl
  | delete k =>
    by_cases same : name = k
    · rw [same] at h'
      exact absurd h' (by simp)
    · exact .kept r' ((Function.update_of_ne same _ _).symm.trans h') (.refl r') rfl

/-- An Invariant is the object that was there, or a new one. -/
theorem step_identity (h : Step c e t) {name : String} {r' : Resource}
    (h' : t.invariants name = some r') :
    (∃ r, c.invariants name = some r ∧ r'.uid = r.uid) ∨
      ∃ annotations spec, e = .create name annotations spec ∧ r'.uid = c.nextUid ∧
        c.nextUid < t.nextUid := by
  cases step_invariant h h' with
  | kept r before same => exact Or.inl ⟨r, before, same.uid⟩
  | patched r writes origin status before same => exact Or.inl ⟨r, before, same.uid⟩
  | respecified r before uid => exact Or.inl ⟨r, before, uid⟩
  | created annotations spec before event uid =>
    refine Or.inr ⟨annotations, spec, event, uid, ?_⟩
    subst event
    cases h
    exact Nat.lt_succ_self _

/-- A ConfigMap is the one that was there, or one a worker published. -/
theorem step_configMap (h : Step c e t) (k : String) :
    t.configMaps k = c.configMaps k ∨
      ∃ name job calls scan configMap, e = .work name calls scan ∧ c.jobs name = some job ∧
        job.args.configMap = k ∧
        (runJob calls job.args c.configMaps scan).2.published = some configMap ∧
        t.configMaps k = some configMap := by
  cases h with
  | reconcile name _ writes =>
    rw [(applyAll_frame c name writes).1]
    exact Or.inl rfl
  | work name job calls scan found =>
    obtain kept | ⟨configMap, published, hk, stored⟩ := work_cases c job calls scan k
    · exact Or.inl kept
    · exact Or.inr ⟨name, job, calls, scan, configMap, rfl, found, hk, published, stored⟩
  | _ => exact Or.inl rfl

theorem step_jobs (h : Step c e t) (k : String) : JobEvolved c e t k := by
  cases h with
  | reconcile name _ writes =>
    obtain kept | ⟨job, made, named, created⟩ := applyAll_jobs c name writes k
    · exact .kept kept
    · exact .created name writes job rfl made named created
  | work name job calls scan => exact .kept (congrFun (work_frame c job calls scan).2.1 k)
  | finish name job condition found running =>
    by_cases same : k = name
    · subst same
      exact .finished job condition rfl found running (Function.update_self _ _ _)
    · exact .kept (Function.update_of_ne same _ _)
  | expire name =>
    by_cases same : k = name
    · subst same
      exact .expired rfl rfl
    · exact .kept (Function.update_of_ne same _ _)
  | collect name job found orphan =>
    by_cases same : k = name
    · subst same
      exact .collected job found orphan (Function.update_self _ _ _)
    · exact .kept (Function.update_of_ne same _ _)
  | _ => exact .kept rfl

theorem removeJob_self (c : Cluster) (k : String) : (c.removeJob k).jobs k = none :=
  Function.update_self _ _ _

/-- A Job is one that was there, possibly finished since, or one a pass created. -/
theorem step_job (h : Step c e t) {k : String} {job' : Job} (h' : t.jobs k = some job') :
    (∃ job, c.jobs k = some job ∧ job'.args = job.args ∧
        job'.ownerReferences = job.ownerReferences) ∨
      ∃ name writes, e = .reconcile name writes ∧ .createJob job' ∈ writes ∧ job'.name = k := by
  cases step_jobs h k with
  | kept same => exact Or.inl ⟨job', same ▸ h', rfl, rfl⟩
  | finished job condition _ found _ after =>
    rw [after] at h'
    rw [← Option.some.inj h']
    exact Or.inl ⟨job, found, rfl, rfl⟩
  | expired _ after =>
    rw [after, removeJob_self] at h'
    cases h'
  | collected _ _ _ after =>
    rw [after] at h'
    cases h'
  | created name writes job event made named after =>
    rw [after] at h'
    obtain rfl := Option.some.inj h'
    exact Or.inr ⟨name, writes, event, made, named⟩

theorem step_now (h : Step c e t) : c.now ≤ t.now := by
  cases h with
  | reconcile name _ writes => exact (applyAll_frame c name writes).2.2.1.ge
  | work name job calls scan => exact (work_frame c job calls scan).2.2.2.1.ge
  | tick elapsed => exact le_add_of_nonneg_right (Int.natCast_nonneg elapsed)
  | _ => exact le_refl _

theorem step_nextUid (h : Step c e t) : c.nextUid ≤ t.nextUid := by
  cases h with
  | reconcile name _ writes => exact (applyAll_frame c name writes).2.2.2.1.ge
  | work name job calls scan => exact (work_frame c job calls scan).2.2.2.2.ge
  | create => exact Nat.le_succ _
  | _ => exact le_refl _

end StepLemmas

end KubeDataGuard
