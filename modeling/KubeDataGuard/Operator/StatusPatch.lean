import KubeDataGuard.General.MergePatch
import KubeDataGuard.Operator.ScheduledCheck
import KubeDataGuard.Operator.StatusValues
import KubeDataGuard.Operator.Synthetic

/-!
# Status patches

`patchInvariantStatus` sends what differs between the copy of the Invariant it
has read and the same copy with the new status. No status a pass writes has a
null in it, so on an unchanged object the patch stores exactly that status; on
a newer one it mixes the two, and never with a third value.
-/

namespace KubeDataGuard

open MergePatch

/-! ## Objects as trees -/

mutual

/-- A patch looks into objects only: an array is a leaf. -/
def Json.tree : Json → Tree String Json
  | .null => .null
  | .obj members => .node (memberTree members)
  | value => .leaf value

def memberTree : Fields → String → Option (Tree String Json)
  | [], _ => none
  | (field, value) :: members, key => if key = field then some value.tree else memberTree members key

end

theorem memberTree_eq (members : Fields) (key : String) :
    memberTree members key = (Fields.get? members key).map Json.tree := by
  induction members with
  | nil => rw [memberTree, Fields.get?_nil, Option.map_none]
  | cons entry members ih =>
    obtain ⟨field, value⟩ := entry
    rw [memberTree, Fields.get?_cons, ih]
    split <;> rfl

theorem tree_obj (members : Fields) :
    (Json.obj members).tree = .node fun key => (Fields.get? members key).map Json.tree := by
  rw [Json.tree]
  congr 1
  funext key
  exact memberTree_eq members key

/-! ## Statuses without nulls -/

/-- No member of the object is null, at any depth. -/
def Filled (members : Fields) : Prop := (Json.obj members).tree.NullFree

theorem filled_iff {members : Fields} :
    Filled members ↔ ∀ key value, Fields.get? members key = some value → value.tree.NullFree := by
  unfold Filled
  rw [tree_obj]
  constructor
  · intro filled key value held
    exact filled.member (k := key) (by rw [held, Option.map_some])
  · intro filled
    refine .node _ fun key t mem => ?_
    obtain ⟨value, held, rfl⟩ := Option.map_eq_some_iff.mp mem
    exact filled key value held

theorem filled_nil : Filled [] := filled_iff.mpr nofun

theorem filled_cons {members : Fields} (key : String) {value : Json} (head : value.tree.NullFree)
    (tail : Filled members) : Filled ((key, value) :: members) := by
  refine filled_iff.mpr fun k v held => ?_
  rw [Fields.get?_cons] at held
  split at held
  · obtain rfl := Option.some.inj held
    exact head
  · exact filled_iff.mp tail k v held

theorem filled_members {members : Fields} (values : ∀ e ∈ members, e.2.tree.NullFree) :
    Filled members := by
  induction members with
  | nil => exact filled_nil
  | cons e members ih =>
    exact filled_cons e.1 (values e List.mem_cons_self)
      (ih fun e' mem => values e' (List.mem_cons_of_mem _ mem))

theorem Filled.set {members : Fields} (filled : Filled members) (key : String) {value : Json}
    (head : value.tree.NullFree) : Filled (members.set key value) := by
  refine filled_iff.mpr fun k v held => ?_
  by_cases same : k = key
  · rw [same, Fields.get?_set_self] at held
    obtain rfl := Option.some.inj held
    exact head
  · rw [Fields.get?_set_ne _ _ same] at held
    exact filled_iff.mp filled k v held

theorem nullFree_text (s : String) : (Json.str s).tree.NullFree := .leaf (Json.str s)

theorem nullFree_int (n : Int) : (Json.int n).tree.NullFree := .leaf (Json.int n)

theorem nullFree_bool (b : Bool) : (Json.bool b).tree.NullFree := .leaf (Json.bool b)

mutual

theorem Normal.nullFree : (value : Json) → Normal value → value.tree.NullFree
  | .null, normal => by
    rw [Normal] at normal
    exact normal.elim
  | .obj members, normal => by
    rw [Normal] at normal
    exact NormalMembers.filled members normal
  | .bool b, _ => nullFree_bool b
  | .int n, _ => nullFree_int n
  | .str s, _ => nullFree_text s
  | .decimal text q, _ => .leaf (Json.decimal text q)
  | .float q, _ => .leaf (Json.float q)
  | .arr items, _ => .leaf (Json.arr items)
  | .foreign text, _ => .leaf (Json.foreign text)

theorem NormalMembers.filled : (members : Fields) → NormalMembers members → Filled members
  | [], _ => filled_nil
  | (key, value) :: members, normal =>
    filled_cons key (Normal.nullFree value normal.1) (NormalMembers.filled members normal.2)

end

theorem filled_enriched {status : Fields} (filled : Filled status) (now : Int) (run : CheckRun) :
    Filled (enrichScheduledStatus status now run) := by
  have checked : Filled (if run.id = "" then status else status.set "checkID" (.str run.id)) := by
    split
    · exact filled
    · exact filled.set _ (nullFree_text _)
  simp only [enrichScheduledStatus]
  split
  · exact (checked.set _ (nullFree_int _)).set _ (nullFree_text _)
  · exact checked

theorem filled_decoded {payload : Payload} {status : Fields}
    (decoded : decodeStatusPayload payload = .ok status) : Filled status := by
  unfold decodeStatusPayload at decoded
  split at decoded
  · obtain rfl := Except.ok.inj decoded
    exact NormalMembers.filled _ (normal_members _)
  · obtain rfl := Except.ok.inj decoded
    exact filled_nil
  · cases decoded
  · cases decoded
  · cases decoded

theorem filled_base (invariant : Unstructured) (jobName : String) (l : Lifecycle) :
    Filled (l.base invariant jobName) := by
  refine filled_cons _ (nullFree_bool _) (filled_cons _ (nullFree_text _) (filled_cons _
    (nullFree_text _) (filled_cons _ (nullFree_int _) (filled_cons _ (nullFree_int _)
    (filled_cons _ (nullFree_text _) ?_)))))
  cases l.reason with
  | none => exact filled_nil
  | some reason => exact filled_cons _ (nullFree_text _) filled_nil

theorem filled_lifecycleStatus (invariant : Unstructured) (now : Int) (run : CheckRun)
    (jobName : String) (l : Lifecycle) : Filled (lifecycleStatus invariant now run jobName l) := by
  have completeness :
      ((Fields.get? (l.base invariant jobName) "checkStatus").getD .null).tree.NullFree :=
    nullFree_text l.checkStatus.text
  have checkedAt := nullFree_text (rfc3339 (unix now))
  have window := filled_cons "checkedAt" checkedAt (filled_cons "targetReadAt" checkedAt
    (filled_cons "maxLagSeconds" (nullFree_int (shownMaxLag invariant))
    (filled_cons "eligibleRecordsBefore"
      (nullFree_text (rfc3339 (unix (now + durationSeconds (-shownMaxLag invariant)))))
    (filled_cons "streamTopic" (nullFree_text (streamTopic invariant))
    (filled_cons "completeness" completeness filled_nil)))))
  have guarantee := nullFree_text (guaranteeForInvariantType (invariantType invariant))
  have status := ((((((filled_base invariant jobName l).set "guarantee" guarantee).set
    "checkedRecords" (nullFree_int 0)).set "lastCheckedAt" checkedAt).set "observationWindow"
    window).set "observedGeneration" (nullFree_int invariant.generation)).set "checkID"
    (nullFree_text run.id)
  unfold lifecycleStatus jobLifecycleStatus
  simp only
  split
  · exact (status.set _ (nullFree_int _)).set _ (nullFree_text _)
  · exact status

/-- A status made of an annotation has none either. -/
theorem filled_synthetic {invariant : Unstructured} {now : Int} {status : Fields}
    (built : buildSyntheticInvariantStatus invariant now = .ok status) : Filled status := by
  unfold buildSyntheticInvariantStatus at built
  obtain ⟨driftCount, -, built⟩ := bind_eq_ok built
  obtain ⟨maxLag, -, built⟩ := bind_eq_ok built
  obtain ⟨type, -, built⟩ := bind_eq_ok built
  obtain rfl := Except.ok.inj built
  refine filled_members ?_
  simp only [List.forall_mem_cons, nullFree_text, nullFree_int, nullFree_bool, List.not_mem_nil,
    false_imp_iff, implies_true, and_true, true_and]
  refine filled_members ?_
  simp only [List.forall_mem_cons, nullFree_text, nullFree_int, List.not_mem_nil, false_imp_iff,
    implies_true, and_true]

/-! ## What a pass patches -/

/-- Every status a pass writes: one of its own, which is no verdict, or a report it has read. -/
inductive PatchedBy (c : Cluster) (invariant : Unstructured) : Fields → Prop
  | lifecycle (run : CheckRun) (jobName : String) (l : Lifecycle)
      (undecided : l.phase ≠ .healthy ∧ l.phase ≠ .driftDetected) :
      PatchedBy c invariant (lifecycleStatus invariant c.now run jobName l)
  | report (run : CheckRun) (name : String) (status : Fields) (id : run.id ≠ "")
      (read : statusFromReportConfigMap c invariant name run = .ok (some status)) :
      PatchedBy c invariant status

section Patches

variable {c : Cluster} {invariant : Unstructured} {run : CheckRun} {origin : Origin}
  {status : Fields}

theorem rbac_patches {account : String} {o : Outcome}
    (h : .patchStatus origin status ∈ (o.after (ensureCheckerRBAC c account)).writes) :
    .patchStatus origin status ∈ o.writes := by
  refine (List.mem_append.mp h).resolve_left fun mem => ?_
  obtain same | same | same := mem_ensureCheckerRBAC mem <;> cases same

theorem only_patch {origin' : Origin} {status' : Fields}
    (h : Write.patchStatus origin status ∈ [.patchStatus origin' status']) : status = status' :=
  (Write.patchStatus.inj (List.mem_singleton.mp h)).2

theorem running_patches {jobName : String}
    (h : .patchStatus origin status ∈ if shouldPatchCheckerRunningStatus invariant then
      [Write.patchStatus .built (buildJobRunningStatus invariant c.now run jobName)] else []) :
    PatchedBy c invariant status := by
  split at h
  · rw [only_patch h]
    exact .lifecycle run jobName _ ⟨nofun, nofun⟩
  · cases h

theorem checkerJob_patches
    (h : .patchStatus origin status ∈ (reconcileCheckerJob c invariant run).writes) :
    PatchedBy c invariant status := by
  unfold reconcileCheckerJob at h
  replace h := rbac_patches h
  split at h
  · split at h
    · cases h
    split at h
    · cases h
    obtain same | h := List.mem_cons.mp h
    · cases same
    · exact running_patches h
  split at h
  · rw [only_patch h]
    unfold checkerFailureStatusForJob
    simp only
    split <;> exact .lifecycle run _ _ ⟨nofun, nofun⟩
  split at h
  · rw [only_patch h]
    exact .lifecycle run _ _ ⟨nofun, nofun⟩
  · exact running_patches h

theorem repairForDrift_patches {driftStatus : Fields} {source : String} {outcome : Outcome}
    (repair : reconcileRepairForDrift c invariant driftStatus source run = some outcome)
    (h : .patchStatus origin status ∈ outcome.writes) : PatchedBy c invariant status := by
  unfold reconcileRepairForDrift at repair
  split at repair
  · rw [← Option.some.inj repair] at h
    cases h
  · cases repair
  obtain rfl := Option.some.inj repair
  replace h := rbac_patches h
  split at h
  · split at h
    · cases h
    split at h
    · cases h
    obtain same | h := List.mem_cons.mp h
    · cases same
    · rw [only_patch h]
      exact .lifecycle run _ _ ⟨nofun, nofun⟩
  split at h
  · rw [only_patch h]
    unfold repairFailureStatusForJob
    simp only
    split <;> exact .lifecycle run _ _ ⟨nofun, nofun⟩
  split at h <;> rw [only_patch h] <;> exact .lifecycle run _ _ ⟨nofun, nofun⟩

theorem applyReport_patches {name : String} {report : Fields}
    (hrun : currentCheckRun invariant c.now = .ok run)
    (read : statusFromReportConfigMap c invariant name run = .ok (some report))
    (h : .patchStatus origin status ∈ (applyReport invariant name report run).writes) :
    PatchedBy c invariant status := by
  unfold applyReport at h
  split at h
  · cases h
  · rw [only_patch h]
    exact .report run name report (currentCheckRun_ne_empty hrun) read

theorem reconcile_patches
    (h : .patchStatus origin status ∈ (reconcileJobBackedInvariant c invariant).writes) :
    PatchedBy c invariant status := by
  have branch := reconcile_branch c invariant
  generalize reconcileJobBackedInvariant c invariant = outcome at branch h
  cases branch with
  | noRun e hrun => cases h
  | unreadable run duty e hrun read => cases h
  | repaired run status hrun read => exact applyReport_patches hrun read h
  | unreported run hrun unrepaired absent => exact checkerJob_patches h
  | repairing run status outcome hrun unrepaired read drift repair =>
    exact repairForDrift_patches repair h
  | reported run status hrun unrepaired read calm => exact applyReport_patches hrun read h

theorem PatchedBy.filled (h : PatchedBy c invariant status) : Filled status := by
  cases h with
  | lifecycle run jobName l undecided => exact filled_lifecycleStatus _ _ _ _ _
  | report run name status id read =>
    obtain ⟨configMap, report, reported, rfl⟩ := statusFromReportConfigMap_some id read
    exact filled_enriched (filled_decoded reported.decoded) _ _

/-- No status that `Reconcile` writes has a null in it, in either mode. -/
theorem reconcile_filled (h : .patchStatus origin status ∈ (reconcile c invariant).writes) :
    Filled status := by
  unfold reconcile at h
  split at h
  · exact (reconcile_patches h).filled
  split at h
  · cases h
  · rename_i built
    rw [only_patch h]
    exact filled_synthetic built

end Patches

/-! ## What the patch stores -/

/-- The object with a status patched in: the client sends what `mergeFrom` makes of the
copy it has read and of that copy with the status, and the server merges it. -/
noncomputable def patchInvariantStatus
    (mergeFrom : Tree String Json → Tree String Json → Tree String Json)
    (stored copy status : Fields) : Tree String Json :=
  merge (Json.obj stored).tree
    (mergeFrom (Json.obj copy).tree (Json.obj (copy.set "status" (.obj status))).tree)

section Stored

variable {mergeFrom : Tree String Json → Tree String Json → Tree String Json} {stored copy : Fields}
  {status : Fields}

theorem patchInvariantStatus_eq (sent : ∀ old new, mergeFrom old new = diff old new) :
    patchInvariantStatus mergeFrom stored copy status = .node fun key =>
      mergeMember ((Fields.get? stored key).map Json.tree) (change
        ((Fields.get? copy key).map Json.tree)
        ((Fields.get? (copy.set "status" (.obj status)) key).map Json.tree)) := by
  rw [patchInvariantStatus, sent, tree_obj, tree_obj, tree_obj, diff_node, merge_node,
    Tree.members_node]

/-- Nothing but the status is sent. -/
theorem patched_other (sent : ∀ old new, mergeFrom old new = diff old new) {key : String}
    (other : key ≠ "status") :
    (patchInvariantStatus mergeFrom stored copy status).members key =
      (Json.obj stored).tree.members key := by
  rw [patchInvariantStatus_eq sent, tree_obj, Tree.members_node, Tree.members_node,
    Fields.get?_set_ne _ _ other, change_same, mergeMember]

theorem patched_status (sent : ∀ old new, mergeFrom old new = diff old new) :
    (patchInvariantStatus mergeFrom stored copy status).members "status" =
      mergeMember ((Fields.get? stored "status").map Json.tree) (change
        ((Fields.get? copy "status").map Json.tree) (some (Json.obj status).tree)) := by
  rw [patchInvariantStatus_eq sent, Tree.members_node, Fields.get?_set_self, Option.map_some]

/-- A pass that creates a Job and then says so patches what it says. -/
theorem orders_first_patch {job : Job} {status' : Fields} {requeue : Except Error Requeue}
    (pass : reconcileJobBackedInvariant (orders 0 none noJobs noConfigMaps) (ordersInvariant none) =
      ⟨[.createJob job, .patchStatus .built status'], requeue⟩) :
    .patchStatus .built status' ∈ (reconcile (orders 0 none noJobs noConfigMaps)
      (ordersInvariant none)).writes := by
  have mode := orders_mode none
  rw [reconcile, if_pos mode, pass]
  exact List.mem_cons_of_mem _ (List.mem_singleton_self _)

variable {c : Cluster} {invariant : Unstructured} {origin : Origin}

/-- Whatever else of the object has changed since a pass read it, its patch stores
the status it means, as a whole, when the status has not. -/
theorem status_patch_installs (sent : ∀ old new, mergeFrom old new = diff old new) (r : Resource)
    (write : .patchStatus origin status ∈ (reconcile c invariant).writes)
    (unchanged : Fields.get? r.object "status" = Fields.get? invariant.object "status") :
    patchInvariantStatus mergeFrom r.object invariant.object status =
      (Json.obj (r.patchStatus status).object).tree := by
  have filled : Filled status := reconcile_filled write
  rw [patchInvariantStatus_eq sent, tree_obj]
  congr 1
  funext key
  by_cases same : key = "status"
  · rw [same, unchanged, Fields.get?_set_self, Resource.patchStatus, Fields.get?_set_self]
    refine mergeMember_change fun t installed => ?_
    obtain rfl := Option.some.inj installed
    exact filled
  · rw [Fields.get?_set_ne _ _ same, change_same, mergeMember, Resource.patchStatus,
      Fields.get?_set_ne _ _ same]

/-- The first patch of an Invariant whose spec was written meanwhile. -/
theorem status_patch_installs_first :
    patchInvariantStatus diff ((ordersResource none).respecify ordersSpec).object
        (ordersInvariant none).object (checkerRunning none 0 firstSlot) =
      (Json.obj (((ordersResource none).respecify ordersSpec).patchStatus
        (checkerRunning none 0 firstSlot)).object).tree :=
  status_patch_installs (fun _ _ => rfl) _
    (orders_first_patch (orders_check_pass (orders_first none) rfl rfl rfl rfl)) rfl

/-- On an object whose status has changed since the patch mixes: a path reads as the
pass meant it or as it was stored, the latter only where the pass's copy already read
as meant. -/
theorem stale_patch_reads (sent : ∀ old new, mergeFrom old new = diff old new) (stored : Fields)
    (write : .patchStatus origin status ∈ (reconcile c invariant).writes) :
    (∀ key ≠ "status", (patchInvariantStatus mergeFrom stored invariant.object status).members key =
      (Json.obj stored).tree.members key) ∧
    ∀ path, (patchInvariantStatus mergeFrom stored invariant.object status).read ("status" :: path) =
        (Json.obj status).tree.read path ∨
      (Json.obj invariant.object).tree.read ("status" :: path) = (Json.obj status).tree.read path ∧
        (patchInvariantStatus mergeFrom stored invariant.object status).read ("status" :: path) =
          (Json.obj stored).tree.read ("status" :: path) := by
  have filled : Filled status := reconcile_filled write
  refine ⟨fun key other => patched_other sent other, fun path => ?_⟩
  rw [Tree.read_cons, Tree.read_cons, Tree.read_cons, patched_status sent, tree_obj invariant.object,
    tree_obj stored, Tree.members_node, Tree.members_node]
  have installed : ∀ t, some (Json.obj status).tree = some t → t.NullFree := by
    rintro t ⟨⟩
    exact filled
  exact read_change installed _ path

theorem stale_patch_reads_first :
    (∀ key ≠ "status", (patchInvariantStatus diff (ordersResource (some ordersRunning)).object
        (ordersInvariant none).object (checkerRunning none 0 firstSlot)).members key =
      (Json.obj (ordersResource (some ordersRunning)).object).tree.members key) ∧
    ∀ path, (patchInvariantStatus diff (ordersResource (some ordersRunning)).object
        (ordersInvariant none).object (checkerRunning none 0 firstSlot)).read ("status" :: path) =
        (Json.obj (checkerRunning none 0 firstSlot)).tree.read path ∨
      (Json.obj (ordersInvariant none).object).tree.read ("status" :: path) =
          (Json.obj (checkerRunning none 0 firstSlot)).tree.read path ∧
        (patchInvariantStatus diff (ordersResource (some ordersRunning)).object
          (ordersInvariant none).object (checkerRunning none 0 firstSlot)).read ("status" :: path) =
          (Json.obj (ordersResource (some ordersRunning)).object).tree.read ("status" :: path) :=
  stale_patch_reads (fun _ _ => rfl) _
    (orders_first_patch (orders_check_pass (orders_first none) rfl rfl rfl rfl))

end Stored

end KubeDataGuard
