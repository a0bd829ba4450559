import KubeDataGuard.Operator.Requeue
import KubeDataGuard.Operator.Telemetry

/-!
# A settled report

Once a report is applied, a second pass in the same slot finds it applied: what
the API server hands back of the status is the same to the comparison, whatever
the clock says. Its requeue ends with the slot as long as the time left fits a
`Duration`.
-/

namespace KubeDataGuard

/-! ## Reading a status back -/

mutual

/-- A value as the API server hands it back: a double that is a whole number is
printed without a fraction, and read as an `int64` if it fits. -/
def readBack : Json → Json
  | .obj members => .obj (readBackMembers members)
  | .arr items => .arr (readBackItems items)
  | .float q => if q.den = 1 ∧ inInt64 q.num then .int q.num else .float q
  | value => value

def readBackItems : List Json → List Json
  | [] => []
  | value :: items => readBack value :: readBackItems items

def readBackMembers : List (String × Json) → List (String × Json)
  | [] => []
  | (key, value) :: members => (key, readBack value) :: readBackMembers members

end

theorem get?_readBackMembers (status : Fields) (key : String) :
    Fields.get? (readBackMembers status) key = (Fields.get? status key).map readBack := by
  induction status with
  | nil => rfl
  | cons entry status ih =>
    obtain ⟨k, value⟩ := entry
    rw [readBackMembers, Fields.get?_cons, Fields.get?_cons, ih]
    split <;> rfl

theorem readBack_float (q : ℚ) :
    (readBack (.float q) = .int q.num ∧ truncate64 q = q.num) ∨ readBack (.float q) = .float q := by
  rw [readBack]
  split
  · rename_i whole
    exact Or.inl ⟨rfl, by simp [truncate64, whole.1, whole.2]⟩
  · exact Or.inr rfl

theorem int64Field_readBack (status : Fields) (key : String) :
    int64Field (readBackMembers status) key = int64Field status key := by
  unfold int64Field
  rw [get?_readBackMembers]
  cases Fields.get? status key with
  | none => rfl
  | some value =>
    cases value with
    | float q =>
      rw [Option.map_some]
      rcases readBack_float q with ⟨whole, same⟩ | same
      · simp only [whole, same]
      · rw [same]
    | _ => simp [readBack]

theorem stringField_readBack (status : Fields) (key : String) :
    stringField (readBackMembers status) key = stringField status key := by
  unfold stringField
  rw [get?_readBackMembers]
  cases Fields.get? status key with
  | none => rfl
  | some value =>
    cases value with
    | float q => rcases readBack_float q with ⟨whole, -⟩ | same <;> simp [*]
    | _ => simp [readBack]

theorem boolField_readBack (status : Fields) (key : String) :
    boolField (readBackMembers status) key = boolField status key := by
  unfold boolField
  rw [get?_readBackMembers]
  cases Fields.get? status key with
  | none => rfl
  | some value =>
    cases value with
    | float q => rcases readBack_float q with ⟨whole, -⟩ | same <;> simp [*]
    | _ => simp [readBack]

/-! ## The comparison -/

theorem ComparedEqual.trans {a b d : Fields} (h : ComparedEqual a b) (h' : ComparedEqual b d) :
    ComparedEqual a d :=
  ⟨fun key hk => (h.ints key hk).trans (h'.ints key hk),
    fun key hk => (h.texts key hk).trans (h'.texts key hk), h.healthy.trans h'.healthy⟩

theorem compared_readBack (status : Fields) : ComparedEqual (readBackMembers status) status :=
  ⟨fun key _ => int64Field_readBack status key, fun key _ => stringField_readBack status key,
    boolField_readBack status "healthy"⟩

/-- A report enriched at two times of one run is the same to the comparison. -/
theorem compared_enriched (report : Fields) (now later : Int) {run run' : CheckRun}
    (scheduled : run'.scheduled = run.scheduled)
    (interval : run'.intervalSeconds = run.intervalSeconds) :
    ComparedEqual (enrichScheduledStatus report now run) (enrichScheduledStatus report later run') := by
  have other : ∀ key ∉ ["checkID", "checkIntervalSeconds", "nextCheckAfter"],
      (enrichScheduledStatus report now run).get? key =
        (enrichScheduledStatus report later run').get? key := by
    intro key hk
    rw [get?_enrichScheduledStatus _ _ _ hk, get?_enrichScheduledStatus _ _ _ hk]
  have every : (enrichScheduledStatus report now run).get? "checkIntervalSeconds" =
      (enrichScheduledStatus report later run').get? "checkIntervalSeconds" := by
    unfold enrichScheduledStatus
    rw [scheduled, interval]
    cases run.scheduled with
    | true => simp
    | false =>
      simp only [Bool.false_eq_true, if_false]
      split <;> split <;> simp
  refine ⟨?_, ?_, ?_⟩
  · intro key hk
    unfold int64Field
    by_cases same : key = "checkIntervalSeconds"
    · rw [same, every]
    · rw [other key]
      revert key
      decide
  · intro key hk
    unfold stringField
    rw [other key]
    revert key
    decide
  · unfold boolField
    rw [other "healthy" (by decide)]

/-! ## The state of the second pass -/

def Resource.readBack (r : Resource) : Resource :=
  match r.status with
  | some status => r.patchStatus (readBackMembers status)
  | none => r

/-- The same namespace at another time: its Invariants are read back. -/
def Cluster.later (c : Cluster) (now : Int) : Cluster :=
  { c with
    now := now
    invariants := fun name => (c.invariants name).map Resource.readBack }

theorem Resource.status_readBack (r : Resource) :
    r.readBack.status = r.status.map readBackMembers := by
  unfold Resource.readBack
  cases found : r.status with
  | none => exact found
  | some status => exact r.status_patchStatus _

theorem Resource.same_readBack (r : Resource) : r.Same r.readBack := by
  unfold Resource.readBack
  cases r.status with
  | none => exact .refl r
  | some status => exact r.same_patchStatus _

theorem findAutoRepairPolicy_name {invariant invariant' : Unstructured}
    (name : invariant'.name = invariant.name) (policies : List Unstructured) :
    findAutoRepairPolicy invariant' policies = findAutoRepairPolicy invariant policies := by
  induction policies with
  | nil => rfl
  | cons policy policies ih =>
    unfold findAutoRepairPolicy
    rw [name, ih]

section Again

variable {c t : Cluster} {invariant invariant' : Unstructured} {run run' : CheckRun}

/-- The Invariant is the same up to its status and its annotations, and so are the reports. -/
structure SameReports (c t : Cluster) (invariant invariant' : Unstructured) : Prop where
  configMaps : t.configMaps = c.configMaps
  policies : t.policies = c.policies
  name : invariant'.name = invariant.name
  same : invariant.Same invariant'.toResource

theorem unread_again (same : SameReports c t invariant invariant') (id : run'.id = run.id)
    {name : String} (unread : statusFromReportConfigMap c invariant name run = .ok none) :
    statusFromReportConfigMap t invariant' name run' = .ok none := by
  rw [statusFromReportConfigMap_none_iff] at unread ⊢
  rw [same.configMaps, same.same.generation, id]
  exact unread

/-- What a pass applied is applied again in a run of the same id. -/
theorem ReportApplied.again (same : SameReports c t invariant invariant') (id : run'.id = run.id)
    (named : run.id ≠ "") {configMap : String} {status : Fields}
    (applied : ReportApplied c invariant run configMap status) :
    ∃ report, status = enrichScheduledStatus report c.now run ∧
      ReportApplied t invariant' run' configMap (enrichScheduledStatus report t.now run') := by
  obtain ⟨stored, report, there, rfl⟩ := statusFromReportConfigMap_some named applied.read
  have found : ReportFor t invariant'.generation run'.id configMap stored report := by
    rw [same.same.generation, id]
    exact ⟨same.configMaps ▸ there.stored, there.decoded, there.observedGeneration, there.checkID⟩
  have read : statusFromReportConfigMap t invariant' configMap run' =
      .ok (some (enrichScheduledStatus report t.now run')) := statusFromReportConfigMap_of_report found
  refine ⟨report, rfl, ?_⟩
  cases applied with
  | repaired _ =>
    rw [← same.name, ← id] at read ⊢
    exact .repaired read
  | checked unrepaired _ calm =>
    have unrepaired := unread_again same id unrepaired
    rw [← same.name, ← id] at read unrepaired ⊢
    refine .checked unrepaired read fun drift => ?_
    rw [same.policies, findAutoRepairPolicy_name same.name]
    rw [enriched_phase] at drift calm
    exact calm drift

end Again

/-! ## The requeue -/

/-- Two times of one slot are in one run, up to its requeue. -/
theorem runAt_slot (generation : Int) {interval now later : Int}
    (slot : 0 < interval → (unix later).tdiv interval = (unix now).tdiv interval) :
    (runAt generation interval later).id = (runAt generation interval now).id ∧
      (runAt generation interval later).scheduled = (runAt generation interval now).scheduled ∧
      (runAt generation interval later).intervalSeconds =
        (runAt generation interval now).intervalSeconds := by
  unfold runAt
  by_cases scheduled : interval ≤ 0
  · simp only [if_pos scheduled, and_self]
  · simp only [if_neg scheduled, slot (not_le.mp scheduled), and_self]

theorem durationSeconds_lt (n : Int) : durationSeconds n < 2 ^ 63 := by
  unfold durationSeconds wrap64
  have bound : (n * 1000000000).bmod (2 ^ 64) < (2 ^ 64 + 1) / 2 := Int.bmod_lt (by decide)
  omega

/-- A requeue ends with the slot unless its nanoseconds overflow. -/
theorem requeueAt_ends_iff {interval : Int} (positive : 0 < interval) (now : Int) :
    unix now + requeueAt interval now / 1000000000 = slotEnd interval now ↔
      (slotEnd interval now - unix now) * 1000000000 < 2 ^ 63 := by
  constructor
  · intro ends
    have low := durationSeconds_lt (slotEnd interval now - unix now)
    have fallback := durationSeconds_lt interval
    unfold requeueAt at ends
    simp only at ends
    split at ends <;> omega
  · intro fits
    rw [requeueAt_fits positive fits]
    omega

/-! ## A second pass -/

/-- The pass leaves the namespace alone, and asks for the next one when the slot ends. -/
structure Quiet (interval slotEnd now : Int) (o : Outcome) : Prop where
  writes : o.writes = []
  requeue : ∃ requeue, o.result = .ok requeue ∧
    if 0 < interval then ∃ next, requeue = some next ∧ unix now + next / 1000000000 = slotEnd
    else requeue = none

/-- The status the API server hands out after a pass is the same to the comparison as the report's. -/
theorem reconciled_compared {c : Cluster} {name : String} {invariant : Unstructured} {run : CheckRun}
    {configMap : String} {status : Fields} (found : c.invariant name = some invariant)
    (hrun : currentCheckRun invariant c.now = .ok run)
    (applied : ReportApplied c invariant run configMap status) :
    ∃ current, (c.reconciled name invariant).status name = some current ∧
      ComparedEqual current status := by
  rw [reconciled_status found hrun applied]
  by_cases already : reportStatusAlreadyApplied invariant status = true
  · rw [if_pos already]
    exact alreadyApplied_iff.mp already
  · rw [if_neg already]
    exact ⟨status, rfl, fun _ _ => rfl, fun _ _ => rfl, rfl⟩

/-- What the second pass is handed under the name. -/
theorem later_stored {c : Cluster} {name : String} {invariant : Unstructured}
    (found : c.invariant name = some invariant) (later : Int) :
    ∃ r, (c.reconciled name invariant).invariants name = some r ∧ invariant.Same r ∧
      ((c.reconciled name invariant).later later).invariants name = some r.readBack := by
  obtain ⟨stored, -⟩ := invariant_some found
  obtain ⟨r, there, same, -⟩ :=
    applyAll_invariant (reconcileJobBackedInvariant c invariant).writes stored
  have held : (c.reconciled name invariant).invariants name = some r := there
  refine ⟨r, held, same, ?_⟩
  change ((c.reconciled name invariant).invariants name).map Resource.readBack = _
  rw [held]
  rfl

/-- There is always a second pass to make. -/
theorem later_found {c : Cluster} {name : String} {invariant : Unstructured}
    (found : c.invariant name = some invariant) (later : Int) :
    ∃ invariant', ((c.reconciled name invariant).later later).invariant name = some invariant' := by
  obtain ⟨r, -, -, handed⟩ := later_stored found later
  unfold Cluster.invariant
  rw [handed]
  exact ⟨_, rfl⟩

/-- The second pass reads what the first one read, up to the status. -/
theorem later_same {c : Cluster} {name : String} {invariant invariant' : Unstructured} {later : Int}
    (found : c.invariant name = some invariant)
    (again : ((c.reconciled name invariant).later later).invariant name = some invariant') :
    SameReports c ((c.reconciled name invariant).later later) invariant invariant' ∧
      currentStatus invariant' =
        ((c.reconciled name invariant).status name).map readBackMembers := by
  obtain ⟨-, named⟩ := invariant_some found
  obtain ⟨stored', named'⟩ := invariant_some again
  obtain ⟨r, held, same, handed⟩ := later_stored found later
  have back : r.readBack = invariant'.toResource := Option.some.inj (handed.symm.trans stored')
  obtain ⟨maps, policies, -⟩ :=
    applyAll_frame c name (reconcileJobBackedInvariant c invariant).writes
  refine ⟨⟨maps, policies, named'.trans named.symm, ?_⟩, ?_⟩
  · rw [← back]
    exact same.trans r.same_readBack
  · have shown : currentStatus invariant' = invariant'.toResource.status := rfl
    rw [shown, ← back, r.status_readBack]
    unfold Cluster.status
    rw [held]
    rfl

section SecondPass

variable {c : Cluster} {name : String} {invariant invariant' : Unstructured} {run : CheckRun}
  {configMap : String} {status : Fields} {interval : Option Int} {later : Int}

/-- A second pass in the slot does nothing. -/
theorem second_pass (found : c.invariant name = some invariant)
    (hrun : currentCheckRun invariant c.now = .ok run)
    (applied : ReportApplied c invariant run configMap status)
    (read : checkInterval invariant.toResource = .ok interval)
    (slot : 0 < interval.getD 0 →
      (unix later).tdiv (interval.getD 0) = (unix c.now).tdiv (interval.getD 0))
    (again : ((c.reconciled name invariant).later later).invariant name = some invariant') :
    reconcileJobBackedInvariant ((c.reconciled name invariant).later later) invariant' =
      ⟨[], .ok (requeueForRun (runAt invariant.generation (interval.getD 0) later))⟩ := by
  obtain ⟨same, shown⟩ := later_same found again
  have read' : checkInterval invariant'.toResource = .ok interval := by
    rw [← read]
    exact same.same.spec _ _
  have first := currentCheckRun_runAt read c.now
  obtain rfl := Except.ok.inj (hrun.symm.trans first)
  have second := currentCheckRun_runAt read' ((c.reconciled name invariant).later later).now
  rw [same.same.generation] at second
  obtain ⟨id, scheduled, every⟩ := runAt_slot invariant.generation slot
  obtain ⟨report, enriched, reapplied⟩ := applied.again same id (currentCheckRun_ne_empty hrun)
  obtain ⟨current, status', compared⟩ := reconciled_compared found hrun applied
  have equal := (compared_readBack current).trans compared
  rw [enriched] at equal
  have equal := equal.trans (compared_enriched report c.now later scheduled every)
  have already := alreadyApplied_iff.mpr ⟨readBackMembers current, by rw [shown, status']; rfl, equal⟩
  have applies := reconcile_applied second reapplied
  unfold applyReport at applies
  rw [applies]
  exact if_pos already

/-- Its requeue ends with the slot exactly when the time left fits a `Duration`. -/
theorem settled_iff (found : c.invariant name = some invariant)
    (hrun : currentCheckRun invariant c.now = .ok run)
    (applied : ReportApplied c invariant run configMap status)
    (read : checkInterval invariant.toResource = .ok interval)
    (slot : 0 < interval.getD 0 →
      (unix later).tdiv (interval.getD 0) = (unix c.now).tdiv (interval.getD 0))
    (again : ((c.reconciled name invariant).later later).invariant name = some invariant') :
    Quiet (interval.getD 0) (slotEnd (interval.getD 0) c.now) later
        (reconcileJobBackedInvariant ((c.reconciled name invariant).later later) invariant') ↔
      (0 < interval.getD 0 →
        (slotEnd (interval.getD 0) c.now - unix later) * 1000000000 < 2 ^ 63) := by
  rw [second_pass found hrun applied read slot again, requeueForRun_runAt]
  by_cases positive : 0 < interval.getD 0
  · have ends : slotEnd (interval.getD 0) later = slotEnd (interval.getD 0) c.now := by
      rw [slotEnd, slotEnd, slot positive]
    have exact_iff := requeueAt_ends_iff positive later
    rw [ends] at exact_iff
    rw [if_pos positive]
    constructor
    · rintro ⟨-, _, ⟨⟩, asked⟩ _
      rw [if_pos positive] at asked
      obtain ⟨_, ⟨⟩, asked⟩ := asked
      exact exact_iff.mp asked
    · intro fits
      refine ⟨rfl, _, rfl, ?_⟩
      rw [if_pos positive]
      exact ⟨_, rfl, exact_iff.mpr (fits positive)⟩
  · rw [if_neg positive]
    refine iff_of_true ⟨rfl, none, rfl, ?_⟩ fun scheduled => absurd scheduled positive
    rw [if_neg positive]

end SecondPass

theorem settled_iff_next_slot : ∃ invariant,
    (((breached none).reconciled "orders" (ordersInvariant none)).later 90000000000).invariant
      "orders" = some invariant ∧
    Quiet 60 120 90000000000 (reconcileJobBackedInvariant
      (((breached none).reconciled "orders" (ordersInvariant none)).later 90000000000) invariant) := by
  have found := breached_invariant none
  have applied := breached_applied none
  obtain ⟨invariant, again⟩ := later_found found 90000000000
  refine ⟨invariant, again, ?_⟩
  have read : checkInterval (ordersInvariant none).toResource = .ok (some 60) := rfl
  have slot : (unix 90000000000).tdiv 60 = (unix (breached none).now).tdiv 60 := by decide
  refine (settled_iff found (orders_next none) applied read (fun _ => slot) again).mpr fun _ => ?_
  decide

/-! ## An interval past the range of a `Duration` -/

def rareSpec : Fields :=
  [("type", .str "freshness"), ("checkIntervalSeconds", .int 20000000000),
    ("derivedViewRef", .str "orders-search-index")]

def rareInvariant : Unstructured where
  uid := 0
  generation := 1
  annotations := jobMode
  object := [("spec", .obj rareSpec)]
  ns := "default"
  name := "orders"

def rareConfigMap : ConfigMap :=
  { statusJson := .json (.obj (breachReport firstSlot 0)), repairInput := .empty }

def rare : Cluster :=
  { orders 1750000000000000000 none noJobs
      (Function.update noConfigMaps (reportConfigMapName "orders" "g1-t0") (some rareConfigMap)) with
    invariants := Function.update (fun _ => none) "orders" (some rareInvariant.toResource) }

def rareRun : CheckRun := runAt 1 20000000000 1750000000000000000

def rareStatus : Fields :=
  enrichScheduledStatus (normalizeMembers (breachReport firstSlot 0)) 1750000000000000000 rareRun

theorem rare_found : rare.invariant "orders" = some rareInvariant := by
  have stored : rare.invariants "orders" = some rareInvariant.toResource := by
    change Function.update (fun _ => none) "orders" (some rareInvariant.toResource) "orders" = _
    rw [Function.update_self]
  unfold Cluster.invariant
  rw [stored]
  rfl

theorem rare_applied : ReportApplied rare rareInvariant rareRun (reportConfigMapName "orders" "g1-t0")
    rareStatus := by
  have there : ReportFor rare rareInvariant.generation rareRun.id
      (reportConfigMapName "orders" "g1-t0") rareConfigMap
      (normalizeMembers (breachReport firstSlot 0)) :=
    ⟨Function.update_self _ _ _, rfl, rfl, rfl⟩
  have unrepaired : rare.configMaps (repairConfigMapName "orders" "g1-t0") = none :=
    Function.update_of_ne (by decide +kernel) _ _
  refine .checked (statusFromReportConfigMap_absent unrepaired)
    (statusFromReportConfigMap_of_report there) fun drift => ?_
  exact absurd drift (by decide)

/-- A second later, the next pass is asked for in forty-nine years; the slot lasts more than
five hundred. -/
theorem rare_requeue_early :
    rare.invariant "orders" = some rareInvariant ∧
    checkInterval rareInvariant.toResource = .ok (some 20000000000) ∧
    currentCheckRun rareInvariant rare.now = .ok rareRun ∧
    ReportApplied rare rareInvariant rareRun (reportConfigMapName "orders" "g1-t0") rareStatus ∧
    (unix 1750000001000000000).tdiv 20000000000 = (unix rare.now).tdiv 20000000000 ∧
    ∃ invariant, ((rare.reconciled "orders" rareInvariant).later 1750000001000000000).invariant
        "orders" = some invariant ∧
      ¬Quiet 20000000000 (slotEnd 20000000000 rare.now) 1750000001000000000
        (reconcileJobBackedInvariant
          ((rare.reconciled "orders" rareInvariant).later 1750000001000000000) invariant) := by
  have read : checkInterval rareInvariant.toResource = .ok (some 20000000000) := rfl
  have first := currentCheckRun_runAt read 1750000000000000000
  obtain ⟨invariant, again⟩ := later_found rare_found 1750000001000000000
  have slot : (unix 1750000001000000000).tdiv 20000000000 = (unix rare.now).tdiv 20000000000 := by
    decide
  refine ⟨rare_found, read, first, rare_applied, slot, invariant, again, ?_⟩
  rw [second_pass rare_found first rare_applied read (fun _ => slot) again]
  rintro ⟨-, _, ⟨⟩, asked⟩
  rw [if_pos (by decide)] at asked
  obtain ⟨_, ⟨⟩, asked⟩ := asked
  exact absurd asked (by decide)

end KubeDataGuard
