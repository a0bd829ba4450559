import KubeDataGuard.Operator.Modes
import KubeDataGuard.Operator.StatusPatch
import KubeDataGuard.Operator.Telemetry

/-!
# What the comparison forgets

The statuses that the workers and the operator make hold, in every field that
the comparison reads, a value of the type it reads. Over a run of both modes it
therefore takes no value for an absent one, and of a report it forgets, beside
telemetry, the count of breaches and nothing else.
-/

namespace KubeDataGuard

open Runs

/-! ## The statuses there are -/

/-- The fields of a status beside the compared ones. -/
def otherFields : List String := "sloBreachCount" :: telemetry

/-- A field of the statuses; a compared one holds a value of the type it is compared as. -/
structure TypedEntry (key : String) (value : Json) : Prop where
  int : key ∈ comparedInts → ∃ n, value = .int n
  text : key ∈ comparedTexts → ∃ text, value = .str text
  flag : key = "healthy" → ∃ b, value = .bool b
  known : key ∈ comparedInts ++ comparedTexts ++ "healthy" :: otherFields

namespace TypedEntry

variable {key : String}

theorem ofInt (h : key ∈ comparedInts) (n : Int) : TypedEntry key (.int n) := by
  have apart : ∀ k ∈ comparedInts, k ∉ comparedTexts ∧ k ≠ "healthy" := by decide
  exact ⟨fun _ => ⟨n, rfl⟩, fun text => absurd text (apart key h).1,
    fun flag => absurd flag (apart key h).2,
    List.mem_append_left _ (List.mem_append_left _ h)⟩

theorem ofText (h : key ∈ comparedTexts) (text : String) : TypedEntry key (.str text) := by
  have apart : ∀ k ∈ comparedTexts, k ∉ comparedInts ∧ k ≠ "healthy" := by decide
  exact ⟨fun int => absurd int (apart key h).1, fun _ => ⟨text, rfl⟩,
    fun flag => absurd flag (apart key h).2,
    List.mem_append_left _ (List.mem_append_right _ h)⟩

theorem ofFlag (b : Bool) : TypedEntry "healthy" (.bool b) :=
  ⟨fun int => absurd int (by decide), fun text => absurd text (by decide), fun _ => ⟨b, rfl⟩,
    by decide⟩

theorem ofOther (h : key ∈ otherFields) (value : Json) : TypedEntry key value := by
  have apart : ∀ k ∈ otherFields, k ∉ comparedInts ∧ k ∉ comparedTexts ∧ k ≠ "healthy" := by decide
  exact ⟨fun int => absurd int (apart key h).1, fun text => absurd text (apart key h).2.1,
    fun flag => absurd flag (apart key h).2.2,
    List.mem_append_right _ (List.mem_cons_of_mem _ h)⟩

end TypedEntry

def Typed (status : Fields) : Prop := ∀ entry ∈ status, TypedEntry entry.1 entry.2

theorem Typed.set {status : Fields} (typed : Typed status) {key : String} {value : Json}
    (entry : TypedEntry key value) : Typed (status.set key value) :=
  List.forall_mem_cons.mpr ⟨entry, fun e he => typed e (List.mem_filter.mp he).1⟩

section Typed

variable {status : Fields} (typed : Typed status) {key : String}

include typed

theorem Typed.entry {value : Json} (found : status.get? key = some value) :
    TypedEntry key value := by
  obtain ⟨before, after, rfl, -⟩ := List.lookup_eq_some_iff.mp found
  exact typed (key, value) (List.mem_append_right before List.mem_cons_self)

theorem Typed.int (h : key ∈ comparedInts) :
    status.get? key = (int64Field status key).map .int := by
  unfold int64Field
  cases found : status.get? key with
  | none => rfl
  | some value =>
    obtain ⟨n, rfl⟩ := (typed.entry found).int h
    rfl

theorem Typed.text (h : key ∈ comparedTexts) :
    status.get? key = (stringField status key).map .str := by
  unfold stringField
  cases found : status.get? key with
  | none => rfl
  | some value =>
    obtain ⟨text, rfl⟩ := (typed.entry found).text h
    rfl

theorem Typed.flag : status.get? "healthy" = (boolField status "healthy").map .bool := by
  unfold boolField
  cases found : status.get? "healthy" with
  | none => rfl
  | some value =>
    obtain ⟨b, rfl⟩ := (typed.entry found).flag rfl
    rfl

theorem Typed.unknown (h : key ∉ comparedInts ++ comparedTexts ++ "healthy" :: otherFields) :
    status.get? key = none := by
  cases found : status.get? key with
  | none => rfl
  | some value => exact absurd (typed.entry found).known h

end Typed

/-- The one field of the statuses that is neither telemetry nor compared. -/
theorem typed_agree_iff {current desired : Fields} (hcurrent : Typed current)
    (hdesired : Typed desired) (same : ComparedEqual current desired) :
    (∀ key, key ∉ telemetry → current.get? key = desired.get? key) ↔
      current.get? "sloBreachCount" = desired.get? "sloBreachCount" := by
  constructor
  · exact fun agree => agree "sloBreachCount" (by decide)
  · intro breaches key other
    by_cases known : key ∈ comparedInts ++ comparedTexts ++ "healthy" :: otherFields
    · rw [List.mem_append, List.mem_append] at known
      rcases known with (int | text) | rest
      · rw [hcurrent.int int, hdesired.int int, same.ints key int]
      · rw [hcurrent.text text, hdesired.text text, same.texts key text]
      · rcases List.mem_cons.mp rest with rfl | rest
        · rw [hcurrent.flag, hdesired.flag, same.healthy]
        · rcases List.mem_cons.mp rest with rfl | rest
          · exact breaches
          · exact absurd rest other
    · rw [hcurrent.unknown known, hdesired.unknown known]

/-- Of typed statuses, the comparison forgets the count of breaches and nothing else. -/
theorem typed_status_follows_iff {c : Cluster} {name : String} {invariant : Unstructured}
    {run : CheckRun} {configMap : String} {status : Fields}
    (found : c.invariant name = some invariant)
    (hrun : currentCheckRun invariant c.now = .ok run)
    (applied : ReportApplied c invariant run configMap status) (typed : Typed status)
    (current : ∀ current, currentStatus invariant = some current → Typed current) :
    Follows ((c.reconciled name invariant).status name) status ↔
      ∀ current, currentStatus invariant = some current → ComparedEqual current status →
        current.get? "sloBreachCount" = status.get? "sloBreachCount" := by
  have forgotten : ∀ current, currentStatus invariant = some current → ComparedEqual current status →
      ((∀ key, key ∉ telemetry → current.get? key = status.get? key) ↔
        current.get? "sloBreachCount" = status.get? "sloBreachCount") :=
    fun old there same => typed_agree_iff (current old there) typed same
  constructor
  · intro follows old there same
    rw [reconciled_status found hrun applied,
      if_pos (alreadyApplied_iff.mpr ⟨old, there, same⟩), there] at follows
    obtain ⟨_, ⟨⟩, agree⟩ := follows
    exact (forgotten old there same).mp agree
  · intro breaches
    rw [reconciled_status found hrun applied]
    split
    · rename_i same
      obtain ⟨old, there, compared⟩ := alreadyApplied_iff.mp same
      exact ⟨old, there, (forgotten old there compared).mpr (breaches old there compared)⟩
    · exact .refl status

/-! ### The workers' and the operator's -/

theorem typed_enriched {status : Fields} (typed : Typed status) (now : Int) (run : CheckRun) :
    Typed (enrichScheduledStatus status now run) := by
  have checked : Typed (if run.id = "" then status else status.set "checkID" (.str run.id)) := by
    split
    · exact typed
    · exact typed.set (.ofOther (by decide) _)
  unfold enrichScheduledStatus
  simp only
  split
  · exact (checked.set (.ofInt (by decide) _)).set (.ofOther (by decide) _)
  · exact checked

theorem TypedEntry.normalized {key : String} {value : Json} (typed : TypedEntry key value)
    (fits : key ∈ comparedInts → ∀ n, value = .int n → inInt64 n = true) :
    TypedEntry key (normalizeJSONValue value) := by
  refine ⟨fun int => ?_, fun text => ?_, fun flag => ?_, typed.known⟩
  · obtain ⟨n, rfl⟩ := typed.int int
    exact ⟨n, by rw [normalizeJSONValue, if_pos (fits int n rfl)]⟩
  · obtain ⟨text, rfl⟩ := typed.text text
    exact ⟨text, by simp [normalizeJSONValue]⟩
  · obtain ⟨b, rfl⟩ := typed.flag flag
    exact ⟨b, by simp [normalizeJSONValue]⟩

/-- Every count of the report fits in an `int64`. -/
def CountsFit (report : Fields) : Prop :=
  ∀ entry ∈ report, entry.1 ∈ comparedInts → ∀ n, entry.2 = .int n → inInt64 n = true

theorem typed_normalized {status : Fields} (typed : Typed status) (fits : CountsFit status) :
    Typed (normalizeMembers status) := by
  induction status with
  | nil => exact nofun
  | cons entry status ih =>
    obtain ⟨key, value⟩ := entry
    obtain ⟨head, rest⟩ := List.forall_mem_cons.mp typed
    obtain ⟨headFits, restFits⟩ := List.forall_mem_cons.mp fits
    have tail := ih rest restFits
    have kept : Typed ((key, normalizeJSONValue value) :: normalizeMembers status) :=
      List.forall_mem_cons.mpr ⟨head.normalized headFits, tail⟩
    cases value with
    | null => exact tail
    | _ => exact kept

theorem typed_withCheckId {status : Fields} (typed : Typed status) (checkId : String) :
    Typed (withCheckId checkId status) := by
  unfold withCheckId
  split
  · exact typed
  · exact typed.set (.ofOther (by decide) _)

theorem typed_jobStatus (args : JobArgs) (report : DriftReport) (reportRef : String) :
    Typed (jobStatus args report reportRef) := by
  have status : Typed (report.kubernetesStatus (some reportRef)) := by
    simp only [DriftReport.kubernetesStatus, Typed, List.forall_mem_cons]
    exact ⟨.ofFlag _, .ofText (by decide) _, .ofText (by decide) _, .ofText (by decide) _,
      .ofInt (by decide) _, .ofInt (by decide) _, .ofOther (by decide) _, .ofOther (by decide) _,
      .ofOther (by decide) _, .ofOther (by decide) _, .ofOther (by decide) _, nofun⟩
  exact typed_withCheckId (status.set (.ofInt (by decide) _)) _

/-- Every status a worker publishes is typed. -/
theorem typed_outcome {calls : WorkerCalls} {args : JobArgs} {scan : ScanWorld} {status : Fields}
    (outcome : JobOutcome calls args scan status) : Typed status := by
  cases outcome with
  | failed reason checkedAt =>
    refine typed_withCheckId ?_ _
    simp only [Typed, List.forall_mem_cons]
    exact ⟨.ofFlag _, .ofText (by decide) _, .ofText (by decide) _, .ofText (by decide) _,
      .ofInt (by decide) _, .ofInt (by decide) _, .ofOther (by decide) _, .ofOther (by decide) _,
      .ofOther (by decide) _, .ofInt (by decide) _, .ofText (by decide) _, nofun⟩
  | checked report after reportRef ran => exact typed_jobStatus args report reportRef
  | repaired verification after repairAction reportRef ran =>
    have reported : Typed ((jobStatus args verification reportRef).set "repairRef" (.str reportRef)) :=
      (typed_jobStatus args verification reportRef).set (.ofOther (by decide) _)
    have typed := reported.set (.ofText (by decide) repairAction : TypedEntry "repairAction" _)
    unfold repairJobStatus
    simp only
    split
    · exact typed
    · exact ((typed.set (.ofText (by decide) _)).set (.ofFlag _)).set (.ofText (by decide) _)

/-- So is what a pass reads of it, where its counts fit an `int64`. -/
theorem typed_read {calls : WorkerCalls} {args : JobArgs} {scan : ScanWorld} {status : Fields}
    (outcome : JobOutcome calls args scan status)
    (fits : CountsFit status) (now : Int) (run : CheckRun) :
    Typed (enrichScheduledStatus (normalizeMembers status) now run) :=
  typed_enriched (typed_normalized (typed_outcome outcome) fits) now run

/-- Every status the operator builds is typed. -/
theorem typed_lifecycleStatus (invariant : Unstructured) (now : Int) (run : CheckRun)
    (jobName : String) (l : Lifecycle) : Typed (lifecycleStatus invariant now run jobName l) := by
  have base : Typed (l.base invariant jobName) := by
    refine List.forall_mem_append.mpr ⟨?_, ?_⟩
    · simp only [List.forall_mem_cons]
      exact ⟨.ofFlag _, .ofText (by decide) _, .ofText (by decide) _, .ofInt (by decide) _,
        .ofInt (by decide) _, .ofOther (by decide) _, nofun⟩
    · cases l.reason with
      | none => exact nofun
      | some reason =>
        have entry : TypedEntry "reason" (.str reason) := .ofText (by decide) reason
        exact List.forall_mem_singleton.mpr entry
  have status : ∀ guarantee checkedAt window, Typed (((((((l.base invariant jobName).set "guarantee"
      (.str guarantee)).set "checkedRecords" (.int 0)).set "lastCheckedAt" (.str checkedAt)).set
      "observationWindow" window).set "observedGeneration" (.int invariant.generation)).set "checkID"
      (.str run.id)) := by
    intro guarantee checkedAt window
    have guaranteed := base.set (.ofText (by decide) guarantee : TypedEntry "guarantee" _)
    have counted := guaranteed.set (.ofOther (by decide) (.int 0) : TypedEntry "checkedRecords" _)
    exact (((counted.set (.ofOther (by decide) _)).set (.ofOther (by decide) _)).set
      (.ofInt (by decide) _)).set (.ofOther (by decide) _)
  unfold lifecycleStatus jobLifecycleStatus
  simp only
  split
  · exact ((status _ _ _).set (.ofInt (by decide) _)).set (.ofOther (by decide) _)
  · exact status _ _ _

/-- So is every status made of an annotation. -/
theorem typed_synthetic {invariant : Unstructured} {now : Int} {status : Fields}
    (built : buildSyntheticInvariantStatus invariant now = .ok status) : Typed status := by
  unfold buildSyntheticInvariantStatus at built
  obtain ⟨driftCount, -, built⟩ := bind_eq_ok built
  obtain ⟨maxLag, -, built⟩ := bind_eq_ok built
  obtain ⟨type, -, built⟩ := bind_eq_ok built
  obtain rfl := Except.ok.inj built
  simp only [Typed, List.forall_mem_cons]
  exact ⟨.ofFlag _, .ofText (by decide) _, .ofText (by decide) _, .ofText (by decide) _,
    .ofInt (by decide) _, .ofInt (by decide) _, .ofOther (by decide) _, .ofOther (by decide) _,
    .ofOther (by decide) _, .ofOther (by decide) _, .ofInt (by decide) _, nofun⟩

/-! ## Over a run -/

/-- Every report stored in a state the run has been in has counts that fit. -/
def ReportCountsFit (history : ModePast) (c : Cluster) : Prop :=
  ∀ a, Seen history c a → ∀ name configMap report, a.configMaps name = some configMap →
    configMap.statusJson = .json (.obj report) → CountsFit report

section Run

variable {history : ModePast} {c t : Cluster} {invariant : Unstructured} {name : String}
  {status : Fields}

theorem ReportCountsFit.earlier {e : ModeEvent} (counted : ReportCountsFit ((c, e) :: history) t) :
    ReportCountsFit history c :=
  fun a seen => counted a (seen.later e t)

/-- A report that a pass reads is one that a worker published. -/
theorem typed_report (run : Run Fresh (Recorded ModeStep) history c)
    (counted : ReportCountsFit history c) {checkRun : CheckRun} (id : checkRun.id ≠ "")
    (read : statusFromReportConfigMap c invariant name checkRun = .ok (some status)) :
    Typed status := by
  obtain ⟨configMap, report, reportFor, rfl⟩ := statusFromReportConfigMap_some id read
  obtain ⟨job, calls, scan, by_⟩ := configMap_publishedBy (modes_run_bare run) reportFor.stored
  obtain ⟨c₁, jobName, event, found, target, published⟩ := by_
  obtain ⟨payload, made, rfl, outcome⟩ := runJob_published published
  obtain rfl := Except.ok.inj (reportFor.decoded)
  exact typed_read outcome (counted c (Or.inl rfl) _ _ made reportFor.stored rfl) _ _

theorem typed_patch (run : Run Fresh (Recorded ModeStep) history c)
    (counted : ReportCountsFit history c) {origin : Origin}
    (patched : .patchStatus origin status ∈ (reconcile c invariant).writes) : Typed status := by
  unfold reconcile at patched
  split at patched
  · cases reconcile_patches patched with
    | lifecycle checkRun jobName l => exact typed_lifecycleStatus _ _ _ _ _
    | report checkRun name status id read => exact typed_report run counted id read
  split at patched
  · cases patched
  · rename_i built
    rw [only_patch patched]
    exact typed_synthetic built

/-- The induction is on the run: a status stays, or a pass patches a typed one. -/
theorem statuses_typed (run : Run Fresh (Recorded ModeStep) history c)
    (counted : ReportCountsFit history c) {r : Resource} (h : c.invariants name = some r)
    (current : r.status = some status) : Typed status := by
  have all : ReportCountsFit history c → ∀ name r status, c.invariants name = some r →
      r.status = some status → Typed status := by
    refine run.recorded_invariant (I := fun history c => ReportCountsFit history c →
      ∀ name r status, c.invariants name = some r → r.status = some status → Typed status) ?_ ?_
    · intro c fresh _ name r status h
      rw [fresh.invariants name] at h
      cases h
    · intro history c e t run ih step counted name r' status h' current
      cases modeStep_status step h' with
      | kept r before uid kept => exact ih counted.earlier name r status before (kept ▸ current)
      | patched invariant writes origin patch event found uid made patched =>
        rw [current] at patched
        obtain rfl := Option.some.inj patched
        exact typed_patch run counted.earlier made
      | none none =>
        rw [none] at current
        cases current
  exact all counted name r status h current

/-- In every run the statuses are typed, and one follows a report that a pass applies unless the
comparison takes the old status for it and the two count different breaches. -/
theorem modes_follow_iff (run : Run Fresh (Recorded ModeStep) history c)
    (counted : ReportCountsFit history c) {checkRun : CheckRun} {configMap : String}
    (found : c.invariant name = some invariant)
    (hrun : currentCheckRun invariant c.now = .ok checkRun)
    (applied : ReportApplied c invariant checkRun configMap status) :
    (∀ k r current, c.invariants k = some r → r.status = some current → Typed current) ∧
    (Follows ((c.reconciled name invariant).status name) status ↔
      ∀ current, currentStatus invariant = some current → ComparedEqual current status →
        current.get? "sloBreachCount" = status.get? "sloBreachCount") := by
  refine ⟨fun _ _ _ => statuses_typed run counted, ?_⟩
  exact typed_status_follows_iff found hrun applied
    (typed_report run counted (currentCheckRun_ne_empty hrun) applied.read)
    fun _ current => statuses_typed run counted (invariant_some found).1 current

/-! ### A first report -/

/-- Job mode alone is a run of both modes. -/
theorem run_modes {history : Past} (run : Run Fresh (Recorded Step) history c) :
    ∃ modes, Run Fresh (Recorded ModeStep) modes c ∧ ∀ a, Seen modes c a → Seen history c a := by
  induction run with
  | start fresh =>
    refine ⟨[], .start fresh, fun a seen => ?_⟩
    obtain rfl | ⟨_, none⟩ := seen
    · exact Or.inl rfl
    · cases none
  | @next history c e t before step ih =>
    obtain ⟨c, e⟩ := e
    obtain ⟨rfl, step⟩ := step
    obtain ⟨modes, run, seen⟩ := ih
    obtain ⟨e', step'⟩ : ∃ e', ModeStep c e' t := by
      have around := step
      cases step with
      | reconcile name invariant writes found mode made =>
        refine ⟨_, .pass c name invariant writes found ?_⟩
        rw [reconcile, if_pos mode]
        exact made
      | _ => exact ⟨_, .other c _ _ around rfl⟩
    refine ⟨_, run.record step', fun a now => ?_⟩
    obtain rfl | ⟨e'', mem⟩ := now
    · exact Or.inl rfl
    · obtain same | earlier := List.mem_cons.mp mem
      · obtain ⟨rfl, -⟩ := Prod.mk.inj same
        exact Or.inr ⟨e, List.mem_cons_self⟩
      · exact (seen a (Or.inr ⟨e'', earlier⟩)).later e t

end Run

theorem summaryStatus_fits : CountsFit (summaryStatus "default" "orders" twoOrders twoOrders) := by
  have all : ((summaryStatus "default" "orders" twoOrders twoOrders).all fun entry =>
      (int64Field [entry] entry.1).all inInt64) = true := by
    decide +kernel
  rintro ⟨key, _⟩ mem _ n rfl
  have fits := List.all_eq_true.mp all (key, .int n) mem
  simpa [int64Field, Fields.get?_cons] using fits

theorem first_report_counted {history : ModePast} (payload : Fields)
    (seen : ∀ a, Seen history (reported "default" "orders" "aggregate"
        (reportConfigMap payload (summaryStatus "default" "orders" twoOrders twoOrders))) a →
      a = reported "default" "orders" "aggregate"
        (reportConfigMap payload (summaryStatus "default" "orders" twoOrders twoOrders)) ∨
      a.configMaps = fun _ => none) :
    ReportCountsFit history (reported "default" "orders" "aggregate"
      (reportConfigMap payload (summaryStatus "default" "orders" twoOrders twoOrders))) := by
  intro a before name configMap report stored json
  obtain rfl | unpublished := seen a before
  · rw [reported_configMaps, Function.update_apply] at stored
    split at stored
    · obtain rfl := Option.some.inj stored
      obtain rfl := Json.obj.inj (Payload.json.inj json)
      exact summaryStatus_fits
    · cases stored
  · rw [unpublished] at stored
    cases stored

theorem modes_follow_iff_first : ∃ (history : ModePast) (payload : Fields),
    Run Fresh (Recorded ModeStep) history (reported "default" "orders" "aggregate"
      (reportConfigMap payload (summaryStatus "default" "orders" twoOrders twoOrders))) ∧
    Follows (((reported "default" "orders" "aggregate"
        (reportConfigMap payload (summaryStatus "default" "orders" twoOrders twoOrders))).reconciled
      "orders" (checkedInvariant "default" "orders" "aggregate")).status "orders")
      (enrichScheduledStatus (summaryReport "default" "orders" twoOrders twoOrders) 0 firstRun) := by
  obtain ⟨payload, published⟩ := agreement_published "default" "orders"
  obtain ⟨healthy, reads⟩ := summary_reads "default" "orders" twoOrders twoOrders
  have decoded := summary_decoded "default" "orders" twoOrders twoOrders payload
  obtain ⟨history, run, seen⟩ := run_modes (((Run.start (Cluster.fresh_empty "default")).record
    (created_step _ _ _)).record (checking_step _ _ _) |>.record (reported_step _ _ _ published))
  have counted := first_report_counted payload fun a now => by
    obtain rfl | ⟨e, mem⟩ := seen a now
    · exact Or.inl rfl
    · simp only [List.mem_cons, Prod.mk.injEq, List.not_mem_nil, or_false] at mem
      obtain ⟨rfl, -⟩ | ⟨rfl, -⟩ | ⟨rfl, -⟩ := mem
      · exact Or.inr (checking_configMaps _ _ _)
      · exact Or.inr rfl
      · exact Or.inr rfl
  have there := reported_report decoded reads
  have read := @statusFromReportConfigMap_of_report _ (checkedInvariant "default" "orders" "aggregate")
    firstRun _ _ _ there
  rw [reported_now] at read
  have applied : ReportApplied _ (checkedInvariant "default" "orders" "aggregate") firstRun _ _ :=
    .checked (statusFromReportConfigMap_absent (reported_unrepaired (by decide +kernel) _)) read
      fun drift => absurd drift (by decide)
  refine ⟨history, payload, run, ?_⟩
  refine (modes_follow_iff run counted (reported_invariant _ _ _ _) rfl applied).2.mpr ?_
  intro current there same
  obtain rfl := Option.some.inj there
  have unknown := same.texts "phase" (by decide)
  exact absurd unknown (by decide)

end KubeDataGuard
