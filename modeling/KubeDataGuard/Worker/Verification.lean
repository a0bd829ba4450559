import KubeDataGuard.Worker.Job
import KubeDataGuard.Worker.Rendering
import KubeDataGuard.Worker.Resume

/-!
# The verification of a repair

A repair Job verifies with the arguments of the check it follows, so with its
checkpoint id, and starts from the checkpoint that check left. A verification
that resumes is partial, and a partial one is published as a failed repair.
-/

namespace KubeDataGuard

/-! ## A query check that returned -/

section Check

variable {σ : Type} {fetchPage : Value → Nat → Py σ (List Row)}
  {onPage : ScanEvidence → Py σ Unit} {keyField : String} {pageSize : Nat} {resume : Value}
  {maxPages : Int}

/-- Only the bound on its pages stops a scan before its end. -/
theorem scanLoop_unbounded (unbounded : maxPages ≤ 0) {fuel : Nat} {scan : Scan} {s t : σ}
    {r : QueryScanResult}
    (h : scanLoop fetchPage onPage keyField pageSize resume maxPages fuel scan s = (.ok r, t)) :
    r.evidence.completed = true := by
  replace h := scanLoop_returned h
  induction h with
  | bounded limit => exact absurd limit.1 (by omega)
  | empty | short => rfl
  | full _ _ _ _ _ _ _ ih => exact ih

/-- The rows of a scan are rows the source has. -/
theorem scanLoop_rows_from {rows : List Row}
    (reads : ∀ after limit s page t, fetchPage after limit s = (.ok page, t) →
      ∀ row ∈ page, row ∈ rows)
    {fuel : Nat} {scan : Scan} {s t : σ} {r : QueryScanResult}
    (h : scanLoop fetchPage onPage keyField pageSize resume maxPages fuel scan s = (.ok r, t))
    (before : ∀ row ∈ scan.rows, ∃ raw ∈ rows, serializeQueryRow raw = row) :
    ∀ row ∈ r.rows, ∃ raw ∈ rows, serializeQueryRow raw = row := by
  have known : ∀ {scan scanned : Scan} {page : List Row} {s t : σ},
      fetchPage scan.lastKey pageSize s = (.ok page, t) → scan.addPage keyField page = .ok scanned →
      (∀ row ∈ scan.rows, ∃ raw ∈ rows, serializeQueryRow raw = row) →
      ∀ row ∈ scanned.rows, ∃ raw ∈ rows, serializeQueryRow raw = row := by
    intro scan scanned page s t fetch added before row hr
    rw [(addPage_spec added).1] at hr
    rcases List.mem_append.mp hr with old | new
    · exact before row old
    · obtain ⟨raw, hraw, rfl⟩ := List.mem_map.mp new
      exact ⟨raw, reads _ _ _ _ _ fetch raw hraw, rfl⟩
  replace h := scanLoop_returned h
  induction h with
  | bounded | empty => exact before
  | short _ fetch _ added => exact known fetch added before
  | full _ fetch _ added _ _ _ ih => exact ih (known fetch added before)

end Check

/-- The target has the row the check compares with, equal in the compared fields. -/
def Present (target : List Row) (keyField : String) (compareFields : List String) (row : Row) :
    Prop :=
  (row.get keyField).isNone = false ∧ ∃ t, targetByKey target keyField (row.get keyField).text =
    some t ∧ compareNamedFields row t compareFields = []

theorem compareQueryResults_driftCount {invariantName : String} {rows target : List Row}
    {keyField : String} {compareFields : List String} {guarantee : String} {sourceScan : Json}
    {checkStatus : CheckStatus} {ev : Evidence}
    (present : ∀ row ∈ rows, Present target keyField compareFields row) :
    (compareQueryResults invariantName rows target keyField compareFields guarantee sourceScan
      checkStatus ev).driftCount = 0 := by
  rw [DriftReport.driftCount_zero, queryResults_missing, queryResults_stale,
    List.filterMap_eq_nil_iff, List.filterMap_eq_nil_iff]
  refine ⟨?_, ?_, rfl, rfl⟩
  · intro row hr
    obtain ⟨keyed, t, ht, -⟩ := present row hr
    simp [queryMissing, keyed, ht]
  · intro row hr
    obtain ⟨keyed, t, ht, equal⟩ := present row hr
    simp [queryStale, keyed, ht, equal]

/-- An unbounded check whose source is all in the target is healthy exactly when
it does not resume. -/
theorem check_healthy_iff {calls : QueryCalls} {args : QueryArgs} {readings : Readings}
    {w t : ScanWorld} {report : DriftReport}
    (h : checkQueryInvariant calls args readings w = (.ok report, t))
    (unbounded : args.sourceMaxPages ≤ 0) {source target : List Row}
    (reads : ∀ i after limit page, calls.fetchPage i after limit = .ok page →
      ∀ row ∈ page, row ∈ source)
    (reached : calls.targetRows = .ok target)
    (present : ∀ row ∈ source,
      Present target args.keyField args.compareFields (serializeQueryRow row)) :
    ∃ loaded, loadedCheckpoint calls args w = (.ok loaded, w) ∧ report.driftCount = 0 ∧
      (report.healthy = true ↔ (resumeKey args loaded).truthy = false) := by
  obtain ⟨loaded, result, u, ref, targetRows, hload, hscan, -, htarget, rfl⟩ :=
    checkQueryInvariant_returned h
  obtain rfl : target = targetRows := Except.ok.inj (reached.symm.trans htarget)
  obtain ⟨-, hloop⟩ := executeSourceQueryKeyset_returned hscan
  have completed := scanLoop_unbounded unbounded hloop
  have fetches : ∀ after limit (s : ScanWorld) page t, fetchLogged calls after limit s =
      (.ok page, t) → ∀ row ∈ page, row ∈ source := by
    intro after limit s page t hp
    unfold fetchLogged at hp
    split at hp
    · cases hp
    · rename_i fetched hcall
      cases hp
      exact reads _ _ _ _ hcall
  have known := scanLoop_rows_from fetches hloop (by simp [Scan.start])
  have noDrift : ∀ row ∈ result.rows, Present target args.keyField args.compareFields row := by
    intro row hr
    obtain ⟨raw, hraw, rfl⟩ := known row hr
    exact present raw hraw
  refine ⟨loaded, hload, compareQueryResults_driftCount noDrift, ?_⟩
  rw [DriftReport.healthy_iff, compareQueryResults_driftCount noDrift]
  simp only [and_true]
  exact queryCheckStatus_complete.trans (and_iff_left completed)

/-! ## What the check leaves to the repair -/

theorem resumeKey_falsy_iff {args : QueryArgs} {loaded : Option Checkpoint} :
    (resumeKey args loaded).truthy = false ↔
      nonEmpty args.sourceResumeAfterKey = none ∧ nonEmpty (loaded.bind Checkpoint.lastKey) = none := by
  constructor
  · intro h
    have hnull := resumeKey_falsy h
    unfold resumeKey at hnull
    split at hnull
    · cases hnull
    · rename_i hnone
      exact Option.or_eq_none_iff.mp hnone
  · rintro ⟨explicit, stored⟩
    simp [resumeKey, explicit, stored, Value.truthy]

theorem loadedCheckpoint_without {calls : QueryCalls} {args : QueryArgs} {w t : ScanWorld}
    {loaded : Option Checkpoint}
    (without : args.sourceCheckpointId = "" ∨ args.sourceResetCheckpoint = true)
    (h : loadedCheckpoint calls args w = (.ok loaded, t)) : loaded = none := by
  unfold loadedCheckpoint at h
  rw [if_pos without] at h
  cases h
  rfl

/-- A complete check that found drift stores the key of the last row it scanned
under its checkpoint id. -/
theorem complete_check_stores {calls : QueryCalls} {args : QueryArgs} {readings : Readings}
    {before : Option Checkpoint} {t : ScanWorld} {report : DriftReport}
    (h : checkQueryInvariant calls args readings { checkpoint := before } = (.ok report, t))
    (complete : report.checkStatus = .complete) (drift : report.status = .driftDetected)
    (identified : args.sourceCheckpointId ≠ "") :
    ∃ last ∈ t.fetched.flatMap Prod.snd,
      t.checkpoint.bind Checkpoint.lastKey = some (last.get args.keyField).text := by
  obtain ⟨loaded, result, u, ref, targetRows, -, hscan, hsave, -, rfl⟩ :=
    checkQueryInvariant_returned h
  obtain ⟨falsy, -⟩ := queryCheckStatus_complete.mp complete
  rw [resumeKey_falsy falsy] at hscan
  obtain ⟨-, hloop⟩ := executeSourceQueryKeyset_returned hscan
  obtain ⟨pages, hpages, hrows, -, -, -, hlast⟩ := scanLoop_records ScanWorld.fetched
    (fun _ _ _ _ h => (fetchLogged_ok h).1) (fun _ _ _ h => saveOnPage_fetched h) hloop
  have scanned : u.fetched.flatMap Prod.snd = pages.flatMap Prod.snd := by
    rw [hpages]
    rfl
  rw [saveCheckpoint_stored identified hsave, Option.bind_some, saveCheckpoint_fetched hsave, scanned]
  cases hl : (pages.flatMap Prod.snd).getLast? with
  | none =>
    -- nothing scanned, nothing to find
    rw [List.getLast?_eq_none_iff.mp hl] at hrows
    have empty : result.rows = [] := hrows
    have noDrift := (DriftReport.healthy_iff _).mpr
      ⟨complete, compareQueryResults_driftCount (by simp [empty])⟩
    rw [DriftReport.healthy, decide_eq_true_iff, drift] at noDrift
    cases noDrift
  | some last =>
    refine ⟨last, List.mem_of_getLast? hl, ?_⟩
    rw [lastKeyOf, hl] at hlast
    exact hlast

section Jobs

variable {calls : WorkerCalls} {args : JobArgs} {w t : WorkerWorld}

theorem writeReportArtifacts_lastKey {report : DriftReport} {reportRef : String}
    (h : writeReportArtifacts calls report w = (.ok reportRef, t)) :
    t.scan.checkpoint.bind Checkpoint.lastKey = w.scan.checkpoint.bind Checkpoint.lastKey := by
  obtain ⟨ref, -, h⟩ := Py.ofExcept_ok h
  obtain ⟨_, u, hupdate, h⟩ := Py.bind_ok.mp h
  cases h
  exact updateScanCheckpointReportRef_lastKey (onScan_run hupdate).1

/-- A check Job that ran through keeps the key its check stored. -/
theorem runCheckJob_lastKey {found : DriftReport} {scanned : ScanWorld}
    (h : runCheckJob calls args w = (.ok (), t))
    (checked : checkInvariant calls.checks args.check w.scan = (.ok found, scanned)) :
    t.scan.checkpoint.bind Checkpoint.lastKey = scanned.checkpoint.bind Checkpoint.lastKey := by
  obtain ⟨_, -, h⟩ := Py.ofExcept_ok h
  have ran : Py.onScan (checkInvariant calls.checks args.check) w =
      (.ok found, { w with scan := scanned }) := by
    rw [Py.onScan, checked]
  simp only [ran] at h
  obtain ⟨reportRef, u, hwrite, h⟩ := Py.bind_ok.mp h
  obtain ⟨_, -, h⟩ := Py.ofExcept_ok h
  rw [(publishReportConfigmap_ok h).2]
  exact writeReportArtifacts_lastKey hwrite

/-- A repair Job that ran through published the status of its verification. -/
theorem runRepairJob_ok {configMap mode : String} {source : Option ConfigMap}
    (h : runRepairJob calls args configMap mode source w = (.ok (), t)) :
    ∃ verification scanned reportRef payload,
      checkInvariant calls.checks args.check w.scan = (.ok verification, scanned) ∧
      t.published =
        some (reportConfigMap payload (repairJobStatus args mode verification reportRef)) := by
  obtain ⟨_, -, h⟩ := Py.ofExcept_ok h
  obtain ⟨_, -, h⟩ := Py.ofExcept_ok h
  obtain ⟨_, -, h⟩ := Py.ofExcept_ok h
  obtain ⟨_, -, h⟩ := Py.ofExcept_ok h
  obtain ⟨verification, u, hcheck, h⟩ := Py.bind_ok.mp h
  obtain ⟨reportRef, v, -, h⟩ := Py.bind_ok.mp h
  obtain ⟨_, -, h⟩ := Py.ofExcept_ok h
  exact ⟨verification, u.scan, reportRef, _, (onScan_run hcheck).1, (publishReportConfigmap_ok h).1⟩

/-- The drift count a repair publishes is its verification's. -/
theorem repairJobStatus_driftCount (mode : String) (verification : DriftReport) (reportRef : String) :
    (repairJobStatus args mode verification reportRef).get? "driftCount" =
      some (.int verification.driftCount) := by
  have counted : (jobStatus args verification reportRef).get? "driftCount" =
      some (.int verification.driftCount) := by
    unfold jobStatus withCheckId
    split
    · rw [Fields.get?_set_ne _ _ (by decide)]
      rfl
    · rw [Fields.get?_set_ne _ _ (by decide), Fields.get?_set_ne _ _ (by decide)]
      rfl
  unfold repairJobStatus
  split
  · rw [Fields.get?_set_ne _ _ (by decide), Fields.get?_set_ne _ _ (by decide), counted]
  · rw [Fields.get?_set_ne _ _ (by decide), Fields.get?_set_ne _ _ (by decide),
      Fields.get?_set_ne _ _ (by decide), Fields.get?_set_ne _ _ (by decide),
      Fields.get?_set_ne _ _ (by decide), counted]

/-- An unhealthy verification is published as a failed repair. -/
theorem repairJobStatus_failed {mode : String} {verification : DriftReport} {reportRef : String}
    (unhealthy : verification.healthy = false) :
    (repairJobStatus args mode verification reportRef).get? "phase" = some (.str "RepairFailed") := by
  unfold repairJobStatus
  rw [unhealthy, if_neg Bool.false_ne_true, Fields.get?_set_ne _ _ (by decide),
    Fields.get?_set_ne _ _ (by decide), Fields.get?_set_self]

end Jobs

/-! ## Check, repair, verification -/

/-- The check starts at the first key: no checkpoint id, a reset, or a stored
checkpoint without a key. -/
def StartsOver (args : CheckArgs) (store : Option Checkpoint) : Prop :=
  args.sourceCheckpointId = "" ∨ args.sourceResetCheckpoint = true ∨
    nonEmpty (store.bind Checkpoint.lastKey) = none

theorem startsOver_iff {calls : QueryCalls} {args : CheckArgs} {store : Option Checkpoint}
    {loaded : Option Checkpoint} {t : ScanWorld}
    (explicit : nonEmpty args.query.sourceResumeAfterKey = none)
    (h : loadedCheckpoint calls args.query { checkpoint := store } = (.ok loaded, t)) :
    (resumeKey args.query loaded).truthy = false ↔ StartsOver args store := by
  rw [resumeKey_falsy_iff, and_iff_right explicit]
  by_cases without : args.sourceCheckpointId = "" ∨ args.sourceResetCheckpoint = true
  · rw [loadedCheckpoint_without without h]
    refine iff_of_true rfl ?_
    rcases without with absent | reset
    · exact Or.inl absent
    · exact Or.inr (Or.inl reset)
  · obtain ⟨identified, kept⟩ := not_or.mp without
    have hloaded : loaded = store :=
      loadedCheckpoint_loaded identified (Bool.eq_false_iff.mpr kept) h
    rw [hloaded]
    exact ⟨fun h => Or.inr (Or.inr h), fun h => (h.resolve_left identified).resolve_left kept⟩

def accountOrder (id : String) : Order where
  id := id
  customerId := "customer"
  status := "paid"
  amountCents := 100
  currency := "USD"
  version := 1
  createdAt := 0
  updatedAt := 0

def accountsJob (checkpointId : String) : JobArgs where
  kind := .checkJob
  check :=
    { invariant := "query", maxLagSeconds := 60, invariantName := "accounts",
      sourceQuery := "select * from accounts", targetQuery := "{}",
      sourceCheckpointId := checkpointId }
  configMap := "accounts-report"
  observedGeneration := 1

def accountsWorker (target : List Row) : WorkerCalls where
  checks := { storesOnly 0 with
    query :=
      { fetchPage := fun _ after limit =>
          .ok (pageQuery Value.text "id" twoAccounts.rows after limit)
        loadFailure := none
        save := fun _ => .stored "file://checkpoint"
        savedAt := fun _ => 0
        targetRows := .ok target
        fuel := 3 } }
  report := { writeReport := .ok "file://report", reloadFailure := none }
  failedAt := 0
  observability := .ok ()
  readReport := .ok ()
  fetchOrdersByIds := fun _ => .ok [accountOrder "a", accountOrder "b"]
  indexOrder := fun _ => .ok ()
  request := fun _ _ => .ok []
  namespaceName := .ok "default"
  publish := .stored "accounts-report"

/-- The check finds both accounts missing. -/
def accountsChecked (checkpointId : String) : Except Raised Unit × WorkerWorld :=
  runCheckJob (accountsWorker []) (accountsJob checkpointId) ⟨{ checkpoint := none }, none⟩

/-- The repair verifies against an index that has both. -/
def accountsRepaired (checkpointId : String) : Except Raised Unit × WorkerWorld :=
  runRepairJob (accountsWorker twoAccounts.rows) (accountsJob checkpointId) "accounts-report"
    "direct-reindex" (accountsChecked checkpointId).2.published
    ⟨{ checkpoint := (accountsChecked checkpointId).2.scan.checkpoint }, none⟩

/-- The files of the report that a check of the accounts ends with can be written. -/
def accountsRendered (target : List Row) (before : Option Checkpoint) : Bool :=
  match (checkInvariant (accountsWorker target).checks (accountsJob "accounts").check
    { checkpoint := before }).1 with
  | .ok report => (renderReports plainPrinting report).toBool
  | .error _ => false

/-- A text of the status that was published. -/
def publishedText (w : WorkerWorld) (key : String) : Option String :=
  match w.published with
  | some ⟨.json (.obj status), _, _⟩ => stringField status key
  | _ => none

theorem accounts_present : ∀ row ∈ twoAccounts.rows,
    Present twoAccounts.rows "id" [] (serializeQueryRow row) := by
  simp only [twoAccounts, List.mem_cons, List.not_mem_nil, or_false, forall_eq_or_imp, forall_eq]
  exact ⟨⟨rfl, _, rfl, rfl⟩, rfl, _, rfl, rfl⟩

theorem ok_of_toBool {r : Except Raised Unit × WorkerWorld} (h : r.1.toBool = true) :
    r = (.ok (), r.2) := by
  obtain ⟨result, w⟩ := r
  cases result with
  | ok u => rfl
  | error e => cases h

theorem accounts_found : ∃ found,
    checkInvariant (accountsWorker []).checks (accountsJob "").check { checkpoint := none } =
        (.ok found, (checkInvariant (accountsWorker []).checks (accountsJob "").check
          { checkpoint := none }).2) ∧
      found.checkStatus = .complete ∧ found.status = .driftDetected := by
  have statuses : (checkInvariant (accountsWorker []).checks (accountsJob "").check
      { checkpoint := none }).1.toOption.map (fun r => (r.checkStatus, r.status)) =
        some (.complete, .driftDetected) := by decide +kernel
  obtain ⟨found, hfound, h⟩ := Option.map_eq_some_iff.mp statuses
  cases hr : (checkInvariant (accountsWorker []).checks (accountsJob "").check
      { checkpoint := none }).1 with
  | error e =>
    rw [hr] at hfound
    cases hfound
  | ok report =>
    rw [hr] at hfound
    cases hfound
    exact ⟨found, Prod.ext hr rfl, congrArg Prod.fst h, congrArg Prod.snd h⟩

end KubeDataGuard
