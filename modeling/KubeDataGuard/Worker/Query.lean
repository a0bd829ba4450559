import KubeDataGuard.Digest
import KubeDataGuard.Worker.Compare
import KubeDataGuard.Worker.Scan

/-!
# The query check

`check_query_invariant` with its checkpoints. A run works on a `ScanWorld`:
the checkpoint stored under its id, and what the run has fetched and stored so
far. Every external call may raise; a save may raise before or after it stored.
-/

namespace KubeDataGuard

/-- What every check reads besides the two stores it compares. -/
structure Readings where
  checkedAt : Instant
  targetReadAt : Instant
  streamTopic : String
  streamOffsets : Except Raised StreamOffsets
  sourceLsn : Except Raised String
  outboxFrontier : Except Raised OutboxFrontier
  targetFrontier : Except Raised TargetFrontier

namespace Readings

variable (r : Readings)

/-- `build_check_cdc_frontier`; a target other than the index brings its own frontier. -/
def buildCheckCdcFrontier (sourceWatermark : Option String) (target : Option TargetFrontier) : Json :=
  let targetFrontier := match target with
    | some t => t
    | none => match r.targetFrontier with
      | .ok t => t
      | .error e => unavailableTarget e
  buildCdcFrontier (sourceLsnOrNone r.sourceLsn) sourceWatermark r.outboxFrontier
    (KubeDataGuard.streamOffsets r.streamOffsets) r.streamTopic r.targetReadAt targetFrontier

def evidence (maxLagSeconds : Int) (sourceWatermark : Option String)
    (target : Option TargetFrontier) : Evidence :=
  let offsets := KubeDataGuard.streamOffsets r.streamOffsets
  { maxLagSeconds := maxLagSeconds
    checkedAt := r.checkedAt
    targetReadAt := r.targetReadAt
    streamTopic := some r.streamTopic
    streamOffsetStart := offsets.offsetStart
    streamOffsetEnd := offsets.offsetEnd
    sourceLsn := sourceLsnOrNone r.sourceLsn
    cdcFrontier := r.buildCheckCdcFrontier sourceWatermark target }

end Readings

structure Checkpoint where
  status : String
  queryHash : String
  checkId : String
  keyField : String
  lastKey : Option String
  firstKey : Option String
  resumeAfterKey : Option String
  sourceWatermark : Option String
  sourceLsn : Option String
  pages : Nat
  rows : Nat
  stopReason : String
  checkpointId : String
  updatedAt : String
  reportRef : Option String := none
  deriving DecidableEq, Repr

structure ScanWorld where
  checkpoint : Option Checkpoint
  fetched : List (Value × List Row) := []
  stored : List Checkpoint := []

inductive SaveOutcome
  | stored (ref : String)
  | lost (e : Raised)
  | storedThenRaised (e : Raised)

/-- The external calls of one run: the `n`-th page, the `n`-th save. -/
structure QueryCalls where
  characters : CharTables := .ascii
  fetchPage : Nat → Value → Nat → Except Raised (List Row)
  loadFailure : Option Raised
  save : Nat → SaveOutcome
  savedAt : Nat → Instant
  targetRows : Except Raised (List Row)
  fuel : Nat

structure QueryArgs where
  invariantName : String
  sourceQuery : String
  targetQuery : String
  keyField : String
  compareFields : List String
  maxLagSeconds : Int
  sourceScanPageSize : Int
  sourceResumeAfterKey : Option String := none
  sourceCheckpointId : String := ""
  sourceResetCheckpoint : Bool := false
  sourceMaxPages : Int := 0
  checkId : String := ""

def scanQueryHash (sourceQuery targetQuery keyField : String) : String :=
  Digest.sha256Hex (intercalateText "\n" [strip sourceQuery, strip targetQuery, strip keyField])

def QueryArgs.queryHash (args : QueryArgs) : String :=
  scanQueryHash args.sourceQuery args.targetQuery args.keyField

section Calls

variable (calls : QueryCalls)

def fetchLogged (after : Value) (limit : Nat) : Py ScanWorld (List Row) := fun w =>
  match calls.fetchPage w.fetched.length after limit with
  | .error e => (.error e, w)
  | .ok page => (.ok page, { w with fetched := w.fetched ++ [(after, page)] })

def saveScanCheckpoint (checkpoint : Checkpoint) : Py ScanWorld String := fun w =>
  let stored := { w with
    checkpoint := some checkpoint
    stored := w.stored ++ [checkpoint] }
  match calls.save w.stored.length with
  | .stored ref => (.ok ref, stored)
  | .lost e => (.error e, w)
  | .storedThenRaised e => (.error e, stored)

def loadScanCheckpoint : Py ScanWorld (Option Checkpoint) := fun w =>
  match calls.loadFailure with
  | some e => (.error e, w)
  | none => (.ok w.checkpoint, w)

variable (args : QueryArgs) (readings : Readings)

/-- The payload `save_checkpoint` stores for the evidence of a scan. -/
def QueryArgs.checkpoint (e : ScanEvidence) (updatedAt : Instant) : Checkpoint where
  status := if e.completed then "complete" else "inProgress"
  queryHash := args.queryHash
  checkId := args.checkId
  keyField := args.keyField
  lastKey := e.lastKey
  firstKey := e.firstKey
  resumeAfterKey := e.resumeAfterKey
  sourceWatermark := e.sourceWatermark
  sourceLsn := sourceLsnOrNone readings.sourceLsn
  pages := e.pages
  rows := e.rows
  stopReason := e.stopReason
  checkpointId := args.sourceCheckpointId
  updatedAt := iso updatedAt

def saveCheckpoint (e : ScanEvidence) : Py ScanWorld (Option String) := fun w =>
  if args.sourceCheckpointId = "" then (.ok none, w)
  else
    match saveScanCheckpoint calls
      (args.checkpoint readings e (calls.savedAt w.stored.length)) w with
    | (.ok ref, t) => (.ok (some ref), t)
    | (.error e, t) => (.error e, t)

/-- `on_page` -/
def saveOnPage (e : ScanEvidence) : Py ScanWorld Unit := do
  let _ ← saveCheckpoint calls args readings e
  pure ()

/-- The checkpoint to resume from, none for a run without an id or with a reset. -/
def loadedCheckpoint : Py ScanWorld (Option Checkpoint) := fun w =>
  if args.sourceCheckpointId = "" ∨ args.sourceResetCheckpoint then (.ok none, w)
  else
    match loadScanCheckpoint calls w with
    | (.error e, t) => (.error e, t)
    | (.ok none, t) => (.ok none, t)
    | (.ok (some c), t) =>
      if c.queryHash ≠ "" ∧ c.queryHash ≠ args.queryHash then
        (.error (valueError ("checkpoint " ++ reprText args.sourceCheckpointId ++
          " was created for a different query")), t)
      else (.ok (some c), t)

/-- `key or None` -/
def nonEmpty (key : Option String) : Option String := key.filter (· ≠ "")

/-- An explicit resume key goes before the checkpoint's. -/
def resumeKey (loaded : Option Checkpoint) : Value :=
  match (nonEmpty args.sourceResumeAfterKey).or (nonEmpty (loaded.bind Checkpoint.lastKey)) with
  | some key => .str key
  | none => .null

def scanEvidenceDict (e : ScanEvidence) (loaded : Option Checkpoint) (ref : Option String) : Json :=
  .obj (e.toDict ++ [("query_hash", .str args.queryHash)] ++
    (if args.sourceCheckpointId = "" then [] else
      [("checkpoint_id", .str args.sourceCheckpointId)]) ++
    (match ref with
      | some r => if r = "" then [] else [("checkpoint_ref", .str r)]
      | none => []) ++
    match loaded with
    | none => []
    | some c => [("loaded_checkpoint", .obj [("checkpoint_id", .str c.checkpointId),
        ("last_key", optionalText c.lastKey), ("updated_at", .str c.updatedAt),
        ("status", .str c.status)])])

def queryCheckStatus (resume : Value) (completed : Bool) : CheckStatus :=
  if resume.truthy || !completed then .checkPartial else .complete

def checkQueryInvariant : Py ScanWorld DriftReport := do
  let loaded ← loadedCheckpoint calls args
  let resume := resumeKey args loaded
  let sourceScan ← executeSourceQueryKeyset calls.characters (fetchLogged calls)
    (saveOnPage calls args readings) args.sourceQuery args.keyField args.sourceScanPageSize resume
    args.sourceMaxPages calls.fuel
  let ref ← saveCheckpoint calls args readings sourceScan.evidence
  let targetRows ← Py.ofExcept calls.targetRows
  let guarantee := if args.compareFields.isEmpty then "existence" else "existence+fieldEquality"
  pure (compareQueryResults args.invariantName sourceScan.rows targetRows args.keyField
    args.compareFields guarantee (scanEvidenceDict args sourceScan.evidence loaded ref)
    (queryCheckStatus resume sourceScan.evidence.completed)
    (readings.evidence args.maxLagSeconds sourceScan.evidence.sourceWatermark none))

/-! ## After the check -/

/-- The calls that follow a check in its worker. -/
structure ReportCalls where
  writeReport : Except Raised String
  reloadFailure : Option Raised

/-- `update_checkpoint_report_ref`; no id, or nothing stored, leaves the store alone. -/
def updateScanCheckpointReportRef (report : ReportCalls) (checkpointId reportRef : String) :
    Py ScanWorld Unit := fun w =>
  if checkpointId = "" then (.ok (), w)
  else
    match report.reloadFailure, w.checkpoint with
    | some e, _ => (.error e, w)
    | none, none => (.ok (), w)
    | none, some c =>
      match saveScanCheckpoint calls { c with
        reportRef := some reportRef
        updatedAt := iso (calls.savedAt w.stored.length) } w with
      | (.ok _, t) => (.ok (), t)
      | (.error e, t) => (.error e, t)

/-- A query check whose report is then written, and referred to by its checkpoint. -/
def checkQueryAndReport (report : ReportCalls) : Py ScanWorld DriftReport := do
  let drift ← checkQueryInvariant calls args readings
  let reportRef ← Py.ofExcept report.writeReport
  updateScanCheckpointReportRef calls report args.sourceCheckpointId reportRef
  pure drift

end Calls

/-! ## What the calls leave -/

theorem fetchLogged_ok {calls : QueryCalls} {after : Value} {limit : Nat} {w t : ScanWorld}
    {page : List Row} (h : fetchLogged calls after limit w = (.ok page, t)) :
    t.fetched = w.fetched ++ [(after, page)] ∧ t.checkpoint = w.checkpoint ∧
      t.stored = w.stored := by
  unfold fetchLogged at h
  split at h <;> cases h
  exact ⟨rfl, rfl, rfl⟩

theorem saveCheckpoint_fetched {calls : QueryCalls} {args : QueryArgs} {readings : Readings}
    {e : ScanEvidence} {w t : ScanWorld} {r : Except Raised (Option String)}
    (h : saveCheckpoint calls args readings e w = (r, t)) : t.fetched = w.fetched := by
  unfold saveCheckpoint saveScanCheckpoint at h
  split at h
  · cases h
    rfl
  · cases hs : calls.save w.stored.length <;> simp only [hs] at h <;> cases h <;> rfl

theorem saveOnPage_fetched {calls : QueryCalls} {args : QueryArgs} {readings : Readings}
    {e : ScanEvidence} {w t : ScanWorld} {r : Except Raised Unit}
    (h : saveOnPage calls args readings e w = (r, t)) : t.fetched = w.fetched := by
  rcases Py.bind_cases h with ⟨_, hs, -⟩ | ⟨_, u, hs, hrest⟩
  · exact saveCheckpoint_fetched hs
  · cases hrest
    exact saveCheckpoint_fetched hs

theorem loadedCheckpoint_world {calls : QueryCalls} {args : QueryArgs} {w t : ScanWorld}
    {r : Except Raised (Option Checkpoint)} (h : loadedCheckpoint calls args w = (r, t)) :
    t = w := by
  unfold loadedCheckpoint loadScanCheckpoint at h
  split at h
  · cases h
    rfl
  · cases hl : calls.loadFailure <;> cases hc : w.checkpoint <;> simp only [hl, hc] at h
    · cases h
      rfl
    · split at h <;> cases h <;> rfl
    · cases h
      rfl
    · cases h
      rfl

theorem resumeKey_falsy {args : QueryArgs} {loaded : Option Checkpoint}
    (h : (resumeKey args loaded).truthy = false) : resumeKey args loaded = .null := by
  unfold resumeKey at h ⊢
  split
  · rename_i key hkey
    rw [hkey] at h
    have nonempty : key ≠ "" := by
      rcases Option.or_eq_some_iff.mp hkey with hk | ⟨-, hk⟩ <;>
        simpa using (Option.filter_eq_some_iff.mp hk).2
    simp [Value.truthy, nonempty] at h
  · rfl

/-! ## What a check that returned did -/

section Returned

variable {calls : QueryCalls} {args : QueryArgs} {readings : Readings}

theorem executeSourceQueryKeyset_returned {σ : Type} {characters : CharTables}
    {fetchPage : Value → Nat → Py σ (List Row)} {onPage : ScanEvidence → Py σ Unit}
    {query keyField : String} {pageSize : Int} {resume : Value} {maxPages : Int} {fuel : Nat}
    {s t : σ} {r : QueryScanResult}
    (h : executeSourceQueryKeyset characters fetchPage onPage query keyField pageSize resume maxPages
      fuel s = (.ok r, t)) :
    1 ≤ pageSize ∧ scanLoop fetchPage onPage keyField (min pageSize 5000).toNat resume maxPages fuel
      (Scan.start resume) s = (.ok r, t) := by
  unfold executeSourceQueryKeyset at h
  split at h
  · cases h
  obtain ⟨size, hsize, h⟩ := Py.ofExcept_ok h
  obtain ⟨_, -, h⟩ := Py.ofExcept_ok h
  obtain ⟨_, -, h⟩ := Py.ofExcept_ok h
  obtain ⟨positive, rfl⟩ := boundedSourceScanPageSize_ok_iff.mp hsize
  exact ⟨positive, h⟩

theorem queryCheckStatus_complete {resume : Value} {completed : Bool} :
    queryCheckStatus resume completed = .complete ↔ resume.truthy = false ∧ completed = true := by
  cases completed <;> simp [queryCheckStatus]

/-- A check that returned loaded a checkpoint, scanned, saved and compared. -/
theorem checkQueryInvariant_returned {w t : ScanWorld} {report : DriftReport}
    (h : checkQueryInvariant calls args readings w = (.ok report, t)) :
    ∃ loaded result u ref targetRows,
      loadedCheckpoint calls args w = (.ok loaded, w) ∧
      executeSourceQueryKeyset calls.characters (fetchLogged calls)
        (saveOnPage calls args readings) args.sourceQuery args.keyField args.sourceScanPageSize
        (resumeKey args loaded) args.sourceMaxPages calls.fuel w = (.ok result, u) ∧
      saveCheckpoint calls args readings result.evidence u = (.ok ref, t) ∧
      calls.targetRows = .ok targetRows ∧
      report = compareQueryResults args.invariantName result.rows targetRows args.keyField
        args.compareFields
        (if args.compareFields.isEmpty then "existence" else "existence+fieldEquality")
        (scanEvidenceDict args result.evidence loaded ref)
        (queryCheckStatus (resumeKey args loaded) result.evidence.completed)
        (readings.evidence args.maxLagSeconds result.evidence.sourceWatermark none) := by
  obtain ⟨loaded, w₁, hload, hrest⟩ := Py.bind_ok.mp h
  obtain rfl := loadedCheckpoint_world hload
  obtain ⟨result, u, hscan, hrest⟩ := Py.bind_ok.mp hrest
  obtain ⟨ref, u', hsave, hrest⟩ := Py.bind_ok.mp hrest
  obtain ⟨targetRows, htarget, hrest⟩ := Py.ofExcept_ok hrest
  cases hrest
  exact ⟨loaded, result, u, ref, targetRows, hload, hscan, hsave, htarget, rfl⟩

theorem saveScanCheckpoint_stored {checkpoint : Checkpoint} {w t : ScanWorld} {ref : String}
    (h : saveScanCheckpoint calls checkpoint w = (.ok ref, t)) :
    t.checkpoint = some checkpoint := by
  unfold saveScanCheckpoint at h
  cases hs : calls.save w.stored.length <;> simp only [hs] at h <;> cases h
  rfl

/-- A save that returned stored the checkpoint of the evidence. -/
theorem saveCheckpoint_stored {e : ScanEvidence} {w t : ScanWorld} {ref : Option String}
    (identified : args.sourceCheckpointId ≠ "")
    (h : saveCheckpoint calls args readings e w = (.ok ref, t)) :
    t.checkpoint = some (args.checkpoint readings e (calls.savedAt w.stored.length)) := by
  unfold saveCheckpoint at h
  rw [if_neg identified] at h
  split at h <;> rename_i hsave <;> cases h
  exact saveScanCheckpoint_stored hsave

theorem updateScanCheckpointReportRef_lastKey {report : ReportCalls} {id reportRef : String}
    {w t : ScanWorld}
    (h : updateScanCheckpointReportRef calls report id reportRef w = (.ok (), t)) :
    t.checkpoint.bind Checkpoint.lastKey = w.checkpoint.bind Checkpoint.lastKey := by
  unfold updateScanCheckpointReportRef at h
  split at h
  · cases h
    rfl
  · cases hl : report.reloadFailure <;> cases hc : w.checkpoint <;> simp only [hl, hc] at h
    · cases h
      simp [hc]
    · split at h <;> rename_i hsave <;> cases h
      rw [saveScanCheckpoint_stored hsave, Option.bind_some, Option.bind_some]
    · cases h
    · cases h

/-- A run without a reset loads what the store holds. -/
theorem loadedCheckpoint_loaded {w t : ScanWorld} {loaded : Option Checkpoint}
    (identified : args.sourceCheckpointId ≠ "") (kept : args.sourceResetCheckpoint = false)
    (h : loadedCheckpoint calls args w = (.ok loaded, t)) : loaded = w.checkpoint := by
  unfold loadedCheckpoint loadScanCheckpoint at h
  rw [if_neg (by simp [identified, kept])] at h
  cases hl : calls.loadFailure <;> cases hc : w.checkpoint <;> simp only [hl, hc] at h
  · cases h
    rfl
  · split at h <;> cases h
    rfl
  · cases h
  · cases h

end Returned

/-- A complete report compares all the rows of a scan that started at the first
key and fetched pages to exhaustion. -/
theorem checkQueryInvariant_complete {calls : QueryCalls} {args : QueryArgs} {readings : Readings}
    {w t : ScanWorld} {report : DriftReport}
    (h : checkQueryInvariant calls args readings w = (.ok report, t))
    (complete : report.checkStatus = .complete) :
    ∃ pageSize pages, boundedSourceScanPageSize args.sourceScanPageSize = .ok pageSize ∧
      Pages args.keyField pageSize .null pages ∧ t.fetched = w.fetched ++ pages ∧
      report.checkedRecords = (pages.flatMap Prod.snd).length := by
  obtain ⟨loaded, result, u, ref, targetRows, hload, hscan, hsave, -, rfl⟩ :=
    checkQueryInvariant_returned h
  obtain ⟨falsy, completed⟩ := queryCheckStatus_complete.mp complete
  rw [resumeKey_falsy falsy] at hscan
  obtain ⟨size, hloop⟩ := executeSourceQueryKeyset_returned hscan
  have hsize : boundedSourceScanPageSize args.sourceScanPageSize =
      .ok (min args.sourceScanPageSize 5000).toNat :=
    boundedSourceScanPageSize_ok_iff.mpr ⟨size, rfl⟩
  obtain ⟨pages, hpages, hfetched, hrows⟩ := scanLoop_completed ScanWorld.fetched (by omega)
    (fun _ _ _ _ hp => (fetchLogged_ok hp).1) (fun _ _ _ hs => saveOnPage_fetched hs) hloop
    completed
  refine ⟨_, pages, hsize, hpages, ?_, ?_⟩
  · rw [saveCheckpoint_fetched hsave, hfetched]
  · simp [compareQueryResults, hrows, Scan.start]

end KubeDataGuard
