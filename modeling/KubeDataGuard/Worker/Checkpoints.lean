import KubeDataGuard.General.Places
import KubeDataGuard.Worker.Handoff
import KubeDataGuard.Worker.ReportStore

/-!
# The checkpoint store

`checkpoints` over the files of the report directory and the objects of the
report bucket. A checkpoint is stored at the place of its safe id, which
several ids may share, and loaded without a look at the id it was saved under.
-/

namespace KubeDataGuard

namespace Checkpoints

open Places

/-! ## Places -/

/-- A character of `[A-Za-z0-9_.-]`. -/
def isSafeChar (c : Char) : Bool := c.isAlphanum || c = '_' || c = '.' || c = '-'

/-- `re.sub(r"[^A-Za-z0-9_.-]+", "-", text)`; `within` a run of other characters. -/
def replaceUnsafe (within : Bool) : List Char → List Char
  | [] => []
  | c :: rest =>
    if isSafeChar c then c :: replaceUnsafe false rest
    else if within then replaceUnsafe true rest
    else '-' :: replaceUnsafe true rest

def stripDotsDashes (chars : List Char) : List Char :=
  rstripChars (fun c => c = '.' || c = '-') (chars.dropWhile fun c => c = '.' || c = '-')

def safeCheckpointId (checkpointId : String) : Except Raised String :=
  let safe := stripDotsDashes (replaceUnsafe false (stripChars checkpointId.toList))
  if safe = [] then
    .error (valueError "checkpoint_id must contain at least one safe character")
  else .ok (String.ofList (safe.take 180))

structure StoreSettings where
  reportStore : String
  reportDir : String
  reportBucket : String
  reportPrefix : String

def checkpointStore (settings : StoreSettings) : String :=
  (strip (if settings.reportStore = "" then "local" else settings.reportStore)).toLower

def checkpointFile (settings : StoreSettings) (safe : String) : String :=
  settings.reportDir ++ "/scan-checkpoints/" ++ safe ++ ".json"

def checkpointObject (settings : StoreSettings) (safe : String) : String :=
  s3Key settings.reportPrefix ("scan-checkpoints/" ++ safe ++ ".json")

def localCheckpointPath (settings : StoreSettings) (checkpointId : String) : Except Raised String :=
  (safeCheckpointId checkpointId).map (checkpointFile settings)

def checkpointS3Key (settings : StoreSettings) (checkpointId : String) : Except Raised String :=
  (safeCheckpointId checkpointId).map (checkpointObject settings)

/-! ## Calls -/

/-- The files and the objects, each the members of the JSON object it holds. -/
structure Store where
  files : String → Option Fields := fun _ => none
  objects : String → Option Fields := fun _ => none

def checkpointKind : String := "KubeDataGuardScanCheckpoint"

def normalizeCheckpointPayload (checkpointId : String) (payload : Fields) (now : Instant) : Fields :=
  ((payload.set "kind" (.str checkpointKind)).set "checkpoint_id" (.str checkpointId)).set
    "updated_at" (.str (iso now))

section Calls

variable (settings : StoreSettings)

def bucketRequired : Raised := valueError "REPORT_BUCKET is required when REPORT_STORE=s3"

def unsupportedStore : Raised :=
  valueError ("unsupported REPORT_STORE for checkpoints: " ++ settings.reportStore)

/-- `json.loads(path.read_text())` where the file exists. -/
def readFile (path : String) : Py Store (Option Fields) := fun s => (.ok (s.files path), s)

def getObject (key : String) : Py Store (Option Fields) := fun s => (.ok (s.objects key), s)

/-- `path.write_text(json.dumps(payload))` -/
def writeFile (path : String) (payload : Fields) : Py Store Unit := fun s =>
  if (Json.obj payload).dumps then
    (.ok (), { s with files := Function.update s.files path (some payload) })
  else (.error notSerializable, s)

/-- `client.put_object(Key=key, Body=json.dumps(payload))` -/
def putObject (key : String) (payload : Fields) : Py Store Unit := fun s =>
  if (Json.obj payload).dumps then
    (.ok (), { s with objects := Function.update s.objects key (some payload) })
  else (.error notSerializable, s)

def loadS3Checkpoint (checkpointId : String) : Py Store (Option Fields) :=
  if settings.reportBucket = "" then Py.raise bucketRequired
  else do
    let key ← Py.ofExcept (checkpointS3Key settings checkpointId)
    getObject key

def saveS3Checkpoint (checkpointId : String) (payload : Fields) : Py Store String :=
  if settings.reportBucket = "" then Py.raise bucketRequired
  else do
    let key ← Py.ofExcept (checkpointS3Key settings checkpointId)
    putObject key payload
    return s3Ref settings.reportBucket key

def loadScanCheckpoint (checkpointId : String) : Py Store (Option Fields) :=
  if checkpointId = "" then pure none
  else if checkpointStore settings = "local" then do
    let path ← Py.ofExcept (localCheckpointPath settings checkpointId)
    readFile path
  else if checkpointStore settings = "s3" then loadS3Checkpoint settings checkpointId
  else Py.raise (unsupportedStore settings)

def saveScanCheckpoint (checkpointId : String) (payload : Fields) (now : Instant) :
    Py Store String :=
  if checkpointId = "" then Py.raise (valueError "checkpoint_id is required")
  else
    let normalized := normalizeCheckpointPayload checkpointId payload now
    if checkpointStore settings = "local" then do
      let path ← Py.ofExcept (localCheckpointPath settings checkpointId)
      writeFile path normalized
      return "file://" ++ path
    else if checkpointStore settings = "s3" then saveS3Checkpoint settings checkpointId normalized
    else Py.raise (unsupportedStore settings)

def updateCheckpointReportRef (checkpointId reportRef : String) (now : Instant) :
    Py Store (Option String) :=
  if checkpointId = "" then pure none
  else do
    match ← loadScanCheckpoint settings checkpointId with
    | none | some [] => pure none
    | some payload =>
      let ref ← saveScanCheckpoint settings checkpointId
        (payload.set "report_ref" (.str reportRef)) now
      return some ref

end Calls

inductive CheckpointCall
  | save (checkpointId : String) (payload : Fields) (now : Instant)
  | updateReportRef (checkpointId reportRef : String) (now : Instant)

namespace CheckpointCall

def checkpointId : CheckpointCall → String
  | save id _ _ | updateReportRef id _ _ => id

/-- What a call leaves in the store, also when it raises. -/
def run (settings : StoreSettings) (s : Store) : CheckpointCall → Store
  | save id payload now => (saveScanCheckpoint settings id payload now s).2
  | updateReportRef id reportRef now => (updateCheckpointReportRef settings id reportRef now s).2

end CheckpointCall

def runCalls (settings : StoreSettings) (calls : List CheckpointCall) : Store :=
  calls.foldl (CheckpointCall.run settings) {}

/-! ## What a caller may expect -/

/-- The payload of the last save under an id, with the report refs set since. -/
def lastSaved (id : String) (calls : List CheckpointCall) : Option Fields :=
  calls.foldl (fun saved call => match call with
    | .save other payload now =>
      if other = id ∧ (Json.obj (normalizeCheckpointPayload other payload now)).dumps then
        some payload
      else saved
    | .updateReportRef other reportRef _ =>
      if other = id then saved.map (·.set "report_ref" (.str reportRef)) else saved) none

/-- The members the store sets itself. -/
def storeKeys : List String := ["kind", "checkpoint_id", "updated_at"]

/-- A payload as it is stored under an id. -/
structure StoredAs (id : String) (payload stored : Fields) : Prop where
  kind : stored.get? "kind" = some (.str checkpointKind)
  checkpointId : stored.get? "checkpoint_id" = some (.str id)
  members : ∀ key, key ∉ storeKeys → stored.get? key = payload.get? key

/-! ## What a call changes -/

theorem dumps_set {members : Fields} (h : (Json.obj members).dumps = true) (key : String)
    {value : Json} (dumps : value.dumps = true) : (Json.obj (members.set key value)).dumps = true := by
  rw [dumpsMembers_iff] at h ⊢
  intro e he
  rcases List.mem_cons.mp he with rfl | he
  · exact dumps
  · exact h e (List.mem_filter.mp he).1

theorem dumps_normalize {payload : Fields} (h : (Json.obj payload).dumps = true) (id : String)
    (now : Instant) : (Json.obj (normalizeCheckpointPayload id payload now)).dumps = true :=
  dumps_set (dumps_set (dumps_set h _ rfl) _ rfl) _ rfl

theorem storedAs_normalize (id : String) (payload : Fields) (now : Instant) :
    StoredAs id payload (normalizeCheckpointPayload id payload now) := by
  refine ⟨?_, ?_, ?_⟩
  · simp [normalizeCheckpointPayload]
  · simp [normalizeCheckpointPayload]
  · intro key hk
    simp only [storeKeys, List.mem_cons, List.not_mem_nil, or_false, not_or] at hk
    simp [normalizeCheckpointPayload, hk]

theorem safe_nonempty {id safe : String} (h : safeCheckpointId id = .ok safe) : id ≠ "" := by
  rintro rfl
  cases h

/-- `REPORT_STORE` names one of the two stores, and the bucket it needs. -/
def Supported (settings : StoreSettings) : Prop :=
  checkpointStore settings = "local" ∨
    checkpointStore settings = "s3" ∧ settings.reportBucket ≠ ""

/-- What the store holds at the place of an id. -/
def held (settings : StoreSettings) (s : Store) : Except Raised String → Option Fields
  | .ok safe =>
    if checkpointStore settings = "local" then s.files (checkpointFile settings safe)
    else s.objects (checkpointObject settings safe)
  | .error _ => none

def CheckpointCall.edit : CheckpointCall → Edit String Fields
  | .save id payload now => ⟨id, fun old =>
      if (safeCheckpointId id).toBool ∧
          (Json.obj (normalizeCheckpointPayload id payload now)).dumps then
        some (normalizeCheckpointPayload id payload now)
      else old⟩
  | .updateReportRef id reportRef now => ⟨id, fun old => old.map fun payload =>
      normalizeCheckpointPayload id (payload.set "report_ref" (.str reportRef)) now⟩

theorem held_local {settings : StoreSettings} (store : checkpointStore settings = "local") (s : Store)
    (safe : String) : held settings s (.ok safe) = s.files (checkpointFile settings safe) :=
  if_pos store

theorem held_s3 {settings : StoreSettings} (store : checkpointStore settings ≠ "local") (s : Store)
    (safe : String) : held settings s (.ok safe) = s.objects (checkpointObject settings safe) :=
  if_neg store

theorem append_injective (before after : String) :
    Function.Injective fun name : String => before ++ name ++ after := by
  intro a b h
  have chars := congrArg String.toList h
  simp only [String.toList_append] at chars
  rw [List.append_left_inj, List.append_right_inj] at chars
  exact String.toList_inj.mp chars

theorem checkpointFile_injective (settings : StoreSettings) :
    Function.Injective (checkpointFile settings) :=
  append_injective (settings.reportDir ++ "/scan-checkpoints/") ".json"

theorem checkpointObject_injective (settings : StoreSettings) :
    Function.Injective (checkpointObject settings) := by
  intro a b h
  apply append_injective "scan-checkpoints/" ".json"
  unfold checkpointObject s3Key at h
  split at h
  · exact h
  · apply append_injective (stripSlashes settings.reportPrefix ++ "/") ""
    simpa using h

/-- The store with a payload written at the place of a safe id. -/
def put (settings : StoreSettings) (s : Store) (safe : String) (payload : Fields) : Store :=
  if checkpointStore settings = "local" then
    { s with files := Function.update s.files (checkpointFile settings safe) (some payload) }
  else
    { s with objects := Function.update s.objects (checkpointObject settings safe) (some payload) }

section Put

variable {settings : StoreSettings} {s : Store} {safe : String} {payload : Fields}

theorem put_files (store : checkpointStore settings = "local") :
    (put settings s safe payload).files =
      Function.update s.files (checkpointFile settings safe) (some payload) := by
  rw [put, if_pos store]

theorem put_objects (store : checkpointStore settings ≠ "local") :
    (put settings s safe payload).objects =
      Function.update s.objects (checkpointObject settings safe) (some payload) := by
  rw [put, if_neg store]

end Put

theorem held_put (settings : StoreSettings) (s : Store) (safe : String) (payload : Fields) :
    held settings (put settings s safe payload) =
      Function.update (held settings s) (.ok safe) (some payload) := by
  funext place
  cases place with
  | error e =>
    have other : Except.error e ≠ (Except.ok safe : Except Raised String) := nofun
    rw [Function.update_of_ne other]
    rfl
  | ok other =>
    have update : Function.update (held settings s) (.ok safe) (some payload) (.ok other) =
        if other = safe then some payload else held settings s (.ok other) := by
      by_cases same : other = safe
      · rw [if_pos same, same, Function.update_self]
      · rw [if_neg same, Function.update_of_ne fun h => same (Except.ok.inj h)]
    rw [update]
    by_cases store : checkpointStore settings = "local"
    · rw [held_local store, held_local store, put_files store]
      by_cases same : other = safe
      · rw [if_pos same, same, Function.update_self]
      · rw [if_neg same, Function.update_of_ne ((checkpointFile_injective settings).ne same)]
    · rw [held_s3 store, held_s3 store, put_objects store]
      by_cases same : other = safe
      · rw [if_pos same, same, Function.update_self]
      · rw [if_neg same, Function.update_of_ne ((checkpointObject_injective settings).ne same)]

theorem s3_not_local : "s3" ≠ "local" := by decide

section Held

variable {settings : StoreSettings} (supported : Supported settings)

include supported

theorem load_held {id safe : String} (accepted : safeCheckpointId id = .ok safe) (s : Store) :
    loadScanCheckpoint settings id s = (.ok (held settings s (.ok safe)), s) := by
  have nonempty := safe_nonempty accepted
  unfold loadScanCheckpoint
  rw [if_neg nonempty]
  rcases supported with store | ⟨store, bucket⟩
  · rw [if_pos store, localCheckpointPath, accepted, held_local store]
    rfl
  · have other : checkpointStore settings ≠ "local" := store ▸ s3_not_local
    rw [if_neg other, if_pos store, loadS3Checkpoint, if_neg bucket, checkpointS3Key, accepted,
      held_s3 other]
    rfl

theorem load_rejected {id : String} {e : Raised} (nonempty : id ≠ "")
    (rejected : safeCheckpointId id = .error e) (s : Store) :
    loadScanCheckpoint settings id s = (.error e, s) := by
  unfold loadScanCheckpoint
  rw [if_neg nonempty]
  rcases supported with store | ⟨store, bucket⟩
  · rw [if_pos store, localCheckpointPath, rejected]
    rfl
  · have other : checkpointStore settings ≠ "local" := store ▸ s3_not_local
    rw [if_neg other, if_pos store, loadS3Checkpoint, if_neg bucket, checkpointS3Key, rejected]
    rfl

/-- A save writes at the place of its id, or raises and writes nothing. -/
theorem save_put (id : String) (payload : Fields) (now : Instant) (s : Store) :
    (saveScanCheckpoint settings id payload now s).2 = match safeCheckpointId id with
      | .ok safe =>
        if (Json.obj (normalizeCheckpointPayload id payload now)).dumps then
          put settings s safe (normalizeCheckpointPayload id payload now)
        else s
      | .error _ => s := by
  by_cases empty : id = ""
  · subst empty
    rfl
  unfold saveScanCheckpoint
  rw [if_neg empty]
  rcases supported with store | ⟨store, bucket⟩
  · rw [if_pos store, localCheckpointPath]
    cases safeCheckpointId id with
    | error e => rfl
    | ok safe =>
      dsimp only
      rw [put, if_pos store, Py.bind_run]
      simp only [Except.map, Py.ofExcept_run, Py.bind_run, writeFile]
      by_cases dumps : (Json.obj (normalizeCheckpointPayload id payload now)).dumps = true
      · simp only [if_pos dumps]
        rfl
      · simp only [if_neg dumps]
  · have other : checkpointStore settings ≠ "local" := store ▸ s3_not_local
    rw [if_neg other, if_pos store, saveS3Checkpoint, if_neg bucket, checkpointS3Key]
    cases safeCheckpointId id with
    | error e => rfl
    | ok safe =>
      dsimp only
      rw [put, if_neg other, Py.bind_run]
      simp only [Except.map, Py.ofExcept_run, Py.bind_run, putObject]
      by_cases dumps : (Json.obj (normalizeCheckpointPayload id payload now)).dumps = true
      · simp only [if_pos dumps]
        rfl
      · simp only [if_neg dumps]

end Held

/-! ## Runs -/

/-- Whatever is stored has a JSON form and a member, so that a later call can load and
store it again. -/
def Storable (settings : StoreSettings) (s : Store) : Prop :=
  ∀ place payload, held settings s place = some payload →
    (Json.obj payload).dumps = true ∧ payload ≠ []

theorem bind_pure_state {σ α β : Type} (x : Py σ α) (f : α → β) (s : σ) :
    ((x >>= fun a => pure (f a)) s).2 = (x s).2 := by
  rw [Py.bind_run]
  cases x s with
  | mk r t => cases r <;> rfl

theorem normalize_ne_nil (id : String) (payload : Fields) (now : Instant) :
    normalizeCheckpointPayload id payload now ≠ [] :=
  List.cons_ne_nil _ _

/-- An edit stores what can be loaded and stored again. -/
theorem edit_storable {call : CheckpointCall} {old : Option Fields}
    (storable : ∀ payload, old = some payload → (Json.obj payload).dumps = true ∧ payload ≠ [])
    {stored : Fields} (changed : call.edit.change old = some stored) :
    (Json.obj stored).dumps = true ∧ stored ≠ [] := by
  cases call with
  | save id payload now =>
    simp only [CheckpointCall.edit] at changed
    split at changed
    · rename_i dumps
      cases changed
      exact ⟨dumps.2, normalize_ne_nil id payload now⟩
    · exact storable stored changed
  | updateReportRef id reportRef now =>
    obtain ⟨payload, found, rfl⟩ := Option.map_eq_some_iff.mp changed
    obtain ⟨dumps, -⟩ := storable payload found
    exact ⟨dumps_normalize (dumps_set dumps _ rfl) id now, normalize_ne_nil id _ now⟩

section Run

variable {settings : StoreSettings} (supported : Supported settings)

include supported

theorem save_edit (id : String) (payload : Fields) (now : Instant) (s : Store) :
    held settings (saveScanCheckpoint settings id payload now s).2 =
      Function.update (held settings s) (safeCheckpointId id)
        ((CheckpointCall.save id payload now).edit.change
          (held settings s (safeCheckpointId id))) := by
  rw [save_put supported]
  simp only [CheckpointCall.edit]
  cases safeCheckpointId id with
  | error e => simp [Except.toBool]
  | ok safe =>
    by_cases dumps : (Json.obj (normalizeCheckpointPayload id payload now)).dumps = true
    · simp [Except.toBool, dumps, held_put]
    · simp [dumps]

/-- An update loads what is at the place of its id and saves it under its own. -/
theorem update_edit {s : Store} (storable : Storable settings s) (id reportRef : String)
    (now : Instant) :
    held settings (updateCheckpointReportRef settings id reportRef now s).2 =
      Function.update (held settings s) (safeCheckpointId id)
        ((CheckpointCall.updateReportRef id reportRef now).edit.change
          (held settings s (safeCheckpointId id))) := by
  simp only [CheckpointCall.edit]
  by_cases empty : id = ""
  · subst empty
    have rejected : ∃ e, safeCheckpointId "" = .error e := ⟨_, rfl⟩
    obtain ⟨e, rejected⟩ := rejected
    rw [rejected, show held settings s (.error e) = none from rfl, Option.map_none]
    exact (Function.update_eq_self ..).symm
  unfold updateCheckpointReportRef
  rw [if_neg empty, Py.bind_run]
  cases accepted : safeCheckpointId id with
  | error e =>
    rw [load_rejected supported empty accepted, show held settings s (.error e) = none from rfl,
      Option.map_none]
    exact (Function.update_eq_self ..).symm
  | ok safe =>
    rw [load_held supported accepted]
    cases found : held settings s (.ok safe) with
    | none =>
      have same := Function.update_eq_self (Except.ok safe) (held settings s)
      rw [found] at same
      exact same.symm
    | some payload =>
      obtain ⟨dumps, nonempty⟩ := storable _ _ found
      have saved := save_edit supported id (payload.set "report_ref" (.str reportRef)) now s
      have written := dumps_normalize (dumps_set dumps "report_ref"
        (rfl : (Json.str reportRef).dumps = true)) id now
      simp only [CheckpointCall.edit, accepted] at saved
      rw [if_pos ⟨rfl, written⟩] at saved
      cases payload with
      | nil => exact absurd rfl nonempty
      | cons member members => exact (congrArg (held settings) (bind_pure_state _ _ s)).trans saved

omit supported in
theorem edit_name (call : CheckpointCall) : call.edit.name = call.checkpointId := by
  cases call <;> rfl

/-- A call is its edit at the place of its id. -/
theorem run_edit {s : Store} (storable : Storable settings s) (call : CheckpointCall) :
    held settings (call.run settings s) =
      Function.update (held settings s) (safeCheckpointId call.edit.name)
        (call.edit.change (held settings s (safeCheckpointId call.edit.name))) := by
  cases call with
  | save id payload now => exact save_edit supported id payload now s
  | updateReportRef id reportRef now => exact update_edit supported storable id reportRef now

theorem run_storable {s : Store} (storable : Storable settings s) (call : CheckpointCall) :
    Storable settings (call.run settings s) := by
  intro place payload found
  rw [run_edit supported storable] at found
  by_cases here : place = safeCheckpointId call.edit.name
  · subst here
    rw [Function.update_self] at found
    exact edit_storable (storable _) found
  · rw [Function.update_of_ne here] at found
    exact storable place payload found

omit supported in
theorem storable_empty (settings : StoreSettings) : Storable settings {} := by
  intro place payload found
  cases place with
  | error e => cases found
  | ok safe =>
    rw [held] at found
    split at found <;> cases found

/-- After a run every place holds what the edits of its calls leave there. -/
theorem runCalls_placed (calls : List CheckpointCall) :
    held settings (runCalls settings calls) = placed safeCheckpointId CheckpointCall.edit calls ∧
      Storable settings (runCalls settings calls) := by
  induction calls using List.reverseRecOn with
  | nil =>
    refine ⟨?_, storable_empty settings⟩
    funext place
    cases place with
    | error e => rfl
    | ok safe =>
      rw [held]
      split <;> rfl
  | append_singleton calls call ih =>
    obtain ⟨agree, storable⟩ := ih
    rw [runCalls, List.foldl_append]
    refine ⟨?_, run_storable supported storable call⟩
    rw [placed_concat, ← agree]
    exact run_edit supported storable call

end Run

/-! ## Isolation -/

/-- What a load returns is what was last saved under the id. -/
def Isolated (settings : StoreSettings) (id : String) (calls : List CheckpointCall) : Prop :=
  ∃ loaded, (loadScanCheckpoint settings id (runCalls settings calls)).1 = .ok loaded ∧
    Option.Rel (StoredAs id) (lastSaved id calls) loaded

/-- A call under another id of the place of `id` that stores something there. -/
def CheckpointCall.Overwrites (id : String) (before : List CheckpointCall) : CheckpointCall → Prop
  | .save other payload now => (Json.obj (normalizeCheckpointPayload other payload now)).dumps = true
  | .updateReportRef _ _ _ => (lastSaved id before).isSome = true

theorem save_change (id : String) (payload : Fields) (now : Instant) (old : Option Fields) :
    (CheckpointCall.save id payload now).edit.change old =
      if (safeCheckpointId id).toBool ∧
          (Json.obj (normalizeCheckpointPayload id payload now)).dumps then
        some (normalizeCheckpointPayload id payload now)
      else old := by
  rw [CheckpointCall.edit]

/-- What an edit leaves is what was there, or carries the id of the edit. -/
theorem edit_own (call : CheckpointCall) (old : Option Fields) : call.edit.change old = old ∨
    ∃ stored, call.edit.change old = some stored ∧
      stored.get? "checkpoint_id" = some (.str call.edit.name) := by
  cases call with
  | save id payload now =>
    by_cases saves : (safeCheckpointId id).toBool ∧
        (Json.obj (normalizeCheckpointPayload id payload now)).dumps = true
    · rw [save_change, if_pos saves]
      exact Or.inr ⟨_, rfl, (storedAs_normalize id payload now).checkpointId⟩
    · rw [save_change, if_neg saves]
      exact Or.inl rfl
  | updateReportRef id reportRef now =>
    cases old with
    | none => exact Or.inl rfl
    | some payload => exact Or.inr ⟨_, rfl, (storedAs_normalize id _ now).checkpointId⟩

theorem lastSaved_concat (id : String) (calls : List CheckpointCall) (call : CheckpointCall) :
    lastSaved id (calls ++ [call]) = match call with
      | .save other payload now =>
        if other = id ∧ (Json.obj (normalizeCheckpointPayload other payload now)).dumps then
          some payload
        else lastSaved id calls
      | .updateReportRef other reportRef _ =>
        if other = id then (lastSaved id calls).map (·.set "report_ref" (.str reportRef))
        else lastSaved id calls := by
  rw [lastSaved, List.foldl_append]
  cases call <;> rfl

theorem StoredAs.set {id : String} {payload stored : Fields} (h : StoredAs id payload stored)
    (key : String) (value : Json) (now : Instant) :
    StoredAs id (payload.set key value) (normalizeCheckpointPayload id (stored.set key value) now) := by
  have normalized := storedAs_normalize id (stored.set key value) now
  refine ⟨normalized.kind, normalized.checkpointId, ?_⟩
  intro other member
  rw [normalized.members other member]
  by_cases same : other = key
  · rw [same, Fields.get?_set_self, Fields.get?_set_self]
  · rw [Fields.get?_set_ne _ _ same, Fields.get?_set_ne _ _ same, h.members other member]

theorem storedAs_map_set {id : String} {saved kept : Option Fields}
    (h : Option.Rel (StoredAs id) saved kept) (key : String) (value : Json) (now : Instant) :
    Option.Rel (StoredAs id) (saved.map (·.set key value))
      (kept.map fun stored => normalizeCheckpointPayload id (stored.set key value) now) := by
  cases h with
  | none => exact .none
  | some stored => exact .some (stored.set key value now)

/-- A store by ids holds what was last saved under each of them. -/
theorem named_storedAs {id safe : String} (accepted : safeCheckpointId id = .ok safe)
    (calls : List CheckpointCall) :
    Option.Rel (StoredAs id) (lastSaved id calls) (named CheckpointCall.edit calls id) := by
  induction calls using List.reverseRecOn with
  | nil => exact .none
  | append_singleton calls call ih =>
    rw [lastSaved_concat]
    cases call with
    | save other payload now =>
      by_cases own : other = id
      · subst own
        rw [named_concat, CheckpointCall.edit, Function.update_self, accepted]
        by_cases dumps : (Json.obj (normalizeCheckpointPayload other payload now)).dumps = true
        · simp only [dumps, Except.toBool, and_self, if_true]
          exact .some (storedAs_normalize other payload now)
        · simp only [dumps, and_false, if_false, Bool.false_eq_true]
          exact ih
      · rw [named_concat_ne own]
        simpa only [own, false_and, if_false] using ih
    | updateReportRef other reportRef now =>
      by_cases own : other = id
      · subst own
        rw [named_concat, CheckpointCall.edit, Function.update_self]
        simp only [if_true]
        exact storedAs_map_set ih "report_ref" _ now
      · rw [named_concat_ne own]
        simpa only [own, if_false] using ih

theorem rel_of_some {α β : Type} {R : α → β → Prop} {a : Option α} {b : β}
    (h : Option.Rel R a (some b)) : ∃ x, a = some x ∧ R x b := by
  cases h with
  | some hr => exact ⟨_, rfl, hr⟩

theorem rel_of_none {α β : Type} {R : α → β → Prop} {a : Option α} (h : Option.Rel R a none) :
    a = none := by
  cases h
  rfl

/-- Under another id of its place, a call leaves what an id holds as it is exactly when
it does not overwrite it. -/
theorem calm_iff {id safe : String} (accepted : safeCheckpointId id = .ok safe)
    (before : List CheckpointCall) {call : CheckpointCall} (other : call.edit.name ≠ id)
    (same : safeCheckpointId call.edit.name = safeCheckpointId id) :
    call.edit.change (named CheckpointCall.edit before id) =
      named CheckpointCall.edit before id ↔ ¬call.Overwrites id before := by
  have rel := named_storedAs accepted before
  -- what the call stores carries its own id, not this one
  have foreign : ∀ stored, named CheckpointCall.edit before id = some stored →
      stored.get? "checkpoint_id" ≠ some (.str call.edit.name) := by
    intro stored found given
    rw [found] at rel
    obtain ⟨_, -, kept⟩ := rel_of_some rel
    rw [kept.checkpointId] at given
    cases given
    exact other rfl
  cases call with
  | save name payload now =>
    have writes : (safeCheckpointId name).toBool = true := by
      rw [show safeCheckpointId name = .ok safe from same.trans accepted]
      rfl
    simp only [CheckpointCall.Overwrites]
    by_cases dumps : (Json.obj (normalizeCheckpointPayload name payload now)).dumps = true
    · rw [save_change, if_pos ⟨writes, dumps⟩]
      refine iff_of_false ?_ (fun h => h dumps)
      intro kept
      exact foreign _ kept.symm (storedAs_normalize name payload now).checkpointId
    · rw [save_change, if_neg fun h => dumps h.2]
      exact iff_of_true rfl dumps
  | updateReportRef name reportRef now =>
    simp only [CheckpointCall.Overwrites]
    cases found : named CheckpointCall.edit before id with
    | none =>
      rw [found] at rel
      simp [CheckpointCall.edit, rel_of_none rel]
    | some stored =>
      rw [found] at rel
      obtain ⟨payload, saved, -⟩ := rel_of_some rel
      rw [saved]
      refine iff_of_false ?_ (fun h => h rfl)
      intro kept
      exact foreign stored found (Option.some.inj kept ▸
        (storedAs_normalize name (stored.set "report_ref" (.str reportRef)) now).checkpointId)

theorem isolated_of_agree {settings : StoreSettings} (supported : Supported settings) {id safe : String}
    (accepted : safeCheckpointId id = .ok safe) {calls : List CheckpointCall}
    (agree : placed safeCheckpointId CheckpointCall.edit calls (safeCheckpointId id) =
      named CheckpointCall.edit calls id) : Isolated settings id calls := by
  refine ⟨named CheckpointCall.edit calls id, ?_, named_storedAs accepted calls⟩
  rw [load_held supported accepted, (runCalls_placed supported calls).1, ← accepted, agree]

/-- All along a run a load returns what was last saved under the id, exactly when no call
under another id of its place overwrites it. -/
theorem isolated_iff {settings : StoreSettings} (supported : Supported settings) {id safe : String}
    (accepted : safeCheckpointId id = .ok safe) (calls : List CheckpointCall) :
    (∀ before, before <+: calls → Isolated settings id before) ↔
      ∀ before call, before ++ [call] <+: calls → call.checkpointId ≠ id →
        safeCheckpointId call.checkpointId = safeCheckpointId id → ¬call.Overwrites id before := by
  constructor
  · intro isolated before call hp other same
    rw [← edit_name] at other same
    refine (calm_iff accepted before other same).mp
      (placed_eq_named_iff.mp (fun b hb => ?_) before call hp other same)
    apply placed_eq_named_of_kept
    intro earlier next hnext foreign here
    obtain ⟨loaded, load, rel⟩ := isolated _ (hnext.trans hb)
    rw [load_held supported accepted, (runCalls_placed supported _).1, ← accepted] at load
    cases load
    rw [placed_concat, here, Function.update_self] at rel ⊢
    rcases edit_own next (placed safeCheckpointId CheckpointCall.edit earlier (safeCheckpointId id))
      with kept | ⟨stored, changed, owner⟩
    · exact kept
    · rw [changed] at rel
      obtain ⟨_, -, own⟩ := rel_of_some rel
      rw [own.checkpointId] at owner
      cases owner
      exact absurd rfl foreign
  · intro calm before hb
    apply isolated_of_agree supported accepted
    refine placed_eq_named_iff.mpr ?_ before hb
    intro earlier call hc other same
    rw [calm_iff accepted earlier other same]
    rw [edit_name] at other same
    exact calm earlier call hc other same

/-! Two ids that meet in one file: the second is given the checkpoint of the first. -/

def localSettings : StoreSettings := ⟨"local", "/reports", "", ""⟩

def ordersQuerySave : CheckpointCall :=
  .save "orders/query" [("last_key", .str "order-10"), ("query_hash", .str "abc123")] 0

theorem localSettings_supported : Supported localSettings := Or.inl (by decide +kernel)

theorem shared_place_loads_other :
    safeCheckpointId "orders/query" = .ok "orders-query" ∧
      safeCheckpointId "orders-query" = .ok "orders-query" ∧
      ¬Isolated localSettings "orders-query" [ordersQuerySave] := by
  refine ⟨by decide +kernel, by decide +kernel, ?_⟩
  rintro ⟨loaded, load, rel⟩
  have unsaved : lastSaved "orders-query" [ordersQuerySave] = none := rfl
  have found : ((loadScanCheckpoint localSettings "orders-query"
      (runCalls localSettings [ordersQuerySave])).1.toOption.join).isSome = true := by decide +kernel
  rw [unsaved] at rel
  cases rel
  rw [load] at found
  exact absurd found (by decide)

/-- Between the calls of one id there are calls of another, with a place of its own. -/
def twoIdsCalls : List CheckpointCall :=
  [ordersQuerySave, .save "customers/query" [("last_key", .str "customer-7")] 0,
    .updateReportRef "orders/query" "file:///reports/drift.json" 0,
    .updateReportRef "customers/query" "file:///reports/drift.json" 0]

theorem isolated_iff_two_ids : safeCheckpointId "orders/query" = .ok "orders-query" ∧
    safeCheckpointId "customers/query" = .ok "customers-query" ∧
    Isolated localSettings "orders/query" twoIdsCalls := by
  have orders : safeCheckpointId "orders/query" = .ok "orders-query" := by decide +kernel
  have customers : safeCheckpointId "customers/query" = .ok "customers-query" := by decide +kernel
  refine ⟨orders, customers, ?_⟩
  refine (isolated_iff localSettings_supported orders twoIdsCalls).mpr ?_ _ List.prefix_rfl
  intro before call prefix_ other same
  have mem := prefix_.subset (List.mem_append_right before (List.mem_singleton_self call))
  rw [orders] at same
  simp only [twoIdsCalls, List.mem_cons, List.not_mem_nil, or_false] at mem
  rcases mem with rfl | rfl | rfl | rfl
  · exact absurd rfl other
  · exact absurd (customers.symm.trans same) (by decide)
  · exact absurd rfl other
  · exact absurd (customers.symm.trans same) (by decide)

end Checkpoints

end KubeDataGuard
