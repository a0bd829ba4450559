import KubeDataGuard.Worker.Query

/-!
# What a stored checkpoint covers

Runs of the query check that share a checkpoint, each of which may raise at any
of its external calls. The store is a function of the runs so far. A row the
checkpoint has passed was fetched by some run, but that run need not have
compared it: the checkpoint is stored before the target is read.
-/

namespace KubeDataGuard

/-- A source result with distinct, non-null keys, in key order. Postgres orders
keys totally and reads the text of a key back as that key. -/
structure KeyedSource (K : Type) [LinearOrder K] where
  rank : Value → K
  keyField : String
  rows : List Row
  keyed : Keyed keyField rows
  ascending : rows.Pairwise fun a b => rank (a.get keyField) < rank (b.get keyField)
  readBack : ∀ row ∈ rows, rank (.str (row.get keyField).text) = rank (row.get keyField)

variable {K : Type} [LinearOrder K] (source : KeyedSource K)

/-- One run over the source, with no resume key of its own. -/
structure QueryRun where
  calls : QueryCalls
  args : QueryArgs
  readings : Readings
  report : ReportCalls
  reads : ∀ i after limit page, calls.fetchPage i after limit = .ok page →
    page = pageQuery source.rank source.keyField source.rows after limit
  keyField : args.keyField = source.keyField
  fromCheckpoint : args.sourceResumeAfterKey = none

variable {source}

namespace QueryRun

variable (run : QueryRun source) (before : Option Checkpoint)

def exec : Except Raised DriftReport × ScanWorld :=
  checkQueryAndReport run.calls run.args run.readings run.report { checkpoint := before }

def returned : Bool := (run.exec before).1.toBool

def fetched : List Row := (run.exec before).2.fetched.flatMap Prod.snd

def stored : List Checkpoint := (run.exec before).2.stored

end QueryRun

/-- The checkpoint after some runs, the latest first. -/
def storeAfter : List (QueryRun source) → Option Checkpoint
  | [] => none
  | run :: earlier => (run.exec (storeAfter earlier)).2.checkpoint

variable (source)

/-- The checkpoint has passed the row: a run resumed from it skips the row. -/
def Passed (row : Row) (checkpoint : Option Checkpoint) : Prop :=
  ∃ c key, checkpoint = some c ∧ c.lastKey = some key ∧
    source.rank (row.get source.keyField) ≤ source.rank (.str key)

/-- The row was compared with the target in a run that returned its report. -/
def Compared (history : List (QueryRun source)) (row : Row) : Prop :=
  ∃ run earlier, (run :: earlier) <:+ history ∧ run.returned (storeAfter earlier) = true ∧
    row ∈ run.fetched (storeAfter earlier)

/-- The row was fetched by a run that raised after it had stored a checkpoint past it. -/
def LeftBehind (history : List (QueryRun source)) (row : Row) : Prop :=
  ∃ run earlier, (run :: earlier) <:+ history ∧ run.returned (storeAfter earlier) = false ∧
    row ∈ run.fetched (storeAfter earlier) ∧
    ∃ c ∈ run.stored (storeAfter earlier), Passed source row (some c)

/-! ## One run -/

section Run

variable {source} {before : Option Checkpoint} {run : QueryRun source}

/-- Fetched in this run, or passed before it began. -/
def Known (source : KeyedSource K) (before : Option Checkpoint) (w : ScanWorld) (row : Row) : Prop :=
  Passed source row before ∨ row ∈ w.fetched.flatMap Prod.snd

/-- The store is as before, or this run stored it and knows the rows it passed. -/
def Sound (source : KeyedSource K) (before : Option Checkpoint) (w : ScanWorld) : Prop :=
  w.checkpoint = before ∨ ∃ c ∈ w.stored, w.checkpoint = some c ∧
    ∀ row ∈ source.rows, Passed source row (some c) → Known source before w row

/-- Every row up to a key is known. -/
def KnownUpTo (source : KeyedSource K) (before : Option Checkpoint) (w : ScanWorld)
    (key : Value) : Prop :=
  ∀ row ∈ source.rows, source.rank (row.get source.keyField) ≤ source.rank key →
    Known source before w row

theorem sound_fetch {after : Value} {limit : Nat} {w t : ScanWorld} {r : Except Raised (List Row)}
    (h : fetchLogged run.calls after limit w = (r, t)) (sound : Sound source before w) :
    Sound source before t := by
  unfold fetchLogged at h
  split at h
  · cases h
    exact sound
  · cases h
    rcases sound with same | ⟨c, hc, hcheck, known⟩
    · exact Or.inl same
    · refine Or.inr ⟨c, hc, hcheck, ?_⟩
      intro row hr passed
      rcases known row hr passed with old | new
      · exact Or.inl old
      · exact Or.inr (by simp only [List.flatMap_append, List.mem_append]; exact Or.inl new)

theorem sound_saveScan {checkpoint : Checkpoint} {w t : ScanWorld} {r : Except Raised String}
    (h : saveScanCheckpoint run.calls checkpoint w = (r, t)) (sound : Sound source before w)
    (known : ∀ row ∈ source.rows, Passed source row (some checkpoint) → Known source before w row) :
    Sound source before t ∧ t.fetched = w.fetched := by
  have stored : Sound source before
      { w with checkpoint := some checkpoint, stored := w.stored ++ [checkpoint] } :=
    Or.inr ⟨checkpoint, by simp, rfl, known⟩
  unfold saveScanCheckpoint at h
  cases hs : run.calls.save w.stored.length <;> simp only [hs] at h <;> cases h
  · exact ⟨stored, rfl⟩
  · exact ⟨sound, rfl⟩
  · exact ⟨stored, rfl⟩

theorem sound_save {e : ScanEvidence} {w t : ScanWorld} {r : Except Raised (Option String)}
    (h : saveCheckpoint run.calls run.args run.readings e w = (r, t))
    (sound : Sound source before w)
    (known : ∀ key, e.lastKey = some key → KnownUpTo source before w (.str key)) :
    Sound source before t ∧ t.fetched = w.fetched := by
  unfold saveCheckpoint at h
  split at h
  · cases h
    exact ⟨sound, rfl⟩
  · cases hs : saveScanCheckpoint run.calls
      (run.args.checkpoint run.readings e (run.calls.savedAt w.stored.length)) w with
    | mk saved u =>
      have after := sound_saveScan hs sound (by
        rintro row hr ⟨c, key, hc, hkey, le⟩
        cases hc
        exact known key hkey row hr le)
      rw [hs] at h
      cases saved <;> cases h <;> exact after

theorem sound_saveOnPage {e : ScanEvidence} {w t : ScanWorld} {r : Except Raised Unit}
    (h : saveOnPage run.calls run.args run.readings e w = (r, t)) (sound : Sound source before w)
    (known : ∀ key, e.lastKey = some key → KnownUpTo source before w (.str key)) :
    Sound source before t ∧ t.fetched = w.fetched := by
  rcases Py.bind_cases h with ⟨_, hs, -⟩ | ⟨_, u, hs, hrest⟩
  · exact sound_save hs sound known
  · cases hrest
    exact sound_save hs sound known

theorem mem_page {after : Value} {limit : Nat} {row last : Row} (hr : row ∈ source.rows)
    (hlast : (pageQuery source.rank source.keyField source.rows after limit).getLast? = some last)
    (beyond : after.isNone = false → source.rank after < source.rank (row.get source.keyField))
    (le : source.rank (row.get source.keyField) ≤ source.rank (last.get source.keyField)) :
    row ∈ pageQuery source.rank source.keyField source.rows after limit := by
  obtain ⟨rest, hpage, hmem, sorted⟩ : ∃ rest : List Row,
      pageQuery source.rank source.keyField source.rows after limit = rest.take limit ∧
        row ∈ rest ∧ rest.Pairwise fun a b =>
          source.rank (a.get source.keyField) < source.rank (b.get source.keyField) := by
    unfold pageQuery
    split
    · exact ⟨_, rfl, hr, source.ascending⟩
    · rename_i resumed
      refine ⟨_, rfl, ?_, List.Pairwise.sublist List.filter_sublist source.ascending⟩
      have past := beyond (by simpa using resumed)
      simp [hr, (source.keyed row hr).2, past]
  rw [hpage] at hlast ⊢
  rw [← List.take_append_drop limit rest] at hmem sorted
  rcases List.mem_append.mp hmem with h | h
  · exact h
  · -- what the limit cut off has a greater key than the last row
    have := (List.pairwise_append.mp sorted).2.2 last (List.mem_of_getLast? hlast) row h
    exact absurd le (not_le.mpr this)

/-- What a scan knows of the rows it has passed. -/
def ScanKnown (source : KeyedSource K) (before : Option Checkpoint) (w : ScanWorld) (scan : Scan) :
    Prop :=
  (scan.lastKey.isNone = false → KnownUpTo source before w scan.lastKey) ∧
    ∀ key, scan.lastKeyText = some key → KnownUpTo source before w (.str key)

theorem known_page {scan scanned : Scan} {limit : Nat} {page : List Row} {w t : ScanWorld}
    (hpage : page = pageQuery source.rank source.keyField source.rows scan.lastKey limit)
    (nonempty : page.isEmpty = false) (hadd : scan.addPage source.keyField page = .ok scanned)
    (hfetched : t.fetched = w.fetched ++ [(scan.lastKey, page)])
    (known : ScanKnown source before w scan) : ScanKnown source before t scanned := by
  obtain ⟨last, hlast⟩ : ∃ last, page.getLast? = some last := by
    cases hl : page.getLast? with
    | none => exact absurd (List.getLast?_eq_none_iff.mp hl) (by simpa using nonempty)
    | some last => exact ⟨last, rfl⟩
  obtain ⟨-, -, hkeys⟩ := addPage_spec hadd
  obtain ⟨hkey, htext⟩ := hkeys last hlast
  have hsource : last ∈ source.rows := by
    have hmem := List.mem_of_getLast? hlast
    rw [hpage] at hmem
    unfold pageQuery at hmem
    split at hmem
    · exact List.mem_of_mem_take hmem
    · exact (List.mem_filter.mp (List.mem_of_mem_take hmem)).1
  have upTo : KnownUpTo source before t (last.get source.keyField) := by
    intro row hr le
    have fetched : row ∈ page → Known source before t row := fun hm =>
      Or.inr (by rw [hfetched]; simp [hm])
    have kept : Known source before w row → Known source before t row := by
      rintro (old | new)
      · exact Or.inl old
      · exact Or.inr (by rw [hfetched, List.flatMap_append, List.mem_append]; exact Or.inl new)
    by_cases passed : scan.lastKey.isNone = false ∧
        source.rank (row.get source.keyField) ≤ source.rank scan.lastKey
    · exact kept (known.1 passed.1 row hr passed.2)
    · apply fetched
      rw [hpage] at hlast ⊢
      exact mem_page hr hlast (fun h => lt_of_not_ge fun hle => passed ⟨h, hle⟩) le
  constructor
  · intro _
    rw [hkey]
    exact upTo
  · intro key h
    rw [htext] at h
    cases h
    intro row hr le
    exact upTo row hr (by rwa [source.readBack last hsource] at le)

theorem QueryRun.fetchLogged_reads (run : QueryRun source) {after : Value} {limit : Nat}
    {w t : ScanWorld} {page : List Row} (h : fetchLogged run.calls after limit w = (.ok page, t)) :
    page = pageQuery source.rank source.keyField source.rows after limit := by
  unfold fetchLogged at h
  split at h
  · cases h
  · rename_i fetched hcall
    cases h
    exact run.reads _ _ _ _ hcall

theorem sound_scanLoop {pageSize : Nat} {resume : Value} {maxPages : Int} {fuel : Nat} {scan : Scan}
    {w t : ScanWorld} {r : Except Raised QueryScanResult}
    (h : scanLoop (fetchLogged run.calls) (saveOnPage run.calls run.args run.readings)
      source.keyField pageSize resume maxPages fuel scan w = (r, t))
    (sound : Sound source before w) (known : ScanKnown source before w scan) :
    Sound source before t ∧ ∀ result, r = .ok result → ∀ key, result.evidence.lastKey = some key →
      KnownUpTo source before t (.str key) := by
  induction fuel generalizing scan w with
  | zero =>
    cases h
    exact ⟨sound, fun result hr => by cases hr⟩
  | succ fuel ih =>
    unfold scanLoop at h
    split at h
    · cases h
      refine ⟨sound, fun result hr => ?_⟩
      cases hr
      exact known.2
    rcases Py.bind_cases h with ⟨e, hpage, rfl⟩ | ⟨page, w₁, hpage, h⟩
    · exact ⟨sound_fetch hpage sound, fun result hr => by cases hr⟩
    have sound₁ := sound_fetch hpage sound
    obtain ⟨hfetched, -, -⟩ := fetchLogged_ok hpage
    have hquery := run.fetchLogged_reads hpage
    split at h
    · rename_i empty
      cases h
      refine ⟨sound₁, fun result hr => ?_⟩
      cases hr
      intro key hkey row hr le
      rcases known.2 key hkey row hr le with old | new
      · exact Or.inl old
      · exact Or.inr (by rw [hfetched, List.flatMap_append, List.mem_append]; exact Or.inl new)
    · rename_i nonempty
      rcases Py.ofExcept_cases h with ⟨e, rfl, rfl⟩ | ⟨scanned, hadd, h⟩
      · exact ⟨sound₁, fun result hr => by cases hr⟩
      have known₁ := known_page hquery (by simpa using nonempty) hadd hfetched known
      -- the page is known before it is saved, whatever comes of the save
      rcases Py.bind_cases h with ⟨e, hs, rfl⟩ | ⟨_, w₃, hs, h⟩
      · exact ⟨(sound_saveOnPage hs sound₁ known₁.2).1, fun result hr => by cases hr⟩
      obtain ⟨sound₂, hkept⟩ := sound_saveOnPage hs sound₁ known₁.2
      have known₂ : ScanKnown source before w₃ scanned := by
        unfold ScanKnown KnownUpTo Known at known₁ ⊢
        rwa [hkept]
      split at h
      · cases h
        refine ⟨sound₂, fun result hr => ?_⟩
        cases hr
        exact known₂.2
      · exact ih h sound₂ known₂

theorem loadedCheckpoint_some {calls : QueryCalls} {args : QueryArgs} {w t : ScanWorld}
    {c : Checkpoint} (h : loadedCheckpoint calls args w = (.ok (some c), t)) :
    w.checkpoint = some c := by
  unfold loadedCheckpoint loadScanCheckpoint at h
  split at h
  · cases h
  · cases hl : calls.loadFailure <;> cases hc : w.checkpoint <;> simp only [hl, hc] at h
    · cases h
    · split at h <;> cases h
      rfl
    · cases h
    · cases h

theorem scanKnown_start {w t : ScanWorld} {loaded : Option Checkpoint}
    (h : loadedCheckpoint run.calls run.args w = (.ok loaded, t)) (same : w.checkpoint = before) :
    ScanKnown source before t (Scan.start (resumeKey run.args loaded)) := by
  unfold resumeKey
  rw [run.fromCheckpoint, show nonEmpty none = none from rfl, Option.none_or]
  cases hkey : nonEmpty (loaded.bind Checkpoint.lastKey) with
  | none =>
    constructor
    · intro h
      cases h
    · intro key h
      cases h
  | some key =>
    obtain ⟨hbind, nonempty⟩ := Option.filter_eq_some_iff.mp hkey
    obtain ⟨c, rfl, hc⟩ := Option.bind_eq_some_iff.mp hbind
    have old : KnownUpTo source before t (.str key) := fun row _ le =>
      Or.inl ⟨c, key, same ▸ loadedCheckpoint_some h, hc, le⟩
    have truthy : (Value.str key).truthy = true := by simpa [Value.truthy] using nonempty
    simp only [ScanKnown, Scan.start, textIfTruthy, truthy, if_true]
    refine ⟨fun _ => old, ?_⟩
    intro text htext
    cases htext
    exact old

theorem sound_keyset {resume : Value} {w t : ScanWorld} {r : Except Raised QueryScanResult}
    (h : executeSourceQueryKeyset run.calls.characters (fetchLogged run.calls)
      (saveOnPage run.calls run.args run.readings) run.args.sourceQuery run.args.keyField
      run.args.sourceScanPageSize resume run.args.sourceMaxPages run.calls.fuel w = (r, t))
    (sound : Sound source before w) (known : ScanKnown source before w (Scan.start resume)) :
    Sound source before t ∧ ∀ result, r = .ok result → ∀ key, result.evidence.lastKey = some key →
      KnownUpTo source before t (.str key) := by
  have raised : ∀ e : Raised, r = .error e → t = w → Sound source before t ∧
      ∀ result, r = .ok result → ∀ key, result.evidence.lastKey = some key →
        KnownUpTo source before t (.str key) := by
    rintro e rfl rfl
    exact ⟨sound, fun result hr => by cases hr⟩
  unfold executeSourceQueryKeyset at h
  split at h
  · cases h
    exact raised _ rfl rfl
  rcases Py.ofExcept_cases h with ⟨e, hr, ht⟩ | ⟨pageSize, -, h⟩
  · exact raised e hr ht
  rcases Py.ofExcept_cases h with ⟨e, hr, ht⟩ | ⟨_, -, h⟩
  · exact raised e hr ht
  rcases Py.ofExcept_cases h with ⟨e, hr, ht⟩ | ⟨_, -, h⟩
  · exact raised e hr ht
  rw [run.keyField] at h
  exact sound_scanLoop h sound known

theorem sound_check {w t : ScanWorld} {r : Except Raised DriftReport}
    (h : checkQueryInvariant run.calls run.args run.readings w = (r, t))
    (same : w.checkpoint = before) : Sound source before t := by
  rcases Py.bind_cases h with ⟨e, hload, -⟩ | ⟨loaded, w₁, hload, hrest⟩
  · rw [loadedCheckpoint_world hload]
    exact Or.inl same
  have known := scanKnown_start hload same
  have sound : Sound source before w₁ := Or.inl (loadedCheckpoint_world hload ▸ same)
  rcases Py.bind_cases hrest with ⟨e, hscan, -⟩ | ⟨sourceScan, w₂, hscan, hrest⟩
  · exact (sound_keyset hscan sound known).1
  obtain ⟨sound₂, known₂⟩ := sound_keyset hscan sound known
  rcases Py.bind_cases hrest with ⟨e, hsave, -⟩ | ⟨ref, w₃, hsave, hrest⟩
  · exact (sound_save hsave sound₂ (known₂ _ rfl)).1
  have sound₃ := (sound_save hsave sound₂ (known₂ _ rfl)).1
  rcases Py.ofExcept_cases hrest with ⟨e, -, rfl⟩ | ⟨rows, -, hrest⟩
  · exact sound₃
  · cases hrest
    exact sound₃

theorem sound_update {checkpointId reportRef : String} {w t : ScanWorld} {r : Except Raised Unit}
    (h : updateScanCheckpointReportRef run.calls run.report checkpointId reportRef w = (r, t))
    (sound : Sound source before w) : Sound source before t := by
  unfold updateScanCheckpointReportRef at h
  split at h
  · cases h
    exact sound
  · cases hl : run.report.reloadFailure <;> cases hc : w.checkpoint <;> simp only [hl, hc] at h
    · cases h
      exact sound
    · rename_i c
      -- the key stays, so the same rows are passed as before
      have known : ∀ row ∈ source.rows, Passed source row (some c) → Known source before w row := by
        intro row hr passed
        rcases sound with same | ⟨d, -, hd, known⟩
        · exact Or.inl (by rwa [← same, hc])
        · rw [hc] at hd
          cases hd
          exact known row hr passed
      split at h <;> rename_i hsave <;> cases h <;> exact (sound_saveScan hsave sound (by
        rintro row hr ⟨d, key, hd, hkey, le⟩
        cases hd
        exact known row hr ⟨c, key, rfl, hkey, le⟩)).1
    · cases h
      exact sound
    · cases h
      exact sound

theorem sound_exec (run : QueryRun source) (before : Option Checkpoint) :
    Sound source before (run.exec before).2 := by
  obtain ⟨r, t, h⟩ : ∃ r t, run.exec before = (r, t) := ⟨_, _, rfl⟩
  rw [h]
  unfold QueryRun.exec checkQueryAndReport at h
  rcases Py.bind_cases h with ⟨e, hcheck, -⟩ | ⟨drift, w, hcheck, h⟩
  · exact sound_check hcheck rfl
  have sound := sound_check hcheck rfl
  rcases Py.ofExcept_cases h with ⟨e, -, rfl⟩ | ⟨reportRef, -, h⟩
  · exact sound
  rcases Py.bind_cases h with ⟨e, hupdate, -⟩ | ⟨_, w₂, hupdate, h⟩
  · exact sound_update hupdate sound
  · cases h
    exact sound_update hupdate sound

end Run

/-- A row the stored checkpoint has passed was compared by a run that returned
its report, or fetched by a run that raised after storing a checkpoint past it. -/
theorem passed_row_compared_or_left_behind (history : List (QueryRun source)) {row : Row}
    (hr : row ∈ source.rows) (passed : Passed source row (storeAfter history)) :
    Compared source history row ∨ LeftBehind source history row := by
  induction history with
  | nil =>
    obtain ⟨c, _, hc, -⟩ := passed
    cases hc
  | cons run earlier ih =>
    have inherited : Passed source row (storeAfter earlier) →
        Compared source (run :: earlier) row ∨ LeftBehind source (run :: earlier) row := by
      intro old
      rcases ih old with ⟨r, e, hs, rest⟩ | ⟨r, e, hs, rest⟩
      · exact Or.inl ⟨r, e, hs.trans (List.suffix_cons run earlier), rest⟩
      · exact Or.inr ⟨r, e, hs.trans (List.suffix_cons run earlier), rest⟩
    rcases sound_exec run (storeAfter earlier) with same | ⟨c, hc, hcheck, known⟩
    · exact inherited (same ▸ passed)
    · have past : Passed source row (some c) := hcheck ▸ passed
      rcases known row hr past with old | new
      · exact inherited old
      · cases hret : run.returned (storeAfter earlier) with
        | true => exact Or.inl ⟨run, earlier, List.suffix_refl _, hret, new⟩
        | false => exact Or.inr ⟨run, earlier, List.suffix_refl _, hret, new, c, hc, past⟩

/-! A run that scans to the end and then finds the target unavailable: the next
run resumes after rows nobody compared. -/

def accountRow (id : String) : Row :=
  [("id", .str id), ("status", .str "paid"), ("amount_cents", .int 100)]

def twoAccounts : KeyedSource String where
  rank := Value.text
  keyField := "id"
  rows := [accountRow "a", accountRow "b"]
  keyed := by simp [Keyed, accountRow, Row.has, Row.get, Value.isNone]
  ascending := by decide
  readBack := by simp [accountRow, Row.get, Value.text]

def targetDown : QueryRun twoAccounts where
  calls :=
    { fetchPage := fun _ after limit =>
        .ok (pageQuery Value.text "id" twoAccounts.rows after limit)
      loadFailure := none
      save := fun _ => .stored "file://checkpoint"
      savedAt := fun _ => 0
      targetRows := .error (.exception "ConnectionError" "index unavailable")
      fuel := 3 }
  args :=
    { invariantName := "accounts", sourceQuery := "select * from accounts", targetQuery := "{}",
      keyField := "id", compareFields := [], maxLagSeconds := 60, sourceScanPageSize := 1,
      sourceCheckpointId := "accounts" }
  readings :=
    { checkedAt := 0, targetReadAt := 0, streamTopic := "orders.events",
      streamOffsets := .ok {}, sourceLsn := .ok "0/0",
      outboxFrontier := .error (.exception "OperationalError" ""),
      targetFrontier := .error (.exception "ConnectionError" "") }
  report := { writeReport := .ok "file://report", reloadFailure := none }
  reads := by
    rintro _ after limit page h
    exact (Except.ok.inj h).symm
  keyField := rfl
  fromCheckpoint := rfl

theorem targetDown_raises : targetDown.returned none = false := by
  decide +kernel

theorem targetDown_passes :
    Passed twoAccounts (accountRow "b") (storeAfter [targetDown]) := by
  have lastKey : (storeAfter [targetDown]).bind Checkpoint.lastKey = some "b" := by decide +kernel
  obtain ⟨c, hc, hkey⟩ := Option.bind_eq_some_iff.mp lastKey
  exact ⟨c, "b", hc, hkey, le_rfl⟩

theorem failed_run_moves_past_uncompared_row :
    ∃ row ∈ twoAccounts.rows, Passed twoAccounts row (storeAfter [targetDown]) ∧
      ¬Compared twoAccounts [targetDown] row := by
  refine ⟨accountRow "b", by simp [twoAccounts], targetDown_passes, ?_⟩
  rintro ⟨run, earlier, hs, returned, -⟩
  rcases List.suffix_cons_iff.mp hs with h | h
  · cases h
    rw [storeAfter, targetDown_raises] at returned
    cases returned
  · exact absurd (List.suffix_nil.mp h) (List.cons_ne_nil _ _)

theorem passed_row_left_behind_target_down :
    Compared twoAccounts [targetDown] (accountRow "b") ∨
      LeftBehind twoAccounts [targetDown] (accountRow "b") :=
  passed_row_compared_or_left_behind twoAccounts [targetDown] (by simp [twoAccounts])
    targetDown_passes

end KubeDataGuard
