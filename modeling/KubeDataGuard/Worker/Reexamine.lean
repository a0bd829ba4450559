import KubeDataGuard.Worker.Resume

/-!
# What checkpointed checks examine again

A check that resumes examines only the rows after the key its checkpoint holds,
and stores a key no earlier than that. The checkpoint of a pass that reached the
end is no different: the rows it has passed are examined again only after a
reset.
-/

namespace KubeDataGuard

theorem resumeKey_fromCheckpoint {args : QueryArgs} (loaded : Option Checkpoint)
    (fromCheckpoint : args.sourceResumeAfterKey = none) :
    resumeKey args loaded = resumeAfter (nonEmpty (loaded.bind Checkpoint.lastKey)) := by
  unfold resumeKey
  rw [fromCheckpoint, show nonEmpty none = none from rfl, Option.none_or]
  cases nonEmpty (loaded.bind Checkpoint.lastKey) <;> rfl

/-! ## What is reported missing -/

/-- `missing.append`, for a row of the scan. -/
def missingQueryEntry (keyField : String) (row : Row) : Json :=
  .obj [("order_id", .str ((serializeQueryRow row).get keyField).text),
    ("reason", .str "source row is absent from the target query result"),
    ("source", (serializeQueryRow row).toJson)]

/-- No row of the target has the key of the source row. -/
def AbsentFrom (target : List Row) (keyField : String) (row : Row) : Prop :=
  ∀ t ∈ target, comparableValue (t.get keyField) ≠
    some ((serializeQueryRow row).get keyField).text

theorem jsonSafeValue_isNone (value : Value) : (jsonSafeValue value).isNone = value.isNone := by
  cases value with
  | numeric text value floatText =>
    unfold jsonSafeValue
    dsimp only
    split <;> rfl
  | null | bool | int | float | str | timestamp | date | container | other => rfl

theorem targetByKey_none_iff {target : List Row} {keyField key : String} :
    targetByKey target keyField key = none ↔
      ∀ t ∈ target, comparableValue (t.get keyField) ≠ some key := by
  simp [targetByKey]

/-- The missing entries are those of the rows that are absent from the target. -/
theorem mem_missing_iff {invariantName : String} {rows target : List Row} {keyField : String}
    {compareFields : List String} {guarantee : String} {sourceScan : Json}
    {checkStatus : CheckStatus} {ev : Evidence} {entry : Json} (keyed : Keyed keyField rows) :
    entry ∈ (compareQueryResults invariantName (rows.map serializeQueryRow) target keyField
        compareFields guarantee sourceScan checkStatus ev).missing ↔
      ∃ row ∈ rows, AbsentFrom target keyField row ∧ missingQueryEntry keyField row = entry := by
  rw [queryResults_missing]
  simp only [queryMissing, List.mem_filterMap, List.mem_map, exists_exists_and_eq_and]
  refine exists_congr fun row => and_congr_right fun hr => ?_
  have present : ((serializeQueryRow row).get keyField).isNone = false := by
    rw [serializeQueryRow_get, jsonSafeValue_isNone]
    exact (keyed row hr).2
  rw [present, if_neg Bool.false_ne_true, AbsentFrom, ← targetByKey_none_iff]
  cases targetByKey target keyField ((serializeQueryRow row).get keyField).text with
  | none => simp [missingQueryEntry]
  | some t => simp

/-! ## Runs one after another -/

section Runs

variable {K : Type} [LinearOrder K] (source : KeyedSource K)

/-- The stored checkpoint has a key at or after the row's, so a run that resumes
from it skips the row. -/
def Skips (before : Option Checkpoint) (row : Row) : Prop :=
  ∃ key, nonEmpty (before.bind Checkpoint.lastKey) = some key ∧
    source.rank (row.get source.keyField) ≤ source.rank (.str key)

/-- The rows a run that resumes from the stored checkpoint has to scan. -/
def leftBy (before : Option Checkpoint) : List Row :=
  source.left (resumeAfter (nonEmpty (before.bind Checkpoint.lastKey)))

variable {source}

theorem mem_leftBy {before : Option Checkpoint} {row : Row} :
    row ∈ leftBy source before ↔ row ∈ source.rows ∧ ¬Skips source before row := by
  unfold leftBy Skips KeyedSource.left remaining
  cases nonEmpty (before.bind Checkpoint.lastKey) with
  | none => simp [resumeAfter, Value.isNone]
  | some key => simp [resumeAfter, Value.isNone, Keyset.mem_after, rowRank]

theorem start_resumeAfter_nonEmpty (key : Option String) :
    (Scan.start (resumeAfter (nonEmpty key))).lastKey = resumeAfter (nonEmpty key) := by
  cases h : nonEmpty key with
  | none => rfl
  | some k =>
    have hk : k ≠ "" := by simpa using (Option.filter_eq_some_iff.mp h).2
    simp [resumeAfter, Scan.start, Value.truthy, hk]

/-- The outcomes of some runs in order, each from the checkpoint the one before it left. -/
def outcomes : Option Checkpoint → List (QueryRun source) → List (Except Raised DriftReport)
  | _, [] => []
  | before, run :: later => (run.exec before).1 :: outcomes (run.exec before).2.checkpoint later

/-- A run with these limits that goes on from the checkpoint of an id. -/
structure Resuming (pageSize maxPages : Int) (id : String) (target : List Row)
    (run : QueryRun source) : Prop where
  pageSize : run.args.sourceScanPageSize = pageSize
  maxPages : run.args.sourceMaxPages = maxPages
  id : run.args.sourceCheckpointId = id
  kept : run.args.sourceResetCheckpoint = false
  target : run.calls.targetRows = .ok target

/-- A run that returned compared what it scanned, and stored the last key of its scan. -/
theorem exec_returned {run : QueryRun source} (identified : run.args.sourceCheckpointId ≠ "")
    {before : Option Checkpoint} {report : DriftReport}
    (h : (run.exec before).1 = .ok report) :
    ∃ loaded result u targetRows guarantee sourceScan checkStatus ev,
      loadedCheckpoint run.calls run.args { checkpoint := before } =
        (.ok loaded, { checkpoint := before }) ∧
      executeSourceQueryKeyset run.calls.characters (fetchLogged run.calls)
        (saveOnPage run.calls run.args run.readings) run.args.sourceQuery run.args.keyField
        run.args.sourceScanPageSize (resumeKey run.args loaded) run.args.sourceMaxPages run.calls.fuel
        { checkpoint := before } = (.ok result, u) ∧
      run.calls.targetRows = .ok targetRows ∧
      report = compareQueryResults run.args.invariantName result.rows targetRows run.args.keyField
        run.args.compareFields guarantee sourceScan checkStatus ev ∧
      (run.exec before).2.checkpoint.bind Checkpoint.lastKey = result.evidence.lastKey := by
  obtain ⟨t, ht⟩ : ∃ t, run.exec before = (.ok report, t) := ⟨_, Prod.ext h rfl⟩
  rw [ht]
  unfold QueryRun.exec checkQueryAndReport at ht
  obtain ⟨drift, v, hcheck, hrest⟩ := Py.bind_ok.mp ht
  obtain ⟨reportRef, -, hrest⟩ := Py.ofExcept_ok hrest
  obtain ⟨_, t', hupdate, hrest⟩ := Py.bind_ok.mp hrest
  cases hrest
  obtain ⟨loaded, result, u, ref, targetRows, hload, hscan, hsave, htarget, hreport⟩ :=
    checkQueryInvariant_returned hcheck
  refine ⟨loaded, result, u, targetRows, _, _, _, _, hload, hscan, htarget, hreport, ?_⟩
  rw [updateScanCheckpointReportRef_lastKey hupdate, saveCheckpoint_stored identified hsave,
    Option.bind_some]
  rfl

/-- A run that resumes from the key a scan stored has left what that scan left. -/
theorem left_stored (named : Named source) {key : Option String} {taken rest : List Row}
    (hleft : source.left (resumeAfter (nonEmpty key)) = taken ++ rest) :
    source.left (resumeAfter (nonEmpty ((lastKeyOf source.keyField taken).or
      (textIfTruthy (resumeAfter (nonEmpty key)))))) = rest := by
  by_cases took : taken = []
  · -- nothing was left, and the key it resumed from is stored again
    rw [took, List.nil_append] at hleft
    rw [took, lastKeyOf, List.getLast?_nil, Option.map_none, Option.none_or, ← hleft]
    cases h : nonEmpty key with
    | none => rfl
    | some k =>
      have hk : k ≠ "" := by simpa using (Option.filter_eq_some_iff.mp h).2
      simp [resumeAfter, textIfTruthy, Value.truthy, Value.text, nonEmpty, Option.filter_some, hk]
  · have sub : ∀ row ∈ taken, row ∈ source.rows := fun row hr =>
      (remaining_sublist _ _ _ _).subset
        (show row ∈ source.left _ from hleft ▸ List.mem_append_left rest hr)
    obtain ⟨last, -, -, hname, hkey⟩ := lastKeyOf_some named sub took
    have hnext := left_lastKey named hleft took
    have nonempty : nonEmpty (some (last.get source.keyField).text) =
        some (last.get source.keyField).text := by simp [nonEmpty, hname]
    rw [hkey, ← nonempty, start_resumeAfter_nonEmpty] at hnext
    rw [hkey, Option.some_or]
    exact hnext

/-- A run that returns reports the absent rows of a front part of what was left,
and leaves the rest: nothing, unless it used up its pages. -/
theorem resuming_run (named : Named source) {pageSize maxPages : Int} {id : String}
    (identified : id ≠ "") {target : List Row} {run : QueryRun source}
    (resuming : Resuming pageSize maxPages id target run) {before : Option Checkpoint}
    {report : DriftReport} (h : (run.exec before).1 = .ok report) :
    ∃ taken rest, leftBy source before = taken ++ rest ∧
      leftBy source (run.exec before).2.checkpoint = rest ∧
      (∀ entry, entry ∈ report.missing ↔ ∃ row ∈ taken,
        AbsentFrom target source.keyField row ∧ missingQueryEntry source.keyField row = entry) ∧
      (rest = [] ∨ 0 < maxPages ∧
        taken.length = (min pageSize 5000).toNat * maxPages.toNat) := by
  have identified' : run.args.sourceCheckpointId ≠ "" := resuming.id ▸ identified
  obtain ⟨loaded, result, u, targetRows, _, _, _, _, hload, hscan, htarget, hreport, hstored⟩ :=
    exec_returned identified' h
  obtain rfl : loaded = before := loadedCheckpoint_loaded identified' resuming.kept hload
  obtain rfl : target = targetRows := Except.ok.inj (resuming.target.symm.trans htarget)
  obtain ⟨size, hloop⟩ := executeSourceQueryKeyset_returned hscan
  rw [resuming.pageSize] at size
  rw [run.keyField, resuming.pageSize, resuming.maxPages,
    resumeKey_fromCheckpoint _ run.fromCheckpoint] at hloop
  obtain ⟨pages, hpages, hrows, -, -, -, hlast⟩ := scanLoop_records ScanWorld.fetched
    (fun _ _ _ _ h => (fetchLogged_ok h).1) (fun _ _ _ h => saveOnPage_fetched h) hloop
  obtain ⟨pages', rest, hpages', hleft, hdone, hstopped⟩ := scanLoop_takes (by omega)
    ScanWorld.fetched (fun _ _ _ _ h => (fetchLogged_ok h).1) (fun _ _ _ _ h => run.fetchLogged_reads h)
    (fun _ _ _ h => saveOnPage_fetched h) hloop
  obtain rfl : pages' = pages := List.append_cancel_left (hpages'.symm.trans hpages)
  rw [start_resumeAfter_nonEmpty] at hleft
  refine ⟨pages'.flatMap Prod.snd, rest, hleft, ?_, ?_, ?_⟩
  · have hkey : result.evidence.lastKey = (lastKeyOf source.keyField (pages'.flatMap Prod.snd)).or
        (textIfTruthy (resumeAfter (nonEmpty (loaded.bind Checkpoint.lastKey)))) := hlast
    rw [leftBy, hstored, hkey]
    exact left_stored named hleft
  · intro entry
    rw [hreport, show result.rows = (pages'.flatMap Prod.snd).map serializeQueryRow from hrows,
      run.keyField]
    apply mem_missing_iff
    intro row hr
    apply source.keyed row
    exact (remaining_sublist _ _ _ _).subset
      (show row ∈ source.left _ from hleft ▸ List.mem_append_left rest hr)
  · cases hc : result.evidence.completed with
    | true => exact Or.inl (hdone hc)
    | false =>
      obtain ⟨-, bounded, hlen⟩ := hstopped hc
      refine Or.inr ⟨bounded, ?_⟩
      rw [hlen, Scan.start, Nat.cast_zero, Int.sub_zero]

theorem returned_head {run : QueryRun source} {later : List (QueryRun source)}
    {before : Option Checkpoint}
    (returned : ∀ outcome ∈ outcomes before (run :: later), outcome.toBool = true) :
    ∃ report, (run.exec before).1 = .ok report := by
  have first := returned (run.exec before).1 List.mem_cons_self
  cases hr : (run.exec before).1 with
  | ok report => exact ⟨report, rfl⟩
  | error e =>
    rw [hr] at first
    cases first

/-- What is reported missing in a sequence of runs is of rows left at its beginning. -/
theorem reported_was_left (named : Named source) {pageSize maxPages : Int} {id : String}
    (identified : id ≠ "") {target : List Row} {next : List (QueryRun source)}
    (resuming : ∀ run ∈ next, Resuming pageSize maxPages id target run)
    {before : Option Checkpoint} (returned : ∀ outcome ∈ outcomes before next, outcome.toBool = true)
    {report : DriftReport} (h : .ok report ∈ outcomes before next) {entry : Json}
    (hentry : entry ∈ report.missing) :
    ∃ row ∈ leftBy source before, missingQueryEntry source.keyField row = entry := by
  induction next generalizing before with
  | nil => cases h
  | cons run later ih =>
    obtain ⟨first, hfirst⟩ := returned_head returned
    have returned_later := fun o ho => returned o (List.mem_cons_of_mem _ ho)
    obtain ⟨taken, rest, hleft, hrest, hmissing, -⟩ :=
      resuming_run named identified (resuming run List.mem_cons_self) hfirst
    rcases List.mem_cons.mp h with heq | hlater
    · obtain rfl : report = first := Except.ok.inj (heq.trans hfirst)
      obtain ⟨row, hr, -, rfl⟩ := (hmissing entry).mp hentry
      exact ⟨row, hleft ▸ List.mem_append_left rest hr, rfl⟩
    · obtain ⟨row, hr, heq⟩ :=
        ih (fun r hr => resuming r (List.mem_cons_of_mem run hr)) returned_later hlater
      rw [hrest] at hr
      exact ⟨row, hleft ▸ List.mem_append_right taken hr, heq⟩

/-- Runs whose pages hold all that is left report every absent row of it. -/
theorem left_reported (named : Named source) {pageSize maxPages : Int} {id : String}
    (identified : id ≠ "") {target : List Row} {next : List (QueryRun source)}
    (resuming : ∀ run ∈ next, Resuming pageSize maxPages id target run)
    {before : Option Checkpoint} (returned : ∀ outcome ∈ outcomes before next, outcome.toBool = true)
    (some_ : next ≠ []) (enough : 0 < maxPages → (leftBy source before).length ≤
      next.length * ((min pageSize 5000).toNat * maxPages.toNat))
    {row : Row} (hr : row ∈ leftBy source before)
    (absent : AbsentFrom target source.keyField row) :
    ∃ report, .ok report ∈ outcomes before next ∧
      missingQueryEntry source.keyField row ∈ report.missing := by
  induction next generalizing before with
  | nil => exact absurd rfl some_
  | cons run later ih =>
    obtain ⟨first, hfirst⟩ := returned_head returned
    have returned_later := fun o ho => returned o (List.mem_cons_of_mem _ ho)
    obtain ⟨taken, rest, hleft, hrest, hmissing, hpages⟩ :=
      resuming_run named identified (resuming run List.mem_cons_self) hfirst
    by_cases htaken : row ∈ taken
    · refine ⟨first, ?_, (hmissing _).mpr ⟨row, htaken, absent, rfl⟩⟩
      rw [outcomes, hfirst]
      exact List.mem_cons_self
    have hmem : row ∈ rest := by
      rw [hleft] at hr
      exact (List.mem_append.mp hr).resolve_left htaken
    rcases hpages with nil | ⟨bounded, hlen⟩
    · rw [nil] at hmem
      cases hmem
    -- the run used up its pages, and the others have pages for the rest
    have size : (leftBy source before).length = taken.length + rest.length := by
      rw [hleft, List.length_append]
    have most := enough bounded
    rw [List.length_cons, Nat.succ_mul] at most
    have nonempty : 0 < rest.length := List.length_pos_of_mem hmem
    have later_ : later ≠ [] := by
      rintro rfl
      simp only [List.length_nil, Nat.zero_mul] at most
      omega
    obtain ⟨report, hreport, hentry⟩ :=
      ih (fun r hr => resuming r (List.mem_cons_of_mem run hr)) returned_later later_
        (fun _ => by rw [hrest]; omega) (by rw [hrest]; exact hmem)
    exact ⟨report, List.mem_cons_of_mem _ hreport, hentry⟩

/-- So many runs examine this many rows, with two to spare where the pages are bounded. -/
def runsNeeded (rows : Nat) (pageSize maxPages : Int) : Nat :=
  let perRun := (min pageSize 5000).toNat * maxPages.toNat
  if maxPages ≤ 0 then 2 else (rows + perRun - 1) / perRun + 2

theorem runsNeeded_pos (rows : Nat) (pageSize maxPages : Int) :
    0 < runsNeeded rows pageSize maxPages := by
  unfold runsNeeded
  by_cases unbounded : maxPages ≤ 0
  · simp [unbounded]
  · simp [unbounded]

theorem rows_le_runsNeeded (rows : Nat) {pageSize maxPages : Int} (size : 1 ≤ pageSize)
    (bounded : 0 < maxPages) :
    rows ≤ runsNeeded rows pageSize maxPages * ((min pageSize 5000).toNat * maxPages.toNat) := by
  obtain ⟨perRun, hper⟩ : ∃ perRun, perRun = (min pageSize 5000).toNat * maxPages.toNat := ⟨_, rfl⟩
  have positive : 0 < perRun := by
    rw [hper]
    exact Nat.mul_pos (by omega) (by omega)
  unfold runsNeeded
  rw [← hper, if_neg (show ¬maxPages ≤ 0 by omega), Nat.add_mul]
  have hdiv := Nat.div_add_mod (rows + perRun - 1) perRun
  have hmod := Nat.mod_lt (rows + perRun - 1) positive
  rw [Nat.mul_comm perRun] at hdiv
  omega

/-- Whatever the store holds, the next runs that go on from it report every
absent row beyond its key, and nothing of the rows up to that key: also when it
is the key a finished pass left. -/
theorem unpassed_rows_reexamined (named : Named source) {pageSize maxPages : Int}
    (size : 1 ≤ pageSize) {id : String} (identified : id ≠ "") {target : List Row}
    (before : Option Checkpoint) {next : List (QueryRun source)}
    (resuming : ∀ run ∈ next, Resuming pageSize maxPages id target run)
    (returned : ∀ outcome ∈ outcomes before next, outcome.toBool = true)
    (long : next.length = runsNeeded source.rows.length pageSize maxPages) :
    (∀ row ∈ source.rows, AbsentFrom target source.keyField row → ¬Skips source before row →
      ∃ report, .ok report ∈ outcomes before next ∧
        missingQueryEntry source.keyField row ∈ report.missing) ∧
    ∀ report, .ok report ∈ outcomes before next → ∀ entry ∈ report.missing,
      ∃ row ∈ source.rows, ¬Skips source before row ∧
        missingQueryEntry source.keyField row = entry := by
  constructor
  · intro row hr absent unpassed
    have some_ : next ≠ [] := by
      rintro rfl
      exact absurd long.symm (runsNeeded_pos _ _ _).ne'
    refine left_reported named identified resuming returned some_ ?_
      (mem_leftBy.mpr ⟨hr, unpassed⟩) absent
    intro bounded
    rw [long]
    have within : (leftBy source before).length ≤ source.rows.length :=
      (remaining_sublist _ _ _ _).length_le
    exact within.trans (rows_le_runsNeeded _ size bounded)
  · intro report h entry hentry
    obtain ⟨row, hr, heq⟩ := reported_was_left named identified resuming returned h hentry
    obtain ⟨hmem, unpassed⟩ := mem_leftBy.mp hr
    exact ⟨row, hmem, unpassed, heq⟩

end Runs

/-! A check of two accounts, against an index that has neither: the first run
reports both, and every run after it reports nothing. -/

def accountsCheck : QueryRun twoAccounts where
  calls := { targetDown.calls with targetRows := .ok [] }
  args := targetDown.args
  readings := targetDown.readings
  report := targetDown.report
  reads := targetDown.reads
  keyField := rfl
  fromCheckpoint := rfl

theorem accountsCheck_outcomes :
    (outcomes (storeAfter [accountsCheck]) [accountsCheck, accountsCheck]).map
      (fun outcome => outcome.toOption.map fun report => report.missing.length) =
        [some 0, some 0] := by
  decide +kernel

theorem accountsCheck_resuming :
    ∀ run ∈ [accountsCheck, accountsCheck], Resuming 1 0 "accounts" [] run := by
  simp only [List.mem_cons, List.not_mem_nil, or_false, or_self, forall_eq]
  exact ⟨rfl, rfl, rfl, rfl, rfl⟩

theorem accountsCheck_returned :
    ∀ outcome ∈ outcomes (storeAfter [accountsCheck]) [accountsCheck, accountsCheck],
      outcome.toBool = true := by
  decide +kernel

theorem finished_pass_not_reexamined :
    ([accountsCheck, accountsCheck].length = runsNeeded twoAccounts.rows.length 1 0) ∧
    (∀ run ∈ [accountsCheck, accountsCheck], Resuming 1 0 "accounts" [] run) ∧
    (∀ outcome ∈ outcomes (storeAfter [accountsCheck]) [accountsCheck, accountsCheck],
      outcome.toBool = true) ∧
    ∃ row ∈ twoAccounts.rows, AbsentFrom [] "id" row ∧
      ∀ report, .ok report ∈ outcomes (storeAfter [accountsCheck]) [accountsCheck, accountsCheck] →
        missingQueryEntry "id" row ∉ report.missing := by
  refine ⟨rfl, accountsCheck_resuming, accountsCheck_returned, accountRow "a",
    by simp [twoAccounts], by simp [AbsentFrom], ?_⟩
  intro report h hentry
  have counted := List.mem_map_of_mem
    (f := fun outcome => outcome.toOption.map fun report : DriftReport => report.missing.length) h
  rw [accountsCheck_outcomes] at counted
  have none_ : report.missing.length = 0 := by simpa [Except.toOption] using counted
  rw [List.length_eq_zero_iff.mp none_] at hentry
  cases hentry

theorem unpassed_rows_reexamined_accounts :
    (∀ row ∈ twoAccounts.rows, AbsentFrom [] twoAccounts.keyField row →
      ¬Skips twoAccounts none row →
      ∃ report, .ok report ∈ outcomes none [accountsCheck, accountsCheck] ∧
        missingQueryEntry twoAccounts.keyField row ∈ report.missing) ∧
    ∀ report, .ok report ∈ outcomes none [accountsCheck, accountsCheck] → ∀ entry ∈ report.missing,
      ∃ row ∈ twoAccounts.rows, ¬Skips twoAccounts none row ∧
        missingQueryEntry twoAccounts.keyField row = entry :=
  unpassed_rows_reexamined (by simp [Named, twoAccounts, accountRow, Row.get, Value.text]) le_rfl
    (show "accounts" ≠ "" by decide) none accountsCheck_resuming (by decide +kernel) rfl

end KubeDataGuard
