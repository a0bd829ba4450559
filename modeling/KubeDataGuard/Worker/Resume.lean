import KubeDataGuard.Worker.Coverage
import KubeDataGuard.Worker.Endless

/-!
# Resumed scans

Runs of the keyset scan over a source that does not change between them. Each
has its own page size and bound on its pages, and starts after the last key the
run before it recorded. What a run leaves is what the next one starts with, so
the runs up to the first completed one return the whole result.
-/

namespace KubeDataGuard

/-! ## What the evidence records -/

section Records

variable {σ : Type} {fetchPage : Value → Nat → Py σ (List Row)}
  {onPage : ScanEvidence → Py σ Unit} {keyField : String} {pageSize : Nat}
  {resume : Value} {maxPages : Int}

/-- The first row of some pages, and the last. -/
def firstKeyOf (keyField : String) (rows : List Row) : Option String :=
  rows.head?.map fun row => (row.get keyField).text

def lastKeyOf (keyField : String) (rows : List Row) : Option String :=
  rows.getLast?.map fun row => (row.get keyField).text

/-- How many page queries came back with rows. -/
def nonEmptyPages (pages : PageLog) : Nat := (pages.filter fun page => !page.2.isEmpty).length

theorem addRows_firstKey {page : List Row} {scan scanned : Scan}
    (h : page.foldlM (Scan.addRow keyField) scan = .ok scanned) :
    scanned.firstKeyText = scan.firstKeyText.or (firstKeyOf keyField page) := by
  induction page generalizing scan with
  | nil =>
    cases h
    simp [firstKeyOf]
  | cons row page ih =>
    rw [List.foldlM_cons] at h
    unfold Scan.addRow at h
    split at h
    · rw [ih h]
      cases scan.firstKeyText <;> simp [firstKeyOf]
    · cases h

theorem addPage_firstKey {page : List Row} {scan scanned : Scan}
    (h : scan.addPage keyField page = .ok scanned) :
    scanned.firstKeyText = scan.firstKeyText.or (firstKeyOf keyField page) := by
  unfold Scan.addPage at h
  split at h
  · cases h
  · rename_i folded hf
    have hfirst := addRows_firstKey hf
    cases h
    exact hfirst

theorem addPage_lastKey {page : List Row} (nonempty : page ≠ []) {scan scanned : Scan}
    (h : scan.addPage keyField page = .ok scanned) :
    scanned.lastKeyText = (lastKeyOf keyField page).or scan.lastKeyText := by
  obtain ⟨last, hlast⟩ := exists_last nonempty
  simp [((addPage_spec h).2.2 last hlast).2, lastKeyOf, hlast]

theorem lastKeyOf_append (rows more : List Row) :
    lastKeyOf keyField (rows ++ more) = (lastKeyOf keyField more).or (lastKeyOf keyField rows) := by
  unfold lastKeyOf
  rw [List.getLast?_append]
  cases more.getLast? <;> simp

theorem firstKeyOf_append (rows more : List Row) :
    firstKeyOf keyField (rows ++ more) = (firstKeyOf keyField rows).or (firstKeyOf keyField more) := by
  unfold firstKeyOf
  rw [List.head?_append]
  cases rows.head? <;> simp

/-- A scan that returns records what it fetched. -/
theorem scanLoop_records (fetched : σ → PageLog)
    (fetches : ∀ after s page t, fetchPage after pageSize s = (.ok page, t) →
      fetched t = fetched s ++ [(after, page)])
    (keeps : ∀ e s t, onPage e s = (.ok (), t) → fetched t = fetched s)
    {fuel : Nat} {scan : Scan} {s t : σ} {r : QueryScanResult}
    (h : scanLoop fetchPage onPage keyField pageSize resume maxPages fuel scan s = (.ok r, t)) :
    ∃ pages, fetched t = fetched s ++ pages ∧
      r.rows = scan.rows ++ (pages.flatMap Prod.snd).map serializeQueryRow ∧
      r.evidence.rows = r.rows.length ∧ r.evidence.pages = scan.pages + nonEmptyPages pages ∧
      r.evidence.firstKey = scan.firstKeyText.or (firstKeyOf keyField (pages.flatMap Prod.snd)) ∧
      r.evidence.lastKey = (lastKeyOf keyField (pages.flatMap Prod.snd)).or scan.lastKeyText := by
  replace h := scanLoop_returned h
  induction h with
  | bounded limit =>
    exact ⟨[], by simp [Scan.result, Scan.evidence, nonEmptyPages, firstKeyOf, lastKeyOf]⟩
  | @empty scan s t within fetch =>
    refine ⟨[(scan.lastKey, [])], fetches _ _ _ _ fetch, ?_⟩
    simp [Scan.result, Scan.evidence, nonEmptyPages, firstKeyOf, lastKeyOf]
  | @short scan scanned page s u t within fetch nonempty added saved short =>
    obtain ⟨rows, pages, -⟩ := addPage_spec added
    refine ⟨[(scan.lastKey, page)], (keeps _ _ _ saved).trans (fetches _ _ _ _ fetch), ?_⟩
    simp [Scan.result, Scan.evidence, nonEmptyPages, nonempty, rows, pages, addPage_firstKey added,
      addPage_lastKey nonempty added]
  | @full scan scanned page r s u v t within fetch nonempty added saved full rest ih =>
    obtain ⟨rows, pages, -⟩ := addPage_spec added
    obtain ⟨more, hrest, hresult, hcount, hmore, hfirst, hlast⟩ := ih
    refine ⟨(scan.lastKey, page) :: more, ?_, ?_, hcount, ?_, ?_, ?_⟩
    · rw [hrest, keeps _ _ _ saved, fetches _ _ _ _ fetch]
      simp
    · rw [hresult, rows]
      simp
    · rw [hmore, pages, nonEmptyPages, nonEmptyPages,
        List.filter_cons_of_pos (by simpa using nonempty), List.length_cons]
      omega
    · rw [hfirst, addPage_firstKey added, Option.or_assoc, List.flatMap_cons, firstKeyOf_append]
    · rw [hlast, addPage_lastKey nonempty added, ← Option.or_assoc, List.flatMap_cons,
        lastKeyOf_append]

end Records

/-! ## What a run takes from the source -/

section Takes

variable {K : Type} [LinearOrder K] {source : KeyedSource K}

namespace KeyedSource

/-- The rows a scan with this cursor has still to pass. -/
def left (source : KeyedSource K) (after : Value) : List Row :=
  remaining source.rank source.keyField source.rows after

/-- After the last of the rows it has taken, what it has left is the rest. -/
theorem left_last {after : Value} {taken rest : List Row} (h : source.left after = taken ++ rest)
    {last : Row} (hlast : taken.getLast? = some last) :
    source.left (last.get source.keyField) = rest := by
  have hmem : last ∈ remaining source.rank source.keyField source.rows after := by
    rw [show remaining source.rank source.keyField source.rows after = taken ++ rest from h]
    exact List.mem_append_left rest (List.mem_of_getLast? hlast)
  have sorted : (taken ++ rest).Pairwise fun a b =>
      rowRank source.rank source.keyField a < rowRank source.rank source.keyField b := by
    rw [← h]
    exact List.Pairwise.sublist (remaining_sublist _ _ _ _) source.ascending
  have hafter := remaining_after source.rank source.keyField source.keyed hmem
  rw [show remaining source.rank source.keyField source.rows after = taken ++ rest from h] at hafter
  exact hafter.trans (Keyset.after_prefix _ sorted hlast)

end KeyedSource

variable {σ : Type} {fetchPage : Value → Nat → Py σ (List Row)}
  {onPage : ScanEvidence → Py σ Unit} {pageSize : Nat} {resume : Value} {maxPages : Int}

/-- A scan that returns took its rows from the front of what was left. It is
completed with nothing left, or stopped after all the pages it was allowed. -/
theorem scanLoop_takes (positive : 0 < pageSize) (fetched : σ → PageLog)
    (fetches : ∀ after s page t, fetchPage after pageSize s = (.ok page, t) →
      fetched t = fetched s ++ [(after, page)])
    (reads : ∀ after s page t, fetchPage after pageSize s = (.ok page, t) →
      page = pageQuery source.rank source.keyField source.rows after pageSize)
    (keeps : ∀ e s t, onPage e s = (.ok (), t) → fetched t = fetched s)
    {fuel : Nat} {scan : Scan} {s t : σ} {r : QueryScanResult}
    (h : scanLoop fetchPage onPage source.keyField pageSize resume maxPages fuel scan s =
      (.ok r, t)) :
    ∃ pages rest, fetched t = fetched s ++ pages ∧
      source.left scan.lastKey = pages.flatMap Prod.snd ++ rest ∧
      (r.evidence.completed = true → rest = []) ∧
      (r.evidence.completed = false → r.evidence.stopReason = "max_pages" ∧ 0 < maxPages ∧
        (pages.flatMap Prod.snd).length = pageSize * (maxPages - scan.pages).toNat) := by
  have split : ∀ {after : Value} {s t : σ} {page : List Row},
      fetchPage after pageSize s = (.ok page, t) → page = (source.left after).take pageSize :=
    fun fetch => (reads _ _ _ _ fetch).trans (pageQuery_eq_take _ _ source.keyed _ _)
  replace h := scanLoop_returned h
  induction h with
  | @bounded scan s limit =>
    refine ⟨[], source.left scan.lastKey, by simp, by simp, ?_, fun _ => ⟨rfl, limit.1, ?_⟩⟩
    · intro completed
      cases completed
    · rw [show (maxPages - scan.pages).toNat = 0 by omega]
      simp
  | @empty scan s t within fetch =>
    have nil : source.left scan.lastKey = [] := by
      rcases List.take_eq_nil_iff.mp (split fetch).symm with h | h
      · omega
      · exact h
    refine ⟨[(scan.lastKey, [])], [], fetches _ _ _ _ fetch, by simp [nil], fun _ => rfl, ?_⟩
    intro stopped
    cases stopped
  | @short scan scanned page s u t within fetch nonempty added saved short =>
    have taken := split fetch
    have length : page.length = min pageSize (source.left scan.lastKey).length := by
      rw [taken, List.length_take]
    refine ⟨[(scan.lastKey, page)], [], (keeps _ _ _ saved).trans (fetches _ _ _ _ fetch), ?_,
      fun _ => rfl, ?_⟩
    · rw [taken, List.take_of_length_le (by omega)]
      simp
    · intro stopped
      cases stopped
  | @full scan scanned page r s u v t within fetch nonempty added saved full rest ih =>
    have taken := split fetch
    have front : source.left scan.lastKey = page ++ (source.left scan.lastKey).drop pageSize := by
      rw [taken, List.take_append_drop]
    obtain ⟨last, hlast⟩ := exists_last nonempty
    obtain ⟨-, counted, key⟩ := addPage_spec added
    obtain ⟨pages, behind, hrest, hleft, hdone, hstopped⟩ := ih
    rw [(key last hlast).1, KeyedSource.left_last front hlast] at hleft
    refine ⟨(scan.lastKey, page) :: pages, behind, ?_, ?_, hdone, ?_⟩
    · rw [hrest, keeps _ _ _ saved, fetches _ _ _ _ fetch]
      simp
    · rw [front, hleft]
      simp
    · intro stopped
      obtain ⟨reason, bounded, count⟩ := hstopped stopped
      refine ⟨reason, bounded, ?_⟩
      -- this page is one more of the pages allowed
      have pagesLeft : (maxPages - scan.pages).toNat = (maxPages - scanned.pages).toNat + 1 := by
        omega
      have whole : page.length = pageSize := by
        have length : page.length = min pageSize (source.left scan.lastKey).length := by
          rw [taken, List.length_take]
        omega
      simp only [List.flatMap_cons, List.length_append, count, pagesLeft, whole]
      rw [Nat.mul_add, Nat.mul_one, Nat.add_comm]

end Takes

/-! ## Runs that resume one another -/

/-- One run: its limits, the result it returned and the page queries it made. -/
structure ScanRun where
  pageSize : Int
  maxPages : Int
  result : QueryScanResult
  pages : PageLog

/-- The rows the database gave the run. -/
def ScanRun.taken (run : ScanRun) : List Row := run.pages.flatMap Prod.snd

/-- The resume key a recorded key text is. -/
def resumeAfter : Option String → Value
  | some key => .str key
  | none => .null

section Runs

variable {K : Type} [LinearOrder K] (characters : CharTables) (source : KeyedSource K)
  (query : String)

/-- The run from a recorded key returns, given time enough. -/
def Scans (after : Option String) (run : ScanRun) : Prop :=
  ∃ enough, ∀ fuel, enough ≤ fuel →
    keysetScan characters source.rank source.keyField source.rows query run.pageSize
      (resumeAfter after) run.maxPages fuel = (.ok run.result, run.pages)

/-- Runs of which each starts after the last key the one before it recorded. -/
inductive ResumedScans : Option String → List ScanRun → Prop
  | nil {after : Option String} : ResumedScans after []
  | run {after : Option String} {run : ScanRun} {later : List ScanRun} (size : 1 ≤ run.pageSize)
      (scan : Scans characters source query after run)
      (h : ResumedScans run.result.evidence.lastKey later) : ResumedScans after (run :: later)

/-- The evidence of a run records its rows, its pages and its keys. -/
structure Records (after : Option String) (run : ScanRun) : Prop where
  rows : run.result.rows = run.taken.map serializeQueryRow
  rowCount : run.result.evidence.rows = run.result.rows.length
  pageCount : run.result.evidence.pages = nonEmptyPages run.pages
  firstKey : run.result.evidence.firstKey = firstKeyOf source.keyField run.taken
  lastKey : run.result.evidence.lastKey =
    (lastKeyOf source.keyField run.taken).or (textIfTruthy (resumeAfter after))

/-- A run that stops early had all the full pages it was allowed. -/
def StopsAtMaxPages (run : ScanRun) : Prop :=
  run.result.evidence.completed = false → run.result.evidence.stopReason = "max_pages" ∧
    0 < run.maxPages ∧
    run.result.rows.length = run.result.evidence.pageSize * run.maxPages.toNat

variable {characters source query}

theorem scanLoop_pageSize {σ : Type} {fetchPage : Value → Nat → Py σ (List Row)}
    {onPage : ScanEvidence → Py σ Unit} {keyField : String} {pageSize : Nat} {resume : Value}
    {maxPages : Int} {fuel : Nat} {scan : Scan} {s t : σ} {r : QueryScanResult}
    (h : scanLoop fetchPage onPage keyField pageSize resume maxPages fuel scan s = (.ok r, t)) :
    r.evidence.pageSize = pageSize := by
  replace h := scanLoop_returned h
  induction h with
  | bounded | empty | short => rfl
  | full _ _ _ _ _ _ _ ih => exact ih

/-- One run: what it took, what it left, and what it recorded. -/
theorem scans_spec (accepted : Accepted characters query source.keyField) {after : Option String}
    {run : ScanRun} (size : 1 ≤ run.pageSize) (scan : Scans characters source query after run) :
    Records source after run ∧ StopsAtMaxPages run ∧
      ∃ rest, source.left (Scan.start (resumeAfter after)).lastKey = run.taken ++ rest ∧
        (run.result.evidence.completed = true → rest = []) ∧
        (run.result.evidence.completed = false → run.taken ≠ []) := by
  obtain ⟨enough, h⟩ := scan
  have hloop := h enough le_rfl
  rw [keysetScan, executeSourceQueryKeyset_accepted _ _ _ _ _ _ accepted size] at hloop
  have positive : 0 < (min run.pageSize 5000).toNat := by omega
  have fetches : ∀ after (s : PageLog) page t, answerPage source.rank source.keyField source.rows
      after (min run.pageSize 5000).toNat s = (.ok page, t) → t = s ++ [(after, page)] ∧
        page = pageQuery source.rank source.keyField source.rows after
          (min run.pageSize 5000).toNat := by
    intro after s page t h
    cases h
    exact ⟨rfl, rfl⟩
  have keeps : ∀ (e : ScanEvidence) (s t : PageLog), (pure () : Py PageLog Unit) s = (.ok (), t) →
      t = s := by
    intro e s t h
    cases h
    rfl
  obtain ⟨pages, hpages, hrows, hcount, hnonempty, hfirst, hlast⟩ := scanLoop_records id
    (fun _ _ _ _ h => (fetches _ _ _ _ h).1) keeps hloop
  obtain ⟨taken, rest, htaken, hleft, hdone, hstopped⟩ := scanLoop_takes positive id
    (fun _ _ _ _ h => (fetches _ _ _ _ h).1) (fun _ _ _ _ h => (fetches _ _ _ _ h).2) keeps hloop
  simp only [id, List.nil_append] at hpages htaken
  subst hpages
  subst htaken
  have rows : run.result.rows = run.taken.map serializeQueryRow := by
    rw [hrows]
    rfl
  refine ⟨⟨rows, hcount, ?_, ?_, ?_⟩, ?_, rest, hleft, hdone, ?_⟩
  · rw [hnonempty, Scan.start, Nat.zero_add]
  · rw [hfirst]
    rfl
  · exact hlast
  · intro stopped
    obtain ⟨hreason, bounded, hlen⟩ := hstopped stopped
    refine ⟨hreason, bounded, ?_⟩
    have htaken : run.taken.length =
        (min run.pageSize 5000).toNat * (run.maxPages - (0 : Nat)).toNat := hlen
    rw [rows, List.length_map, scanLoop_pageSize hloop, htaken, Nat.cast_zero, Int.sub_zero]
  · intro stopped hnil
    obtain ⟨-, bounded, hlen⟩ := hstopped stopped
    rw [show run.pages.flatMap Prod.snd = [] from hnil] at hlen
    have : 0 < (min run.pageSize 5000).toNat * run.maxPages.toNat := Nat.mul_pos positive (by omega)
    simp [Scan.start] at hlen
    omega

/-- Every key has a text. -/
def Named (source : KeyedSource K) : Prop :=
  ∀ row ∈ source.rows, (row.get source.keyField).text ≠ ""

/-- A scan that resumes after the text of a row's key has left what follows that row. -/
theorem left_resumed (named : Named source) {row : Row} (hr : row ∈ source.rows) :
    source.left (Scan.start (resumeAfter (some (row.get source.keyField).text))).lastKey =
      source.left (row.get source.keyField) := by
  have truthy : (Value.str (row.get source.keyField).text).truthy = true := by
    simpa [Value.truthy] using named row hr
  have after : (Scan.start (resumeAfter (some (row.get source.keyField).text))).lastKey =
      .str (row.get source.keyField).text := by
    rw [resumeAfter, Scan.start, if_pos truthy]
  have keyed : (row.get source.keyField).isNone = false := (source.keyed row hr).2
  unfold KeyedSource.left remaining
  rw [after, if_neg (by simp [Value.isNone]), if_neg (by simp [keyed]), source.readBack row hr]

theorem lastKeyOf_some (named : Named source) {taken : List Row} (sub : ∀ row ∈ taken, row ∈ source.rows)
    (took : taken ≠ []) :
    ∃ last ∈ source.rows, taken.getLast? = some last ∧ (last.get source.keyField).text ≠ "" ∧
      lastKeyOf source.keyField taken = some (last.get source.keyField).text := by
  cases hl : taken.getLast? with
  | none => exact absurd (List.getLast?_eq_none_iff.mp hl) took
  | some last =>
    have hr := sub last (List.mem_of_getLast? hl)
    exact ⟨last, hr, rfl, named last hr, by rw [lastKeyOf, hl]; rfl⟩

/-- What is left after the last key taken is the rest. -/
theorem left_lastKey (named : Named source) {after : Value} {taken rest : List Row}
    (hleft : source.left after = taken ++ rest) (took : taken ≠ []) :
    source.left (Scan.start (resumeAfter (lastKeyOf source.keyField taken))).lastKey = rest := by
  have sub : ∀ row ∈ taken, row ∈ source.rows := fun row hr =>
    (remaining_sublist _ _ _ _).subset
      (show row ∈ source.left after from hleft ▸ List.mem_append_left rest hr)
  obtain ⟨last, hmem, hlast, -, hkey⟩ := lastKeyOf_some named sub took
  rw [hkey, left_resumed named hmem]
  exact KeyedSource.left_last hleft hlast

/-- What a run that stops early leaves is what the next one starts with. -/
theorem left_after_run (named : Named source) {after : Option String} {run : ScanRun}
    (records : Records source after run) {rest : List Row}
    (hleft : source.left (Scan.start (resumeAfter after)).lastKey = run.taken ++ rest)
    (took : run.taken ≠ []) :
    source.left (Scan.start (resumeAfter run.result.evidence.lastKey)).lastKey = rest := by
  have hkey : run.result.evidence.lastKey = lastKeyOf source.keyField run.taken := by
    rw [records.lastKey, lastKeyOf]
    cases hl : run.taken.getLast? with
    | none => exact absurd (List.getLast?_eq_none_iff.mp hl) took
    | some last => rfl
  rw [hkey]
  exact left_lastKey named hleft took

/-- From any recorded key, the runs up to the first completed one return the
rows left after it. -/
theorem resumed_from (accepted : Accepted characters query source.keyField) (named : Named source)
    {after : Option String} {early later : List ScanRun} {final : ScanRun}
    (h : ResumedScans characters source query after (early ++ final :: later))
    (stopped : ∀ run ∈ early, run.result.evidence.completed = false)
    (completed : final.result.evidence.completed = true) :
    (early ++ [final]).flatMap (fun run => run.result.rows) =
      (source.left (Scan.start (resumeAfter after)).lastKey).map serializeQueryRow := by
  induction early generalizing after with
  | nil =>
    cases h with
    | run size scan h =>
      obtain ⟨records, -, rest, hleft, hdone, -⟩ := scans_spec accepted size scan
      rw [hleft, hdone completed]
      simp [records.rows]
  | cons run early ih =>
    cases h with
    | run size scan h =>
      obtain ⟨records, -, rest, hleft, -, hstopped⟩ := scans_spec accepted size scan
      have took := hstopped (stopped run List.mem_cons_self)
      have hrest := ih h fun r hr => stopped r (List.mem_cons_of_mem run hr)
      rw [left_after_run named records hleft took] at hrest
      rw [List.cons_append, List.flatMap_cons, hrest, hleft, records.rows, List.map_append]

/-- Any limits on the pages give a run that returns. -/
theorem scans_exists (accepted : Accepted characters query source.keyField) (after : Option String)
    {pageSize : Int} (size : 1 ≤ pageSize) (maxPages : Int) :
    ∃ run : ScanRun, run.pageSize = pageSize ∧ run.maxPages = maxPages ∧
      Scans characters source query after run := by
  have answers : Answers source.rank source.keyField source.rows (min pageSize 5000).toNat
      (answerPage source.rank source.keyField source.rows) := fun _ _ => ⟨_, rfl⟩
  have saves : ∀ (e : ScanEvidence) (log : PageLog), ∃ t, (pure () : Py PageLog Unit) log =
      (.ok (), t) := fun _ log => ⟨log, rfl⟩
  have goesOn : ∀ last, (min pageSize 5000).toNat ≤ source.rows.length →
      (source.rows.take (min pageSize 5000).toNat).getLast? = some last →
      (last.get source.keyField).isNone = false := fun last _ hlast =>
    (source.keyed last (List.mem_of_mem_take (List.mem_of_getLast? hlast))).2
  obtain ⟨enough, r, pages, h⟩ := scanLoop_ends answers saves
    (fun row hr => (source.keyed row hr).1) (resumeAfter after) (by omega)
    (Scan.start (resumeAfter after)) [] (Or.inr (Or.inr goesOn))
  refine ⟨⟨pageSize, maxPages, r, pages⟩, rfl, rfl, enough, fun fuel le => ?_⟩
  rw [keysetScan, executeSourceQueryKeyset_accepted _ _ _ _ _ _ accepted size]
  exact scanLoop_more le h

theorem resumedScans_exists (accepted : Accepted characters query source.keyField)
    (limits : List (Int × Int)) (sizes : ∀ limit ∈ limits, 1 ≤ limit.1) (after : Option String) :
    ∃ runs, runs.map (fun run => (run.pageSize, run.maxPages)) = limits ∧
      ResumedScans characters source query after runs := by
  induction limits generalizing after with
  | nil => exact ⟨[], rfl, .nil⟩
  | cons limit limits ih =>
    obtain ⟨pageSize, maxPages⟩ := limit
    have size : 1 ≤ pageSize := sizes _ List.mem_cons_self
    obtain ⟨run, rfl, rfl, scan⟩ := scans_exists accepted after size maxPages
    obtain ⟨runs, rfl, h⟩ := ih (fun l hl => sizes l (List.mem_cons_of_mem _ hl))
      run.result.evidence.lastKey
    exact ⟨run :: runs, rfl, .run size scan h⟩

/-- The key the next run resumes after. -/
def lastRecorded (after : Option String) (earlier : List ScanRun) : Option String :=
  earlier.foldl (fun _ run => run.result.evidence.lastKey) after

theorem ResumedScans.at_ {after : Option String} {earlier later : List ScanRun} {run : ScanRun}
    (h : ResumedScans characters source query after (earlier ++ run :: later)) :
    1 ≤ run.pageSize ∧ Scans characters source query (lastRecorded after earlier) run := by
  induction earlier generalizing after with
  | nil =>
    cases h with
    | run size scan _ => exact ⟨size, scan⟩
  | cons first earlier ih =>
    cases h with
    | run _ _ h => exact ih h

/-- Over a source that does not change, runs with limits of their own, each
resuming after the last key the run before it recorded, return: those up to the
first completed one return all the rows in key order, those that stop early the
pages they were allowed, and every one records what it returned. -/
theorem resumed_scans_compose {source : KeyedSource K} (named : Named source) {query : String}
    (accepted : Accepted characters query source.keyField) :
    (∀ limits : List (Int × Int), (∀ limit ∈ limits, 1 ≤ limit.1) →
      ∃ runs, runs.map (fun run => (run.pageSize, run.maxPages)) = limits ∧
        ResumedScans characters source query none runs) ∧
    ∀ runs, ResumedScans characters source query none runs →
      (∀ early final later, runs = early ++ final :: later →
        (∀ run ∈ early, run.result.evidence.completed = false) →
        final.result.evidence.completed = true →
        (early ++ [final]).flatMap (fun run => run.result.rows) =
          source.rows.map serializeQueryRow) ∧
      ∀ earlier run later, runs = earlier ++ run :: later →
        StopsAtMaxPages run ∧ Records source (lastRecorded none earlier) run := by
  refine ⟨fun limits sizes => resumedScans_exists accepted limits sizes none, ?_⟩
  intro runs h
  constructor
  · rintro early final later rfl stopped completed
    exact resumed_from accepted named h stopped completed
  · rintro earlier run later rfl
    obtain ⟨size, scan⟩ := h.at_
    obtain ⟨records, stops, -⟩ := scans_spec accepted size scan
    exact ⟨stops, records⟩

theorem accounts_accepted : Accepted .ascii "select * from accounts" "id" :=
  ⟨by decide +kernel, ⟨"select * from accounts", by decide +kernel⟩, "\"id\"", by decide +kernel⟩

theorem resumed_scans_compose_twoAccounts :
    (∀ limits : List (Int × Int), (∀ limit ∈ limits, 1 ≤ limit.1) →
      ∃ runs, runs.map (fun run => (run.pageSize, run.maxPages)) = limits ∧
        ResumedScans .ascii twoAccounts "select * from accounts" none runs) ∧
    ∀ runs, ResumedScans .ascii twoAccounts "select * from accounts" none runs →
      (∀ early final later, runs = early ++ final :: later →
        (∀ run ∈ early, run.result.evidence.completed = false) →
        final.result.evidence.completed = true →
        (early ++ [final]).flatMap (fun run => run.result.rows) =
          twoAccounts.rows.map serializeQueryRow) ∧
      ∀ earlier run later, runs = earlier ++ run :: later →
        StopsAtMaxPages run ∧ Records twoAccounts (lastRecorded none earlier) run :=
  resumed_scans_compose (by simp [Named, twoAccounts, accountRow, Row.get, Value.text]) accounts_accepted

end Runs

end KubeDataGuard
