import KubeDataGuard.General.Keyset
import KubeDataGuard.Worker.Scan

/-!
# What a completed scan returns

On a source that answers every page query, the scan is the paging of `Keyset`:
it always ends, always calls itself completed, and returns every row exactly
when no page boundary falls inside a group of rows with one key.
-/

namespace KubeDataGuard

variable {K : Type} [LinearOrder K] (rank : Value → K) (keyField : String)

def rowRank (row : Row) : K := rank (row.get keyField)

/-- The rows the scan has not passed yet. -/
def remaining (ordered : List Row) (after : Value) : List Row :=
  if after.isNone then ordered else Keyset.after (rowRank rank keyField) ordered (rank after)

theorem pageQuery_eq_take {ordered : List Row} (keyed : Keyed keyField ordered) (after : Value)
    (limit : Nat) :
    pageQuery rank keyField ordered after limit =
      (remaining rank keyField ordered after).take limit := by
  unfold pageQuery remaining
  split
  · rfl
  · congr 1
    apply List.filter_congr
    intro row hr
    rw [(keyed row hr).2]
    rfl

theorem remaining_sublist (ordered : List Row) (after : Value) :
    (remaining rank keyField ordered after).Sublist ordered := by
  unfold remaining
  split
  · exact List.Sublist.refl ordered
  · exact List.filter_sublist

/-- What remains after a row that remained. -/
theorem remaining_after {ordered : List Row} (keyed : Keyed keyField ordered) {after : Value}
    {last : Row} (hl : last ∈ remaining rank keyField ordered after) :
    remaining rank keyField ordered (last.get keyField) =
      Keyset.after (rowRank rank keyField) (remaining rank keyField ordered after)
        (rowRank rank keyField last) := by
  have hmem : last ∈ ordered := (remaining_sublist rank keyField ordered after).subset hl
  have hstep : remaining rank keyField ordered (last.get keyField) =
      Keyset.after (rowRank rank keyField) ordered (rowRank rank keyField last) := by
    simp [remaining, (keyed last hmem).2, rowRank]
  rw [hstep]
  unfold remaining at hl ⊢
  split
  · rfl
  · rename_i resumed
    rw [if_neg resumed] at hl
    exact (Keyset.after_after _ ordered (le_of_lt (Keyset.mem_after _ |>.mp hl).2)).symm

variable {σ : Type} {rank keyField}

/-- From any point on, the loop returns the pages of what remains. -/
theorem scanLoop_paged {ordered : List Row} (keyed : Keyed keyField ordered)
    (ascending : Keyset.Ascending (rowRank rank keyField) ordered) {pageSize : Nat}
    (positive : 0 < pageSize) {maxPages : Int} (unbounded : maxPages ≤ 0) (resume : Value)
    (s : σ) {fuel : Nat} (scan : Scan)
    (enough : (remaining rank keyField ordered scan.lastKey).length < fuel) :
    ∃ r, scanLoop (fun after limit => pure (pageQuery rank keyField ordered after limit))
        (fun _ => pure ()) keyField pageSize resume maxPages fuel scan s = (.ok r, s) ∧
      r.evidence.completed = true ∧ r.rows = scan.rows ++
        (Keyset.paged (rowRank rank keyField) pageSize positive
          (remaining rank keyField ordered scan.lastKey)).map serializeQueryRow := by
  induction fuel generalizing scan with
  | zero => omega
  | succ fuel ih =>
    obtain ⟨rest, hrest⟩ : ∃ rest, rest = remaining rank keyField ordered scan.lastKey := ⟨_, rfl⟩
    rw [← hrest] at enough ⊢
    have sub : rest.Sublist ordered := hrest ▸ remaining_sublist rank keyField ordered scan.lastKey
    have sorted : Keyset.Ascending (rowRank rank keyField) rest := List.Pairwise.sublist sub ascending
    unfold scanLoop
    rw [if_neg (by omega), Py.bind_run, Py.pure_run, pageQuery_eq_take rank keyField keyed, ← hrest]
    simp only
    by_cases hempty : (rest.take pageSize).isEmpty = true
    · rw [if_pos hempty]
      have nil : rest = [] := by
        rcases List.take_eq_nil_iff.mp (List.isEmpty_iff.mp hempty) with h | h
        · omega
        · exact h
      refine ⟨_, rfl, rfl, ?_⟩
      simp [Scan.result, nil, Keyset.paged_short _ positive, positive]
    rw [if_neg hempty]
    have columns : ∀ row ∈ rest.take pageSize, row.has keyField = true := fun row hr =>
      (keyed row (sub.subset (List.mem_of_mem_take hr))).1
    obtain ⟨scanned, hadd⟩ := addPage_returns columns scan
    obtain ⟨hrows, -, hkey⟩ := addPage_spec hadd
    rw [Py.bind_run, Py.ofExcept_run, hadd]
    simp only [Py.bind_run, Py.pure_run, List.length_take]
    by_cases hshort : min pageSize rest.length < pageSize
    · rw [if_pos hshort]
      refine ⟨_, rfl, rfl, ?_⟩
      rw [Keyset.paged_short _ positive (by omega)]
      simp [Scan.result, hrows, List.take_of_length_le (show rest.length ≤ pageSize by omega)]
    · rw [if_neg hshort]
      have hlen : pageSize ≤ rest.length := by omega
      have hlast : (rest.take pageSize).getLast? = some rest[pageSize - 1] := by
        rw [List.getLast?_eq_getElem?, List.length_take, Nat.min_eq_left hlen,
          List.getElem?_take_of_lt (by omega), List.getElem?_eq_getElem (by omega)]
      have hmem : rest[pageSize - 1] ∈ remaining rank keyField ordered scan.lastKey :=
        hrest ▸ List.getElem_mem _
      have hnext : remaining rank keyField ordered scanned.lastKey =
          Keyset.after (rowRank rank keyField) rest (rowRank rank keyField rest[pageSize - 1]) := by
        rw [(hkey _ hlast).1, remaining_after rank keyField keyed hmem, ← hrest]
      have shrinks := Keyset.after_length_lt (rowRank rank keyField)
        (List.getElem_mem (show pageSize - 1 < rest.length by omega)) le_rfl
      obtain ⟨r, hr, completed, hresult⟩ := ih scanned (by rw [hnext]; omega)
      refine ⟨r, hr, completed, ?_⟩
      rw [hresult, hrows, hnext, Keyset.paged_step _ positive hlen]
      simp

/-- The code takes the query and the name of the key column. -/
def Accepted (characters : CharTables) (query keyField : String) : Prop :=
  strip query ≠ "" ∧ (∃ q, normalizedSourceQuery query = .ok q) ∧
    ∃ k, quoteIdentifier characters keyField = .ok k

/-- An unbounded scan from the start always ends as completed. It returns the
rows `execute_source_query` returns exactly when no page boundary falls
between two rows with the same key. -/
theorem completed_scan_lossless_iff (rank : Value → K) {characters : CharTables}
    {query keyField : String} (accepted : Accepted characters query keyField) {pageSize : Int} (lower : 1 ≤ pageSize)
    (upper : pageSize ≤ 5000) {maxPages : Int} (unbounded : maxPages ≤ 0)
    {result ordered : List Row} (perm : ordered.Perm result) (keyed : Keyed keyField result)
    (ascending : Keyset.Ascending (rowRank rank keyField) ordered) :
    ∃ scan rows, executeSourceQuery query result = .ok rows ∧ scan.evidence.completed = true ∧
      (∃ enough, ∀ fuel, enough ≤ fuel → ∀ s : Unit,
        executeSourceQueryKeyset characters
          (fun after limit => pure (pageQuery rank keyField ordered after limit))
          (fun _ => pure ()) query keyField pageSize .null maxPages fuel s = (.ok scan, s)) ∧
      (scan.rows.Perm rows ↔ Keyset.Unbroken (rowRank rank keyField) pageSize.toNat ordered) := by
  obtain ⟨nonempty, ⟨_, hquery⟩, _, hkey⟩ := accepted
  have keyedOrdered : Keyed keyField ordered := fun row hr => keyed row (perm.subset hr)
  have hsize : boundedSourceScanPageSize pageSize = .ok pageSize.toNat :=
    boundedSourceScanPageSize_ok_iff.mpr ⟨lower, by rw [min_eq_left upper]⟩
  have positive : 0 < pageSize.toNat := by omega
  have start : remaining rank keyField ordered (Scan.start .null).lastKey = ordered := rfl
  obtain ⟨scan, hscan, completed, hrows⟩ := scanLoop_paged keyedOrdered ascending positive
    unbounded .null () (Scan.start .null) (Nat.lt_succ_self _)
  rw [start] at hscan hrows
  refine ⟨scan, _, if_neg nonempty, completed, ⟨ordered.length + 1, ?_⟩, ?_⟩
  · intro fuel enough s
    unfold executeSourceQueryKeyset
    rw [if_neg nonempty, hsize, hquery, hkey]
    exact scanLoop_more enough hscan
  · rw [hrows, ← Keyset.paged_perm_iff _ positive ordered ascending]
    constructor
    · intro h
      have hlen := h.length_eq
      have sub := Keyset.paged_sublist (rowRank rank keyField) positive ordered ascending
      simp only [Scan.start, List.nil_append, List.length_map, ← perm.length_eq] at hlen
      rw [sub.eq_of_length hlen]
    · intro h
      exact (h.trans perm).map serializeQueryRow

/-! A source with a repeated key: the second row of the group is lost. -/

def repeatedKey : List Row :=
  [[("id", .int 1), ("total", .int 10)], [("id", .int 1), ("total", .int 20)]]

def intRank : Value → Int
  | .int n => n
  | _ => 0

def lossyScan : QueryScanResult where
  rows := [[("id", .int 1), ("total", .int 10)]]
  evidence :=
    { keyField := "id", pageSize := 1, pages := 1, rows := 1, firstKey := some "1",
      lastKey := some "1", resumeAfterKey := none, sourceWatermark := none, completed := true,
      stopReason := "exhausted" }

theorem totals_accepted : Accepted .ascii "select * from totals" "id" :=
  ⟨by decide +kernel, ⟨"select * from totals", by decide +kernel⟩, "\"id\"", by decide +kernel⟩

theorem completed_scan_loses_a_row :
    ∃ scan rows, executeSourceQuery "select * from totals" repeatedKey = .ok rows ∧
      executeSourceQueryKeyset .ascii
        (fun after limit => pure (pageQuery intRank "id" repeatedKey after limit))
        (fun _ => pure ()) "select * from totals" "id" 1 .null 0 3 () = (.ok scan, ()) ∧
      scan.evidence.completed = true ∧ ¬scan.rows.Perm rows := by
  obtain ⟨nonempty, ⟨_, hquery⟩, _, hkey⟩ := totals_accepted
  refine ⟨lossyScan, _, if_neg nonempty, ?run, rfl, ?lost⟩
  case run =>
    unfold executeSourceQueryKeyset
    rw [if_neg nonempty, hquery, hkey]
    rfl
  case lost => exact fun h => absurd h.length_eq (by decide)

theorem completed_scan_lossless_iff_two_totals :
    ∃ scan rows, executeSourceQuery "select * from totals" repeatedKey = .ok rows ∧
      scan.evidence.completed = true ∧
      (∃ enough, ∀ fuel, enough ≤ fuel → ∀ s : Unit,
        executeSourceQueryKeyset .ascii
          (fun after limit => pure (pageQuery intRank "id" repeatedKey after limit))
          (fun _ => pure ()) "select * from totals" "id" 2 .null 0 fuel s = (.ok scan, s)) ∧
      (scan.rows.Perm rows ↔ Keyset.Unbroken (rowRank intRank "id") 2 repeatedKey) :=
  completed_scan_lossless_iff intRank totals_accepted (by decide) (by decide) le_rfl (List.Perm.refl _)
    (by simp [Keyed, repeatedKey, Row.has, Row.get, Value.isNone])
    (by simp [Keyset.Ascending, repeatedKey, rowRank, Row.get, intRank])

end KubeDataGuard
