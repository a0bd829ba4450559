import KubeDataGuard.Worker.ScanLoss

/-!
# When a keyset scan ends

The paging loop over a source that does not change, with any keys. One variable
is both the cursor and the absence of one: a full first page that ends in a
null key sends an unbounded loop back to that page.
-/

namespace KubeDataGuard

/-- The page queries answered so far: after which key, and with which rows. -/
abbrev PageLog := List (Value × List Row)

section Source

variable {K : Type} [LinearOrder K] (rank : Value → K) (keyField : String) (ordered : List Row)

/-- `order by key asc` sorts the null keys last. -/
def NullsLast : Prop :=
  ordered.Pairwise fun a b => (b.get keyField).isNone = true ∨
    (a.get keyField).isNone = false ∧ rank (a.get keyField) ≤ rank (b.get keyField)

/-- The rows with a key. -/
def keyedRows : List Row := ordered.filter fun row => !(row.get keyField).isNone

/-- A page query that a source with these rows answers. -/
def answerPage (after : Value) (limit : Nat) : Py PageLog (List Row) := fun log =>
  (.ok (pageQuery rank keyField ordered after limit),
    log ++ [(after, pageQuery rank keyField ordered after limit)])

/-- The rows with a key beyond another. -/
def beyond (after : Value) : List Row :=
  ordered.filter fun row => !(row.get keyField).isNone &&
    decide (rank after < rank (row.get keyField))

variable {rank keyField ordered}

theorem pageQuery_subset {after : Value} {limit : Nat} {row : Row}
    (h : row ∈ pageQuery rank keyField ordered after limit) : row ∈ ordered := by
  unfold pageQuery at h
  split at h
  · exact List.mem_of_mem_take h
  · exact (List.mem_filter.mp (List.mem_of_mem_take h)).1

theorem mem_beyond {after : Value} {row : Row} : row ∈ beyond rank keyField ordered after ↔
    row ∈ ordered ∧ (row.get keyField).isNone = false ∧ rank after < rank (row.get keyField) := by
  simp [beyond]

/-- Fewer rows lie beyond a row that lay beyond. -/
theorem beyond_shrinks {after : Value} {last : Row}
    (h : last ∈ beyond rank keyField ordered after) :
    (beyond rank keyField ordered (last.get keyField)).length <
      (beyond rank keyField ordered after).length := by
  obtain ⟨-, -, passed⟩ := mem_beyond.mp h
  have later : beyond rank keyField ordered (last.get keyField) =
      (beyond rank keyField ordered after).filter
        fun row => decide (rank (last.get keyField) < rank (row.get keyField)) := by
    unfold beyond
    rw [List.filter_filter]
    apply List.filter_congr
    intro row _
    by_cases hrow : rank (last.get keyField) < rank (row.get keyField)
    · simp [hrow, lt_trans passed hrow]
    · simp [hrow]
  rw [later]
  exact List.length_filter_lt_length_iff_exists.mpr ⟨last, h, by simp⟩

/-- The last row of a full first page has no key exactly when the rows with one
do not fill that page. -/
theorem firstPage_ends_in_null_iff (sorted : NullsLast rank keyField ordered) {pageSize : Nat}
    (positive : 0 < pageSize) (full : pageSize ≤ ordered.length) :
    (ordered[pageSize - 1].get keyField).isNone = true ↔
      (keyedRows keyField ordered).length < pageSize := by
  have before : ∀ i (hi : i < ordered.length), (ordered[i].get keyField).isNone = true →
      ∀ j (hj : j < ordered.length), i < j → (ordered[j].get keyField).isNone = true := by
    intro i hi hnull j hj lt
    rcases List.pairwise_iff_getElem.mp sorted i j hi hj lt with h | ⟨h, -⟩
    · exact h
    · rw [hnull] at h
      cases h
  have halves : keyedRows keyField ordered = keyedRows keyField (ordered.take (pageSize - 1)) ++
      keyedRows keyField (ordered.drop (pageSize - 1)) := by
    unfold keyedRows
    rw [← List.filter_append, List.take_append_drop]
  constructor
  · intro hnull
    have tail : keyedRows keyField (ordered.drop (pageSize - 1)) = [] := by
      apply List.filter_eq_nil_iff.mpr
      intro row hr
      obtain ⟨i, hi, rfl⟩ := List.mem_iff_getElem.mp hr
      rw [List.length_drop] at hi
      rw [List.getElem_drop]
      by_cases first : i = 0
      · simpa [first] using hnull
      · simpa using before _ (by omega) hnull (pageSize - 1 + i) (by omega) (by omega)
    have short : (keyedRows keyField (ordered.take (pageSize - 1))).length ≤
        (ordered.take (pageSize - 1)).length := List.length_filter_le _ _
    rw [halves, tail, List.append_nil]
    rw [List.length_take] at short
    omega
  · intro few
    by_contra hkey
    have page : keyedRows keyField (ordered.take pageSize) = ordered.take pageSize := by
      apply List.filter_eq_self.mpr
      intro row hr
      obtain ⟨i, hi, rfl⟩ := List.mem_iff_getElem.mp hr
      rw [List.length_take] at hi
      rw [List.getElem_take]
      by_contra hnull
      by_cases last : i = pageSize - 1
      · subst last
        exact hkey (by simpa using hnull)
      · exact hkey (before i (by omega) (by simpa using hnull) (pageSize - 1) (by omega) (by omega))
    have within : (keyedRows keyField (ordered.take pageSize)).length ≤
        (keyedRows keyField ordered).length :=
      ((List.take_sublist pageSize ordered).filter _).length_le
    rw [page, List.length_take] at within
    omega

end Source

/-! ## Turns of the loop -/

section Turns

variable {K : Type} [LinearOrder K] {rank : Value → K} {keyField : String} {ordered : List Row}
  {σ : Type} {fetchPage : Value → Nat → Py σ (List Row)} {onPage : ScanEvidence → Py σ Unit}
  {pageSize : Nat} {maxPages : Int}

/-- Every page query is answered with the rows it asks for. -/
def Answers (rank : Value → K) (keyField : String) (ordered : List Row) (pageSize : Nat)
    (fetchPage : Value → Nat → Py σ (List Row)) : Prop :=
  ∀ after s, ∃ t, fetchPage after pageSize s =
    (.ok (pageQuery rank keyField ordered after pageSize), t)

theorem pageQuery_getLast {after : Value} (positive : 0 < pageSize)
    (full : pageSize ≤ (pageQuery rank keyField ordered after pageSize).length) :
    ∃ last, (pageQuery rank keyField ordered after pageSize).getLast? = some last := by
  cases h : (pageQuery rank keyField ordered after pageSize).getLast? with
  | none =>
    rw [List.getLast?_eq_none_iff.mp h, List.length_nil] at full
    omega
  | some last => exact ⟨last, rfl⟩

variable (answers : Answers rank keyField ordered pageSize fetchPage)
  (saves : ∀ e s, ∃ t, onPage e s = (.ok (), t))
  (columns : ∀ row ∈ ordered, row.has keyField = true) (resume : Value)

include answers saves columns

/-- A turn that ends the loop: it has had its pages, or the page is short. -/
theorem scanLoop_stops (scan : Scan) (s : σ)
    (stops : (0 < maxPages ∧ maxPages ≤ scan.pages) ∨
      (pageQuery rank keyField ordered scan.lastKey pageSize).length < pageSize) :
    ∃ r t, ∀ fuel, scanLoop fetchPage onPage keyField pageSize resume maxPages (fuel + 1) scan s =
      (.ok r, t) := by
  by_cases bounded : 0 < maxPages ∧ maxPages ≤ scan.pages
  · refine ⟨scan.result keyField pageSize resume false "max_pages", s, fun fuel => ?_⟩
    rw [scanLoop, if_pos bounded]
    rfl
  have short := stops.resolve_left bounded
  obtain ⟨t, hfetch⟩ := answers scan.lastKey s
  by_cases empty : (pageQuery rank keyField ordered scan.lastKey pageSize).isEmpty = true
  · refine ⟨scan.result keyField pageSize resume true "exhausted", t, fun fuel => ?_⟩
    rw [scanLoop, if_neg bounded, Py.bind_run, hfetch]
    simp only [empty, if_true]
    rfl
  have pageColumns : ∀ row ∈ pageQuery rank keyField ordered scan.lastKey pageSize,
      row.has keyField = true := fun row hr => columns row (pageQuery_subset hr)
  obtain ⟨scanned, hadd⟩ := addPage_returns pageColumns scan
  obtain ⟨u, hsave⟩ := saves (scanned.evidence keyField pageSize resume false "page") t
  refine ⟨scanned.result keyField pageSize resume true "exhausted", u, fun fuel => ?_⟩
  rw [scanLoop, if_neg bounded, Py.bind_run, hfetch]
  simp only [empty]
  rw [hadd]
  simp only [Bool.false_eq_true, if_false, Py.bind_run, Py.ofExcept_run, hsave, short, if_true]
  rfl

/-- A full page within the pages allowed leads to another turn, after its last row. -/
theorem scanLoop_turns (scan : Scan) (s : σ) (within : ¬(0 < maxPages ∧ maxPages ≤ scan.pages))
    {last : Row} (full : pageSize ≤ (pageQuery rank keyField ordered scan.lastKey pageSize).length)
    (hlast : (pageQuery rank keyField ordered scan.lastKey pageSize).getLast? = some last) :
    ∃ scanned t, scanned.lastKey = last.get keyField ∧ scanned.pages = scan.pages + 1 ∧
      ∀ fuel, scanLoop fetchPage onPage keyField pageSize resume maxPages (fuel + 1) scan s =
        scanLoop fetchPage onPage keyField pageSize resume maxPages fuel scanned t := by
  obtain ⟨t, hfetch⟩ := answers scan.lastKey s
  have pageColumns : ∀ row ∈ pageQuery rank keyField ordered scan.lastKey pageSize,
      row.has keyField = true := fun row hr => columns row (pageQuery_subset hr)
  obtain ⟨scanned, hadd⟩ := addPage_returns pageColumns scan
  obtain ⟨-, hpages, hkeys⟩ := addPage_spec hadd
  obtain ⟨u, hsave⟩ := saves (scanned.evidence keyField pageSize resume false "page") t
  have nonempty : (pageQuery rank keyField ordered scan.lastKey pageSize).isEmpty = false := by
    rw [Bool.eq_false_iff]
    intro h
    rw [List.isEmpty_iff.mp h] at hlast
    cases hlast
  refine ⟨scanned, u, (hkeys last hlast).1, hpages, fun fuel => ?_⟩
  rw [scanLoop, if_neg within, Py.bind_run, hfetch]
  simp only [nonempty]
  rw [hadd]
  simp only [Bool.false_eq_true, if_false, Py.bind_run, Py.ofExcept_run, hsave]
  rw [if_neg (by omega)]

/-- With a bound on the pages the loop has only so many turns. -/
theorem scanLoop_ends_bounded (positive : 0 < pageSize) (bounded : 0 < maxPages) (scan : Scan)
    (s : σ) :
    ∃ fuel r t, scanLoop fetchPage onPage keyField pageSize resume maxPages fuel scan s =
      (.ok r, t) := by
  induction hn : (maxPages - scan.pages).toNat generalizing scan s with
  | zero =>
    obtain ⟨r, t, h⟩ := scanLoop_stops answers saves columns resume scan s
      (Or.inl ⟨bounded, by omega⟩)
    exact ⟨1, r, t, h 0⟩
  | succ n ih =>
    by_cases full : pageSize ≤ (pageQuery rank keyField ordered scan.lastKey pageSize).length
    · obtain ⟨last, hlast⟩ := pageQuery_getLast positive full
      have within : ¬(0 < maxPages ∧ maxPages ≤ scan.pages) := by omega
      obtain ⟨scanned, t, -, hpages, hturn⟩ :=
        scanLoop_turns answers saves columns resume scan s within full hlast
      obtain ⟨fuel, r, u, h⟩ := ih scanned t (by omega)
      exact ⟨fuel + 1, r, u, (hturn fuel).trans h⟩
    · obtain ⟨r, t, h⟩ := scanLoop_stops answers saves columns resume scan s
        (Or.inr (by omega))
      exact ⟨1, r, t, h 0⟩

/-- From a key on, every full page ends at a later key. -/
theorem scanLoop_ends_resumed (positive : 0 < pageSize) {scan : Scan}
    (resumed : scan.lastKey.isNone = false) (s : σ) :
    ∃ fuel r t, scanLoop fetchPage onPage keyField pageSize resume maxPages fuel scan s =
      (.ok r, t) := by
  induction hn : (beyond rank keyField ordered scan.lastKey).length using Nat.strongRecOn
    generalizing scan s with
  | ind n ih =>
    by_cases goes : ¬(0 < maxPages ∧ maxPages ≤ scan.pages) ∧
        pageSize ≤ (pageQuery rank keyField ordered scan.lastKey pageSize).length
    · obtain ⟨within, full⟩ := goes
      obtain ⟨last, hlast⟩ := pageQuery_getLast positive full
      have hmem : last ∈ beyond rank keyField ordered scan.lastKey := by
        have hpage := List.mem_of_getLast? hlast
        rw [pageQuery, resumed] at hpage
        exact List.mem_of_mem_take hpage
      have shrinks := beyond_shrinks hmem
      obtain ⟨-, hkey, -⟩ := mem_beyond.mp hmem
      obtain ⟨scanned, t, hscanned, -, hturn⟩ :=
        scanLoop_turns answers saves columns resume scan s within full hlast
      rw [← hscanned] at shrinks hkey
      obtain ⟨fuel, r, u, h⟩ := ih _ (by omega) hkey t rfl
      exact ⟨fuel + 1, r, u, (hturn fuel).trans h⟩
    · have stops : (0 < maxPages ∧ maxPages ≤ scan.pages) ∨
          (pageQuery rank keyField ordered scan.lastKey pageSize).length < pageSize := by
        by_cases bounded : 0 < maxPages ∧ maxPages ≤ scan.pages
        · exact Or.inl bounded
        · exact Or.inr (Nat.lt_of_not_le fun full => goes ⟨bounded, full⟩)
      obtain ⟨r, t, h⟩ := scanLoop_stops answers saves columns resume scan s stops
      exact ⟨1, r, t, h 0⟩

/-- The loop ends once it has a bound, or a key to go on from: its own, or the
one at the end of a full first page. -/
theorem scanLoop_ends (positive : 0 < pageSize) (scan : Scan) (s : σ)
    (goesOn : 0 < maxPages ∨ scan.lastKey.isNone = false ∨
      ∀ last, pageSize ≤ ordered.length → (ordered.take pageSize).getLast? = some last →
        (last.get keyField).isNone = false) :
    ∃ fuel r t, scanLoop fetchPage onPage keyField pageSize resume maxPages fuel scan s =
      (.ok r, t) := by
  rcases goesOn with bounded | resumed | first
  · exact scanLoop_ends_bounded answers saves columns resume positive bounded scan s
  · exact scanLoop_ends_resumed answers saves columns resume positive resumed s
  by_cases bounded : 0 < maxPages
  · exact scanLoop_ends_bounded answers saves columns resume positive bounded scan s
  by_cases resumed : scan.lastKey.isNone = false
  · exact scanLoop_ends_resumed answers saves columns resume positive resumed s
  have hpage : pageQuery rank keyField ordered scan.lastKey pageSize = ordered.take pageSize := by
    rw [pageQuery, if_pos (by simpa using resumed)]
  by_cases full : pageSize ≤ (pageQuery rank keyField ordered scan.lastKey pageSize).length
  · obtain ⟨last, hlast⟩ := pageQuery_getLast positive full
    obtain ⟨scanned, t, hscanned, -, hturn⟩ := scanLoop_turns answers saves columns resume scan s
      (fun h => bounded h.1) full hlast
    rw [hpage] at full hlast
    have hkey : scanned.lastKey.isNone = false := by
      rw [hscanned]
      exact first last (by rw [List.length_take] at full; omega) hlast
    obtain ⟨fuel, r, u, h⟩ := scanLoop_ends_resumed answers saves columns resume positive hkey t
    exact ⟨fuel + 1, r, u, (hturn fuel).trans h⟩
  · obtain ⟨r, t, h⟩ := scanLoop_stops answers saves columns resume scan s (Or.inr (by omega))
    exact ⟨1, r, t, h 0⟩

/-- A full first page whose last row has no key comes again and again. -/
theorem scanLoop_endless (unbounded : maxPages ≤ 0) {last : Row}
    (full : pageSize ≤ (ordered.take pageSize).length)
    (hlast : (ordered.take pageSize).getLast? = some last)
    (hnull : (last.get keyField).isNone = true) {scan : Scan}
    (start : scan.lastKey.isNone = true) (fuel : Nat) (s : σ) :
    (scanLoop fetchPage onPage keyField pageSize resume maxPages fuel scan s).1 =
      .error .killed := by
  induction fuel generalizing scan s with
  | zero => rfl
  | succ fuel ih =>
    have first : pageQuery rank keyField ordered scan.lastKey pageSize = ordered.take pageSize := by
      rw [pageQuery, if_pos start]
    have within : ¬(0 < maxPages ∧ maxPages ≤ scan.pages) := by omega
    obtain ⟨scanned, t, hkey, -, hturn⟩ := scanLoop_turns answers saves columns resume scan s
      within (by rwa [first]) (by rw [first, hlast])
    rw [hturn]
    exact ih (by rwa [hkey]) t

end Turns

/-! ## The whole scan -/

/-- The scan over a source that answers every page query, and its page queries. -/
def keysetScan {K : Type} [LinearOrder K] (characters : CharTables) (rank : Value → K)
    (keyField : String) (ordered : List Row) (query : String) (pageSize : Int) (resume : Value)
    (maxPages : Int) (fuel : Nat) : Except Raised QueryScanResult × PageLog :=
  executeSourceQueryKeyset characters (answerPage rank keyField ordered) (fun _ => pure ()) query
    keyField pageSize resume maxPages fuel []

theorem normalizedSourceQuery_error {query : String} {e : Raised}
    (h : normalizedSourceQuery query = .error e) : e ≠ .killed := by
  unfold normalizedSourceQuery at h
  dsimp only at h
  split at h <;> cases h
  simp [valueError]

theorem quoteIdentifier_error {characters : CharTables} {identifier : String} {e : Raised}
    (h : quoteIdentifier characters identifier = .error e) : e ≠ .killed := by
  unfold quoteIdentifier at h
  split at h
  · cases h
    simp [valueError]
  · split at h
    · cases h
      simp [valueError]
    · split at h <;> cases h
      simp [valueError]

section Keyset

variable {σ : Type} {characters : CharTables} (fetchPage : Value → Nat → Py σ (List Row))
  (onPage : ScanEvidence → Py σ Unit) {query keyField : String} {pageSize : Int}
  (resume : Value) (maxPages : Int) (fuel : Nat) (s : σ)

/-- A query the code takes is scanned with a bounded page size. -/
theorem executeSourceQueryKeyset_accepted (accepted : Accepted characters query keyField)
    (lower : 1 ≤ pageSize) :
    executeSourceQueryKeyset characters fetchPage onPage query keyField pageSize resume maxPages
      fuel s = scanLoop fetchPage onPage keyField (min pageSize 5000).toNat resume maxPages fuel
        (Scan.start resume) s := by
  obtain ⟨nonempty, ⟨_, hquery⟩, _, hkey⟩ := accepted
  have hsize : boundedSourceScanPageSize pageSize = .ok (min pageSize 5000).toNat :=
    boundedSourceScanPageSize_ok_iff.mpr ⟨lower, rfl⟩
  unfold executeSourceQueryKeyset
  rw [if_neg nonempty, hsize, hquery, hkey]
  rfl

/-- A query it does not take raises before the first page. -/
theorem executeSourceQueryKeyset_rejected (rejected : ¬Accepted characters query keyField)
    (lower : 1 ≤ pageSize) :
    ∃ e, executeSourceQueryKeyset characters fetchPage onPage query keyField pageSize resume maxPages
      fuel s = (.error e, s) ∧ e ≠ .killed := by
  unfold executeSourceQueryKeyset
  by_cases empty : strip query = ""
  · rw [if_pos empty]
    exact ⟨_, rfl, by simp [valueError]⟩
  rw [if_neg empty, boundedSourceScanPageSize_ok_iff.mpr ⟨lower, rfl⟩]
  cases hquery : normalizedSourceQuery query with
  | error e => exact ⟨e, rfl, normalizedSourceQuery_error hquery⟩
  | ok q =>
    cases hkey : quoteIdentifier characters keyField with
    | error e => exact ⟨e, rfl, quoteIdentifier_error hkey⟩
    | ok k => exact absurd ⟨empty, ⟨q, hquery⟩, k, hkey⟩ rejected

end Keyset

/-- A scan that is not resumed starts from no key. -/
theorem start_isNone (resume : Value) : (Scan.start resume).lastKey.isNone = !resume.truthy := by
  unfold Scan.start
  by_cases truthy : resume.truthy = true
  · rw [if_pos truthy, truthy]
    cases resume <;> first | rfl | cases truthy
  · rw [if_neg truthy]
    simp [truthy, Value.isNone]

theorem getLast?_take {α : Type} {l : List α} {n : Nat} (positive : 0 < n) (full : n ≤ l.length) :
    (l.take n).getLast? = some l[n - 1] := by
  rw [List.getLast?_eq_getElem?, List.length_take, Nat.min_eq_left full,
    List.getElem?_take_of_lt (by omega), List.getElem?_eq_getElem (by omega)]

/-- The scan ends, unless it has no bound on its pages, starts at the first key
and finds a full first page that the rows with a key do not fill. -/
theorem keyset_scan_ends_iff {K : Type} [LinearOrder K] (characters : CharTables)
    (rank : Value → K) {keyField : String} {ordered : List Row}
    (sorted : NullsLast rank keyField ordered)
    (columns : ∀ row ∈ ordered, row.has keyField = true) (query : String) {pageSize : Int}
    (lower : 1 ≤ pageSize) (upper : pageSize ≤ 5000) (resume : Value) (maxPages : Int) :
    (∃ fuel, (keysetScan characters rank keyField ordered query pageSize resume maxPages fuel).1 ≠
        .error .killed) ↔
      ¬(Accepted characters query keyField ∧ maxPages ≤ 0 ∧ resume.truthy = false ∧
        ((keyedRows keyField ordered).length : Int) < pageSize ∧ pageSize ≤ ordered.length) := by
  unfold keysetScan
  by_cases accepted : Accepted characters query keyField
  case neg =>
    obtain ⟨e, he, alive⟩ := executeSourceQueryKeyset_rejected (answerPage rank keyField ordered)
      (fun _ => pure ()) resume maxPages 0 [] accepted lower
    refine iff_of_true ⟨0, ?_⟩ (fun h => accepted h.1)
    rw [he]
    simpa using alive
  simp only [executeSourceQueryKeyset_accepted _ _ _ _ _ _ accepted lower, min_eq_left upper,
    accepted, true_and]
  have positive : 0 < pageSize.toNat := by omega
  have answers : Answers rank keyField ordered pageSize.toNat (answerPage rank keyField ordered) :=
    fun _ _ => ⟨_, rfl⟩
  have saves : ∀ (e : ScanEvidence) (log : PageLog), ∃ t, (pure () : Py PageLog Unit) log =
      (.ok (), t) := fun _ log => ⟨log, rfl⟩
  by_cases endless : maxPages ≤ 0 ∧ resume.truthy = false ∧
      ((keyedRows keyField ordered).length : Int) < pageSize ∧ pageSize ≤ ordered.length
  · obtain ⟨unbounded, falsy, few, many⟩ := endless
    refine iff_of_false ?_ (fun h => h ⟨unbounded, falsy, few, many⟩)
    rintro ⟨fuel, alive⟩
    have full : pageSize.toNat ≤ ordered.length := by omega
    exact alive (scanLoop_endless answers saves columns resume unbounded
      (by rw [List.length_take]; omega) (getLast?_take positive full)
      ((firstPage_ends_in_null_iff sorted positive full).mpr (by omega))
      (by rw [start_isNone, falsy]; rfl) fuel [])
  · refine iff_of_true ?_ endless
    obtain ⟨fuel, r, t, h⟩ : ∃ fuel r t, scanLoop (answerPage rank keyField ordered)
        (fun _ => pure ()) keyField pageSize.toNat resume maxPages fuel (Scan.start resume) [] =
          (.ok r, t) := by
      apply scanLoop_ends answers saves columns resume positive
      by_cases bounded : 0 < maxPages
      · exact Or.inl bounded
      by_cases resumed : resume.truthy = true
      · exact Or.inr (Or.inl (by rw [start_isNone, resumed]; rfl))
      refine Or.inr (Or.inr fun last full hlast => ?_)
      rw [getLast?_take positive full] at hlast
      cases hlast
      by_contra hnull
      have few := (firstPage_ends_in_null_iff sorted positive full).mp (by simpa using hnull)
      exact endless ⟨by omega, by simpa using resumed, by omega, by omega⟩
    exact ⟨fuel, by rw [h]; simp⟩

/-! One row whose key is null: a page of one row is full, and the next page
query is the first one again. -/

def nullKey : List Row := [[("id", .null)]]

theorem nullKey_scan_never_ends :
    NullsLast intRank "id" nullKey ∧ (∀ row ∈ nullKey, row.has "id" = true) ∧
      ∀ fuel, (keysetScan .ascii intRank "id" nullKey "select * from totals" 1 .null 0 fuel).1 =
        .error .killed := by
  have columns : ∀ row ∈ nullKey, row.has "id" = true := by simp [nullKey, Row.has]
  refine ⟨by simp [NullsLast, nullKey], columns, fun fuel => ?_⟩
  rw [keysetScan, executeSourceQueryKeyset_accepted _ _ _ _ _ _ totals_accepted le_rfl]
  exact scanLoop_endless (fun _ _ => ⟨_, rfl⟩) (fun _ log => ⟨log, rfl⟩) columns .null le_rfl
    (by decide) rfl rfl rfl fuel []

theorem keyset_scan_ends_nullKey :
    (∃ fuel, (keysetScan .ascii intRank "id" nullKey "select * from totals" 2 .null 0 fuel).1 ≠
        .error .killed) ↔
      ¬(Accepted .ascii "select * from totals" "id" ∧ (0 : Int) ≤ 0 ∧ Value.null.truthy = false ∧
        ((keyedRows "id" nullKey).length : Int) < 2 ∧ (2 : Int) ≤ nullKey.length) :=
  keyset_scan_ends_iff .ascii intRank (by simp [NullsLast, nullKey]) (by simp [nullKey, Row.has])
    "select * from totals" (by decide) (by decide) .null 0

end KubeDataGuard
