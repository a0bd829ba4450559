import Mathlib.Data.List.Count
import KubeDataGuard.Worker.Compare

/-!
# The order of the rows

Of the target rows under one key a query comparison sees the last. Its verdict
is the same for every order of the rows exactly when it does not matter which
of these rows that is: each has as many source rows that differ from it.
-/

namespace KubeDataGuard

/-- The record an entry names, none for a row without a key. -/
def recordId (entry : Json) : Option String :=
  match entry.get "order_id" with
  | .str id => some id
  | _ => none

section Verdict

variable (invariantName : String) (sourceRows targetRows : List Row) (keyField : String)
  (compareFields : List String) (guarantee : String) (sourceScan : Json) (checkStatus : CheckStatus)
  (ev : Evidence)

/-- Two reports with one verdict: status, drift count and the records, in any order. -/
structure SameVerdict (r r' : DriftReport) : Prop where
  status : r'.status = r.status
  driftCount : r'.driftCount = r.driftCount
  missing : (r'.missing.map recordId).Perm (r.missing.map recordId)
  stale : (r'.stale.map recordId).Perm (r.stale.map recordId)

/-- Every order of the rows has the verdict of this one. -/
def OrderIndependent : Prop :=
  ∀ sourceRows' targetRows', List.Perm sourceRows' sourceRows → List.Perm targetRows' targetRows →
    SameVerdict
      (compareQueryResults invariantName sourceRows targetRows keyField compareFields guarantee
        sourceScan checkStatus ev)
      (compareQueryResults invariantName sourceRows' targetRows' keyField compareFields guarantee
        sourceScan checkStatus ev)

/-- The source rows with a key that differ from a target row. -/
def mismatchCount (key : String) (target : Row) : Nat :=
  sourceRows.countP fun source => comparableValue (source.get keyField) == some key &&
    !(compareNamedFields source target compareFields).isEmpty

end Verdict

/-! ## Entries -/

section Entries

variable {keyField : String} {compareFields : List String} {targetRows targetRows' : List Row}

theorem comparableValue_key {value : Value} :
    comparableValue value = if value.isNone then none else some value.text := by
  cases value <;> rfl

theorem targetByKey_some {key : String} {row : Row}
    (found : targetByKey targetRows keyField key = some row) :
    row ∈ targetRows ∧ comparableValue (row.get keyField) = some key := by
  refine ⟨List.mem_reverse.mp (List.mem_of_find?_eq_some found), ?_⟩
  simpa using List.find?_some found

theorem targetByKey_isSome {key : String} : (targetByKey targetRows keyField key).isSome = true ↔
    ∃ row ∈ targetRows, comparableValue (row.get keyField) = some key := by
  simp [targetByKey, List.find?_isSome]

/-- A target row under a key is the one found in some order of the rows. -/
theorem exists_targetByKey {key : String} {row : Row} (hr : row ∈ targetRows)
    (keyed : comparableValue (row.get keyField) = some key) :
    ∃ ordered, ordered.Perm targetRows ∧ targetByKey ordered keyField key = some row := by
  obtain ⟨before, after, rfl⟩ := List.append_of_mem hr
  refine ⟨before ++ after ++ [row], ?_, ?_⟩
  · rw [List.append_assoc]
    have last : (after ++ [row]).Perm (row :: after) := List.perm_append_comm
    exact last.append_left before
  · simp [targetByKey, keyed]

theorem targetByKey_perm (perm : targetRows'.Perm targetRows) (keyField key : String) :
    (targetByKey targetRows' keyField key).isSome = (targetByKey targetRows keyField key).isSome := by
  rw [Bool.eq_iff_iff, targetByKey_isSome, targetByKey_isSome]
  simp only [perm.mem_iff]

/-- A row that is missing is so whichever of the target rows is found. -/
theorem queryMissing_id (source : Row) (found : Option Row) :
    (queryMissing keyField source found).map recordId =
      (comparableValue (source.get keyField)).bind fun key =>
        if found.isSome then none else some (some key) := by
  rw [comparableValue_key]
  unfold queryMissing
  cases found <;> split <;> rfl

/-- The record a source row is stale as: none named without a key, its key where it
differs from the row found. -/
def staleId (targetRows : List Row) (keyField : String) (compareFields : List String)
    (source : Row) : Option (Option String) :=
  match comparableValue (source.get keyField) with
  | none => some none
  | some key => (targetByKey targetRows keyField key).bind fun target =>
    if (compareNamedFields source target compareFields).isEmpty then none else some (some key)

theorem queryStale_id (source : Row) :
    (queryStale keyField compareFields source
      (targetByKey targetRows keyField (source.get keyField).text)).map recordId =
      staleId targetRows keyField compareFields source := by
  rw [staleId, comparableValue_key]
  unfold queryStale
  split
  · rfl
  · dsimp only
    cases targetByKey targetRows keyField (source.get keyField).text with
    | none => rfl
    | some target =>
      simp only [Option.bind_some]
      split <;> rfl

theorem staleId_none_iff {source : Row} : staleId targetRows keyField compareFields source =
    some none ↔ (comparableValue (source.get keyField)).isNone = true := by
  unfold staleId
  cases comparableValue (source.get keyField) with
  | none => simp
  | some key =>
    dsimp only
    cases targetByKey targetRows keyField key with
    | none => simp
    | some target =>
      simp only [Option.bind_some]
      split <;> simp

theorem staleId_some_iff {source : Row} {key : String} :
    staleId targetRows keyField compareFields source = some (some key) ↔
      comparableValue (source.get keyField) = some key ∧
        ∃ target, targetByKey targetRows keyField key = some target ∧
          (compareNamedFields source target compareFields).isEmpty = false := by
  unfold staleId
  cases comparableValue (source.get keyField) with
  | none => simp
  | some k =>
    dsimp only
    by_cases same : k = key
    · subst same
      cases targetByKey targetRows keyField k with
      | none => simp
      | some target =>
        simp only [Option.bind_some, Option.some.injEq, true_and, exists_eq_left']
        split <;> simp_all
    · cases targetByKey targetRows keyField k with
      | none => simp [same]
      | some target =>
        simp only [Option.bind_some]
        split <;> simp [same]

end Entries

/-! ## Reports -/

section Reports

variable {invariantName : String} {sourceRows sourceRows' targetRows targetRows' : List Row}
  {keyField : String} {compareFields : List String} {guarantee : String} {sourceScan : Json}
  {checkStatus : CheckStatus} {ev : Evidence}

theorem missing_ids_perm (source : sourceRows'.Perm sourceRows) (target : targetRows'.Perm targetRows) :
    List.Perm ((compareQueryResults invariantName sourceRows' targetRows' keyField compareFields
        guarantee sourceScan checkStatus ev).missing.map recordId)
      ((compareQueryResults invariantName sourceRows targetRows keyField compareFields guarantee
        sourceScan checkStatus ev).missing.map recordId) := by
  rw [queryResults_missing, queryResults_missing, List.map_filterMap, List.map_filterMap]
  simp only [queryMissing_id, targetByKey_perm target]
  exact source.filterMap _

theorem stale_ids : (compareQueryResults invariantName sourceRows targetRows keyField compareFields
    guarantee sourceScan checkStatus ev).stale.map recordId =
      sourceRows.filterMap (staleId targetRows keyField compareFields) := by
  rw [queryResults_stale, List.map_filterMap]
  exact List.filterMap_congr fun source _ => queryStale_id source

/-- The stale entries of a key are the source rows that differ from the row found. -/
theorem stale_count (key : String) :
    (sourceRows.filterMap (staleId targetRows keyField compareFields)).count (some key) =
      match targetByKey targetRows keyField key with
      | none => 0
      | some target => mismatchCount sourceRows keyField compareFields key target := by
  rw [List.count_filterMap]
  cases found : targetByKey targetRows keyField key with
  | none =>
    apply List.countP_eq_zero.mpr
    intro source _
    simp [staleId_some_iff, found]
  | some target =>
    apply List.countP_congr
    intro source _
    simp [staleId_some_iff, found]

theorem stale_count_null :
    (sourceRows.filterMap (staleId targetRows keyField compareFields)).count none =
      sourceRows.countP fun source => (comparableValue (source.get keyField)).isNone := by
  rw [List.count_filterMap]
  apply List.countP_congr
  intro source _
  rw [beq_iff_eq, staleId_none_iff]

theorem mismatchCount_perm (source : sourceRows'.Perm sourceRows) (key : String) (target : Row) :
    mismatchCount sourceRows' keyField compareFields key target =
      mismatchCount sourceRows keyField compareFields key target :=
  source.countP_eq _

/-- Where it does not matter which row is found, the stale records are the same. -/
theorem stale_perm (source : sourceRows'.Perm sourceRows) (target : targetRows'.Perm targetRows)
    (same : ∀ key, ∀ found ∈ targetRows, ∀ other ∈ targetRows,
      comparableValue (found.get keyField) = some key →
      comparableValue (other.get keyField) = some key →
      mismatchCount sourceRows keyField compareFields key found =
        mismatchCount sourceRows keyField compareFields key other) :
    (sourceRows'.filterMap (staleId targetRows' keyField compareFields)).Perm
      (sourceRows.filterMap (staleId targetRows keyField compareFields)) := by
  rw [List.perm_iff_count]
  intro id
  cases id with
  | none => rw [stale_count_null, stale_count_null, source.countP_eq]
  | some key =>
    have present := targetByKey_perm target keyField key
    rw [stale_count, stale_count]
    cases found : targetByKey targetRows keyField key with
    | none =>
      rw [found, Option.isSome_none, Option.isSome_eq_false_iff, Option.isNone_iff_eq_none] at present
      rw [present]
    | some row =>
      rw [found, Option.isSome_some] at present
      obtain ⟨row', found'⟩ := Option.isSome_iff_exists.mp present
      obtain ⟨mem, keyed⟩ := targetByKey_some found
      obtain ⟨mem', keyed'⟩ := targetByKey_some found'
      rw [found']
      simp only
      rw [mismatchCount_perm source, same key row' (target.mem_iff.mp mem') row mem keyed' keyed]

variable (invariantName sourceRows targetRows keyField compareFields guarantee sourceScan checkStatus
  ev) in
/-- The verdict is the same for all orders of the rows exactly when the target rows
under one key each have as many source rows that differ from them. -/
theorem order_independent_iff :
    OrderIndependent invariantName sourceRows targetRows keyField compareFields guarantee sourceScan
        checkStatus ev ↔
      ∀ key, ∀ target ∈ targetRows, ∀ other ∈ targetRows,
        comparableValue (target.get keyField) = some key →
        comparableValue (other.get keyField) = some key →
        mismatchCount sourceRows keyField compareFields key target =
          mismatchCount sourceRows keyField compareFields key other := by
  constructor
  · intro independent key
    have listed : ∀ target ∈ targetRows, comparableValue (target.get keyField) = some key →
        mismatchCount sourceRows keyField compareFields key target =
          (sourceRows.filterMap (staleId targetRows keyField compareFields)).count (some key) := by
      intro target ht keyed
      obtain ⟨ordered, perm, found⟩ := exists_targetByKey ht keyed
      have stale := (independent sourceRows ordered (List.Perm.refl _) perm).stale
      rw [stale_ids, stale_ids] at stale
      rw [← stale.count_eq, stale_count, found]
    intro target ht other ho keyed keyed'
    rw [listed target ht keyed, listed other ho keyed']
  · intro same sourceRows' targetRows' source target
    have missing : List.Perm ((compareQueryResults invariantName sourceRows' targetRows' keyField
        compareFields guarantee sourceScan checkStatus ev).missing.map recordId)
        ((compareQueryResults invariantName sourceRows targetRows keyField compareFields guarantee
          sourceScan checkStatus ev).missing.map recordId) := missing_ids_perm source target
    have stale : List.Perm ((compareQueryResults invariantName sourceRows' targetRows' keyField
        compareFields guarantee sourceScan checkStatus ev).stale.map recordId)
        ((compareQueryResults invariantName sourceRows targetRows keyField compareFields guarantee
          sourceScan checkStatus ev).stale.map recordId) := by
      rw [stale_ids, stale_ids]
      exact stale_perm source target same
    have drift : (compareQueryResults invariantName sourceRows' targetRows' keyField compareFields
        guarantee sourceScan checkStatus ev).driftCount = (compareQueryResults invariantName sourceRows
          targetRows keyField compareFields guarantee sourceScan checkStatus ev).driftCount := by
      have missingLength := missing.length_eq
      have staleLength := stale.length_eq
      rw [List.length_map, List.length_map] at missingLength staleLength
      unfold DriftReport.driftCount
      rw [missingLength, staleLength]
      rfl
    refine ⟨?_, drift, missing, stale⟩
    unfold DriftReport.status
    rw [drift]
    rfl

end Reports

/-! An order indexed twice, once with its amount and once with another. -/

def amountRow (amount : Int) : Row := [("id", .str "4b0f"), ("amount_cents", .int amount)]

def rowsEvidence : Evidence where
  maxLagSeconds := 60
  checkedAt := 0
  targetReadAt := 0
  streamTopic := none
  streamOffsetStart := none
  streamOffsetEnd := none
  sourceLsn := none
  cdcFrontier := .null

theorem duplicate_row_order_decides : ¬OrderIndependent "orders" [amountRow 1000]
    [amountRow 1000, amountRow 900] "id" ["amount_cents"] "existence+fieldEquality" .null .complete
    rowsEvidence := by
  intro independent
  have swapped : [amountRow 900, amountRow 1000].Perm [amountRow 1000, amountRow 900] :=
    List.Perm.swap _ _ _
  exact absurd (independent _ _ (List.Perm.refl _) swapped).status (by decide +kernel)

end KubeDataGuard
