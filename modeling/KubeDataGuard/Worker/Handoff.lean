import KubeDataGuard.Worker.Candidates

/-!
# From the check to the repair

A repair reads a report back from what was published of it: the ids, the reasons
and the mismatches of the entries. It collects the ids of all of them exactly
when each entry names its record and what is published has a JSON form.
-/

namespace KubeDataGuard

/-- `json.loads(json.dumps(value))` -/
def jsonRoundTrip (value : Json) : Except Raised Json :=
  if value.dumps then .ok value else .error notSerializable

/-- The candidates a repair finds in what was published of a report. -/
def handedOver (report : DriftReport) : Except Raised (List (Option String)) := do
  let payload ← jsonRoundTrip (repairInput report.toDict)
  repairOrderIds payload

theorem handedOver_ok {report : DriftReport} {ids : List (Option String)}
    (handed : handedOver report = .ok ids) : repairOrderIds (repairInput report.toDict) = .ok ids := by
  unfold handedOver jsonRoundTrip at handed
  split at handed
  · exact handed
  · cases handed

def candidateEntries (report : DriftReport) : List Json :=
  report.missing ++ report.stale ++ report.freshnessViolations

/-- The repair gets the ids that occur in the report, each once and in order. -/
def HandsOver (report : DriftReport) : Prop :=
  ∃ ids : List String, handedOver report = .ok (ids.map some) ∧ ids.Pairwise (· < ·) ∧
    ∀ id, id ∈ ids ↔ ∃ entry ∈ candidateEntries report, entry.get "order_id" = .str id

/-! ## What is kept of an entry -/

/-- The entry `candidate_items` makes of an item. -/
def keptEntry : Json → Option Json
  | .obj members => some (.obj (members.filter fun e => decide (e.1 ∈ candidateKeys)))
  | _ => none

theorem candidateItems_arr (items : List Json) :
    candidateItems (.arr items) = .arr (items.filterMap keptEntry) := rfl

theorem lookup_filter {members : Fields} {keys : List String} {key : String} (kept : key ∈ keys) :
    Fields.get? (members.filter fun e => decide (e.1 ∈ keys)) key = Fields.get? members key := by
  induction members with
  | nil => rfl
  | cons e members ih =>
    obtain ⟨k, v⟩ := e
    rw [Fields.get?_cons]
    by_cases he : k ∈ keys
    · rw [List.filter_cons_of_pos (by simpa using he), Fields.get?_cons, ih]
    · have other : key ≠ k := fun h => he (h ▸ kept)
      rw [List.filter_cons_of_neg (by simpa using he), ih, if_neg other]

theorem orderId_kept {item kept : Json} (h : keptEntry item = some kept) :
    orderId kept = orderId item := by
  cases item with
  | obj members =>
    cases h
    simp only [orderId, lookup_filter (show "order_id" ∈ candidateKeys by decide)]
  | _ => cases h

/-- An entry that has an `order_id`, a text or `None`. -/
def Entry (item : Json) : Prop := ∃ name, orderId item = .ok name

theorem kept_of_entry {item : Json} (entry : Entry item) : ∃ kept, keptEntry item = some kept := by
  obtain ⟨name, hname⟩ := entry
  cases item with
  | obj members => exact ⟨_, rfl⟩
  | _ => cases hname

/-- What is kept of entries gives the candidates the entries give. -/
theorem candidateOrderIds_kept {items : List Json} (entries : ∀ item ∈ items, Entry item) :
    candidateOrderIds (items.filterMap keptEntry) = candidateOrderIds items := by
  have ids : (items.filterMap keptEntry).mapM orderId = items.mapM orderId := by
    induction items with
    | nil => rfl
    | cons item items ih =>
      obtain ⟨kept, hkept⟩ := kept_of_entry (entries item List.mem_cons_self)
      rw [List.filterMap_cons_some hkept, List.mapM_cons, List.mapM_cons, orderId_kept hkept,
        ih fun other ho => entries other (List.mem_cons_of_mem item ho)]
  unfold candidateOrderIds
  rw [ids]

section Report

variable {report : DriftReport}

theorem reportItems_repairInput (report : DriftReport) :
    reportItems (repairInput report.toDict) "missing" = report.missing.filterMap keptEntry ∧
      reportItems (repairInput report.toDict) "stale" = report.stale.filterMap keptEntry ∧
      reportItems (repairInput report.toDict) "freshness_violations" =
        report.freshnessViolations.filterMap keptEntry := ⟨rfl, rfl, rfl⟩

theorem repairOrderIds_report (entries : ∀ item ∈ candidateEntries report, Entry item) :
    repairOrderIds (repairInput report.toDict) = candidateOrderIds (candidateEntries report) := by
  obtain ⟨missing, stale, freshness⟩ := reportItems_repairInput report
  rw [repairOrderIds_eq, missing, stale, freshness, ← candidateOrderIds_kept entries,
    candidateEntries, List.filterMap_append, List.filterMap_append]

/-- What is published has a JSON form where what is kept of the entries has. -/
theorem repairInput_dumps : (repairInput report.toDict).dumps =
    (dumpsItems (report.missing.filterMap keptEntry) &&
      (dumpsItems (report.stale.filterMap keptEntry) &&
        (dumpsItems (report.freshnessViolations.filterMap keptEntry) &&
          dumpsItems report.aggregateMismatches))) := by
  simp [repairInput, DriftReport.toDict, Fields.get?_cons, Json.dumps, dumpsMembers,
    candidateItems_arr]

/-- A candidate without a name leaves no list of names. -/
theorem candidateOrderIds_unnamed {items : List Json} (entries : ∀ item ∈ items, Entry item)
    {item : Json} (hi : item ∈ items) (unnamed : orderId item = .ok none) (ids : List String) :
    candidateOrderIds items ≠ .ok (ids.map some) := by
  have read : items.mapM orderId = .ok (items.map fun item => (orderId item).toOption.join) := by
    apply mapM_ok
    intro other ho
    obtain ⟨name, hname⟩ := entries other ho
    rw [hname]
    rfl
  have noName : none ∈ (items.map fun item => (orderId item).toOption.join).dedup := by
    rw [List.mem_dedup, List.mem_map]
    exact ⟨item, hi, by rw [unnamed]; rfl⟩
  unfold candidateOrderIds
  rw [read]
  simp only [bind, Except.bind]
  by_cases alone : (items.map fun item => (orderId item).toOption.join).dedup = [none]
  · rw [if_neg (fun h => h.2 alone), if_pos alone]
    intro same
    have members := congrArg (none ∈ ·) (Except.ok.inj same)
    simp at members
  · rw [if_pos ⟨noName, alone⟩]
    exact nofun

/-- The hand-over of a report whose entries have an `order_id`. -/
theorem handsOver_iff (entries : ∀ item ∈ candidateEntries report, Entry item) :
    HandsOver report ↔ (∀ item ∈ candidateEntries report, orderId item ≠ .ok none) ∧
      (repairInput report.toDict).dumps = true := by
  constructor
  · rintro ⟨ids, run, -, -⟩
    unfold handedOver jsonRoundTrip at run
    by_cases dumps : (repairInput report.toDict).dumps = true
    · rw [if_pos dumps] at run
      refine ⟨?_, dumps⟩
      intro item hi unnamed
      refine candidateOrderIds_unnamed entries hi unnamed ids ?_
      rw [← repairOrderIds_report entries]
      exact run
    · rw [if_neg dumps] at run
      cases run
  · rintro ⟨named, dumps⟩
    have texts : ∀ item ∈ candidateEntries report, ∃ id, item.get "order_id" = .str id := by
      intro item hi
      obtain ⟨name, hname⟩ := entries item hi
      cases name with
      | none => exact absurd hname (named item hi)
      | some id => exact ⟨id, orderId_text_iff.mp hname⟩
    obtain ⟨ids, run, sorted, mem⟩ := candidateOrderIds_named texts
    refine ⟨ids, ?_, sorted, mem⟩
    unfold handedOver jsonRoundTrip
    rw [if_pos dumps]
    exact (repairOrderIds_report entries).trans run

end Report

/-! ## The comparisons -/

/-- What is kept of an entry has a JSON form. -/
def Plain (entry : Json) : Prop := ∀ kept, keptEntry entry = some kept → kept.dumps = true

theorem Plain.of_kept {entry kept : Json} (h : keptEntry entry = some kept)
    (dumps : kept.dumps = true) : Plain entry := by
  intro kept' h'
  rw [h] at h'
  cases h'
  exact dumps

theorem dumpsItems_iff {items : List Json} :
    dumpsItems items = true ↔ ∀ item ∈ items, item.dumps = true := by
  induction items with
  | nil => simp [dumpsItems]
  | cons item items ih => simp [dumpsItems, ih]

theorem dumpsMembers_iff {members : Fields} :
    (Json.obj members).dumps = true ↔ ∀ e ∈ members, e.2.dumps = true := by
  rw [Json.dumps]
  induction members with
  | nil => simp [dumpsMembers]
  | cons e members ih => simp [dumpsMembers, ih]

/-- What a value has a JSON form of, its members have one of. -/
theorem dumps_get {value : Json} (dumps : value.dumps = true) (key : String) :
    (value.get key).dumps = true := by
  cases value with
  | obj members =>
    cases found : Fields.get? members key with
    | none => simp [Json.get, found, Json.dumps]
    | some member =>
      simp only [Json.get, found, Option.getD_some]
      obtain ⟨before, after, rfl, -⟩ := List.lookup_eq_some_iff.mp found
      exact dumpsMembers_iff.mp dumps (key, member) (List.mem_append_right before List.mem_cons_self)
  | _ => rfl

theorem dumpsItems_kept {items : List Json} :
    dumpsItems (items.filterMap keptEntry) = true ↔ ∀ item ∈ items, Plain item := by
  rw [dumpsItems_iff]
  constructor
  · intro all item hi kept hkept
    exact all kept (List.mem_filterMap.mpr ⟨item, hi, hkept⟩)
  · intro all kept hkept
    obtain ⟨item, hi, hkept⟩ := List.mem_filterMap.mp hkept
    exact all item hi kept hkept

theorem repairInput_dumps_iff {report : DriftReport} : (repairInput report.toDict).dumps = true ↔
    (∀ entry ∈ candidateEntries report, Plain entry) ∧
      dumpsItems report.aggregateMismatches = true := by
  simp only [repairInput_dumps, Bool.and_eq_true, dumpsItems_kept, candidateEntries, List.mem_append]
  constructor
  · rintro ⟨missing, stale, freshness, aggregates⟩
    refine ⟨?_, aggregates⟩
    rintro entry ((he | he) | he)
    · exact missing entry he
    · exact stale entry he
    · exact freshness entry he
  · rintro ⟨plain, aggregates⟩
    exact ⟨fun e he => plain e (Or.inl (Or.inl he)), fun e he => plain e (Or.inl (Or.inr he)),
      fun e he => plain e (Or.inr he), aggregates⟩

theorem dumps_scalarJson (value : Option Scalar) : (scalarJson value).dumps = true := by
  cases value with
  | none => rfl
  | some s => cases s <;> rfl

theorem dumps_fieldMismatch (field : String) (source target : Json) :
    (fieldMismatch field source target).dumps = (source.dumps && target.dumps) := by
  simp [fieldMismatch, Json.dumps, dumpsMembers]

theorem dumps_orderFields (source target : String → Option Scalar) :
    dumpsItems (compareOrderFields source target) = true := by
  rw [dumpsItems_iff]
  intro item hi
  obtain ⟨field, -, made⟩ := List.mem_filterMap.mp hi
  split at made <;> cases made
  rw [dumps_fieldMismatch, dumps_scalarJson, dumps_scalarJson]
  rfl

/-- A report whose entries name their records is handed over as far as it is plain. -/
theorem handsOver_named {report : DriftReport}
    (named : ∀ entry ∈ candidateEntries report, ∃ id, entry.get "order_id" = .str id) :
    HandsOver report ↔ (repairInput report.toDict).dumps = true := by
  rw [handsOver_iff fun entry he => (named entry he).elim fun id hid =>
    ⟨some id, orderId_text_iff.mpr hid⟩]
  constructor
  · exact fun h => h.2
  · intro dumps
    refine ⟨?_, dumps⟩
    intro entry he unnamed
    obtain ⟨id, hid⟩ := named entry he
    rw [orderId_text_iff.mpr hid] at unnamed
    cases unnamed

section Orders

variable {missing stale : Order → Option Document → Option Json} {report : DriftReport}

/-- Reports of orders and documents are handed over. -/
theorem handsOver_orders (entries : DriftEntries missing stale)
    (missingPlain : ∀ o d e, missing o d = some e → Plain e)
    (stalePlain : ∀ o d e, stale o d = some e → Plain e) {rows : List Order}
    (found : String → Option Document)
    (hmissing : report.missing = rows.filterMap fun o => missing o (found o.id))
    (hstale : report.stale = rows.filterMap fun o => stale o (found o.id))
    (noFreshness : report.freshnessViolations = [])
    (aggregates : dumpsItems report.aggregateMismatches = true) : HandsOver report := by
  have all : candidateEntries report = rows.filterMap (fun o => missing o (found o.id)) ++
      rows.filterMap (fun o => stale o (found o.id)) := by
    rw [candidateEntries, hmissing, hstale, noFreshness, List.append_nil]
  rw [handsOver_named, repairInput_dumps_iff, all]
  · refine ⟨?_, aggregates⟩
    intro e he
    rcases List.mem_append.mp he with he | he
    · obtain ⟨o, -, made⟩ := List.mem_filterMap.mp he
      exact missingPlain _ _ e made
    · obtain ⟨o, -, made⟩ := List.mem_filterMap.mp he
      exact stalePlain _ _ e made
  · intro e he
    rw [all] at he
    obtain ⟨o, -, -, hid⟩ := (entries.named rows found).1 e he
    exact ⟨o.id, hid⟩

theorem plain_indexMissing (o : Order) (d : Option Document) (e : Json)
    (made : indexMissing o d = some e) : Plain e := by
  cases d <;> cases made
  exact .of_kept rfl rfl

theorem plain_bucketMissing (prefixLength : Int) (o : Order) (d : Option Document) (e : Json)
    (made : bucketMissing prefixLength o d = some e) : Plain e := by
  cases d <;> cases made
  exact .of_kept rfl rfl

theorem plain_indexStale (o : Order) (d : Option Document) (e : Json)
    (made : indexStale o d = some e) : Plain e := by
  cases d with
  | none => cases made
  | some d =>
    rw [indexStale] at made
    split at made <;> cases made
    apply Plain.of_kept rfl
    simp [candidateKeys, Json.dumps, dumpsMembers, dumps_orderFields]

theorem plain_bucketStale (prefixLength : Int) (o : Order) (d : Option Document) (e : Json)
    (made : bucketStale prefixLength o d = some e) : Plain e := by
  cases d with
  | none => cases made
  | some d =>
    rw [bucketStale] at made
    split at made <;> cases made
    apply Plain.of_kept rfl
    simp [candidateKeys, Json.dumps, dumpsMembers, dumps_orderFields]

end Orders

theorem handsOver_ordersToIndex (sourceOrders : List Order)
    (indexedOrders : String → Option Document) (ev : Evidence) :
    HandsOver (comparePaidOrdersToIndex sourceOrders indexedOrders ev) :=
  handsOver_orders indexEntries plain_indexMissing plain_indexStale indexedOrders ordersToIndex_missing
    ordersToIndex_stale rfl rfl

theorem dumps_summary (s : Summary) : s.toJson.dumps = true := by
  cases h : s.sourceWatermark <;>
    simp [Summary.toJson, Json.dumps, dumpsMembers, optionalText, h]

theorem handsOver_checksumBuckets (sourceBuckets targetBuckets : List Bucket)
    (sourceRows : List Order) (targetRows : List Document) (prefixLength : Int) (ev : Evidence) :
    HandsOver (comparePaidOrderChecksumBuckets sourceBuckets targetBuckets sourceRows targetRows
      prefixLength ev) := by
  refine handsOver_orders (bucketEntries prefixLength) (plain_bucketMissing prefixLength)
    (plain_bucketStale prefixLength) (fun id => targetRows.reverse.find? fun d => d.id == some id)
    checksumBuckets_missing checksumBuckets_stale rfl ?_
  rw [dumpsItems_iff]
  intro item hi
  obtain ⟨m, -, rfl⟩ := List.mem_map.mp hi
  simp [Json.dumps, dumpsMembers, dumps_summary]

theorem freshnessItem_entry (o : Order) (reason : String) (indexedAt : Option String)
    (lag : Option Int) (ev : Evidence) :
    (freshnessItem o reason indexedAt lag ev).get "order_id" = .str o.id ∧
      Plain (freshnessItem o reason indexedAt lag ev) :=
  ⟨rfl, .of_kept rfl rfl⟩

theorem freshnessViolation_entry {o : Order} {d : Option Document} {ev : Evidence} {e : Json}
    (made : freshnessViolation ev o d = some e) : e.get "order_id" = .str o.id ∧ Plain e := by
  unfold freshnessViolation at made
  split at made
  · cases made
    exact freshnessItem_entry ..
  · split at made
    · cases made
      exact freshnessItem_entry ..
    · split at made
      · cases made
        exact freshnessItem_entry ..
      · cases made

theorem handsOver_freshness (sourceOrders : List Order) (indexedOrders : String → Option Document)
    (invariantName guarantee : String) (ev : Evidence) :
    HandsOver (comparePaidOrderFreshness sourceOrders indexedOrders invariantName guarantee ev) := by
  have violations : ∀ e ∈ candidateEntries
      (comparePaidOrderFreshness sourceOrders indexedOrders invariantName guarantee ev),
      (∃ id, e.get "order_id" = .str id) ∧ Plain e := by
    intro e he
    obtain ⟨o, -, made⟩ := List.mem_filterMap.mp he
    obtain ⟨hid, plain⟩ := freshnessViolation_entry made
    exact ⟨⟨o.id, hid⟩, plain⟩
  rw [handsOver_named fun e he => (violations e he).1, repairInput_dumps_iff]
  exact ⟨fun e he => (violations e he).2, rfl⟩

/-! ### Query results -/

section Query

variable (sourceRows targetRows : List Row) (keyField : String) (compareFields : List String)

/-- Every source row has a key, and where a source row differs from the target row
under its key the two values have a JSON form. -/
structure PlainRows : Prop where
  keyed : ∀ row ∈ sourceRows, (row.get keyField).isNone = false
  plain : ∀ row ∈ sourceRows, ∀ found,
    targetByKey targetRows keyField (row.get keyField).text = some found →
    ∀ field ∈ compareFields,
      comparableValue (row.get field) ≠ comparableValue (found.get field) →
      (row.get field).toJson.dumps = true ∧ (found.get field).toJson.dumps = true

variable {sourceRows targetRows keyField compareFields}

theorem dumps_namedFields (source found : Row) :
    dumpsItems (compareNamedFields source found compareFields) = true ↔
      ∀ field ∈ compareFields, comparableValue (source.get field) ≠ comparableValue (found.get field) →
        (source.get field).toJson.dumps = true ∧ (found.get field).toJson.dumps = true := by
  rw [dumpsItems_iff, compareNamedFields]
  simp only [List.mem_filterMap]
  constructor
  · intro all field hf differ
    have mismatch := all _ ⟨field, hf, if_pos differ⟩
    rwa [dumps_fieldMismatch, Bool.and_eq_true] at mismatch
  · rintro all item ⟨field, hf, made⟩
    split at made
    · rename_i differ
      cases made
      rw [dumps_fieldMismatch, Bool.and_eq_true]
      exact all field hf differ
    · cases made

theorem queryMissing_entry {source : Row} {found : Option Row} {e : Json}
    (made : queryMissing keyField source found = some e) :
    e.get "order_id" = .str (source.get keyField).text ∧ Plain e := by
  unfold queryMissing at made
  split at made
  · cases made
  · cases found <;> cases made
    exact ⟨rfl, .of_kept rfl rfl⟩

/-- A row without a key has an entry that names nothing. -/
theorem queryStale_null (compareFields : List String) {source : Row}
    (null : (source.get keyField).isNone = true) (found : Option Row) :
    ∃ e, queryStale keyField compareFields source found = some e ∧ orderId e = .ok none := by
  unfold queryStale
  rw [if_pos null]
  exact ⟨_, rfl, rfl⟩

/-- A row with a key has an entry where it differs from the row found. -/
theorem queryStale_entry {source : Row} (keyed : (source.get keyField).isNone = false)
    {found : Option Row} {e : Json} (made : queryStale keyField compareFields source found = some e) :
    e.get "order_id" = .str (source.get keyField).text ∧ ∃ row, found = some row ∧
      (Plain e ↔ dumpsItems (compareNamedFields source row compareFields) = true) := by
  unfold queryStale at made
  rw [keyed, if_neg Bool.false_ne_true] at made
  cases found with
  | none => cases made
  | some row =>
    simp only at made
    split at made <;> cases made
    refine ⟨rfl, row, rfl, ?_⟩
    constructor
    · intro plain
      have kept := plain _ rfl
      simpa [candidateKeys, Json.dumps, dumpsMembers] using kept
    · intro dumps kept hkept
      cases hkept
      simp [candidateKeys, Json.dumps, dumpsMembers, dumps]

variable (invariantName guarantee : String) (sourceScan : Json) (checkStatus : CheckStatus)
  (ev : Evidence)

theorem queryEntries : candidateEntries (compareQueryResults invariantName sourceRows targetRows
    keyField compareFields guarantee sourceScan checkStatus ev) =
      sourceRows.filterMap (fun source => queryMissing keyField source
        (targetByKey targetRows keyField (source.get keyField).text)) ++
      sourceRows.filterMap (fun source => queryStale keyField compareFields source
        (targetByKey targetRows keyField (source.get keyField).text)) := by
  rw [candidateEntries, queryResults_missing, queryResults_stale]
  exact List.append_nil _

theorem queryEntries_entry (e : Json) (he : e ∈ candidateEntries (compareQueryResults invariantName
    sourceRows targetRows keyField compareFields guarantee sourceScan checkStatus ev)) : Entry e := by
  rw [queryEntries] at he
  rcases List.mem_append.mp he with he | he
  · obtain ⟨source, -, made⟩ := List.mem_filterMap.mp he
    exact ⟨_, orderId_text_iff.mpr (queryMissing_entry made).1⟩
  · obtain ⟨source, -, made⟩ := List.mem_filterMap.mp he
    cases keyed : (source.get keyField).isNone with
    | false => exact ⟨_, orderId_text_iff.mpr (queryStale_entry keyed made).1⟩
    | true =>
      obtain ⟨e', made', hid⟩ := queryStale_null compareFields keyed
        (targetByKey targetRows keyField (source.get keyField).text)
      rw [made] at made'
      cases made'
      exact ⟨none, hid⟩

/-- Reports of rows with keys are handed over as far as their mismatches are plain. -/
theorem handsOver_keyed (keyed : ∀ row ∈ sourceRows, (row.get keyField).isNone = false) :
    HandsOver (compareQueryResults invariantName sourceRows targetRows keyField compareFields
      guarantee sourceScan checkStatus ev) ↔
    ∀ row ∈ sourceRows, ∀ found,
      targetByKey targetRows keyField (row.get keyField).text = some found →
        dumpsItems (compareNamedFields row found compareFields) = true := by
  rw [handsOver_named, repairInput_dumps_iff, queryEntries]
  · constructor
    · rintro ⟨plain, -⟩ row hr found hfound
      by_cases agree : (compareNamedFields row found compareFields).isEmpty = true
      · rw [List.isEmpty_iff.mp agree]
        rfl
      · have made : ∃ e, queryStale keyField compareFields row (some found) = some e := by
          unfold queryStale
          rw [keyed row hr, if_neg Bool.false_ne_true]
          exact ⟨_, if_neg agree⟩
        obtain ⟨e, made⟩ := made
        obtain ⟨-, row', hrow', iff⟩ := queryStale_entry (keyed row hr) made
        cases hrow'
        refine iff.mp (plain e (List.mem_append_right _ (List.mem_filterMap.mpr ⟨row, hr, ?_⟩)))
        rw [hfound, made]
    · intro dumps
      refine ⟨?_, rfl⟩
      intro e he
      rcases List.mem_append.mp he with he | he
      · obtain ⟨row, -, made⟩ := List.mem_filterMap.mp he
        exact (queryMissing_entry made).2
      · obtain ⟨row, hr, made⟩ := List.mem_filterMap.mp he
        obtain ⟨-, found, hfound, iff⟩ := queryStale_entry (keyed row hr) made
        exact iff.mpr (dumps row hr found hfound)
  · intro e he
    rw [queryEntries] at he
    rcases List.mem_append.mp he with he | he
    · obtain ⟨row, -, made⟩ := List.mem_filterMap.mp he
      exact ⟨_, (queryMissing_entry made).1⟩
    · obtain ⟨row, hr, made⟩ := List.mem_filterMap.mp he
      exact ⟨_, (queryStale_entry (keyed row hr) made).1⟩

theorem handsOver_queryResults : HandsOver (compareQueryResults invariantName sourceRows targetRows
    keyField compareFields guarantee sourceScan checkStatus ev) ↔
      PlainRows sourceRows targetRows keyField compareFields := by
  by_cases keyed : ∀ row ∈ sourceRows, (row.get keyField).isNone = false
  · rw [handsOver_keyed invariantName guarantee sourceScan checkStatus ev keyed]
    constructor
    · intro dumps
      refine ⟨keyed, ?_⟩
      intro row hr found hfound
      exact (dumps_namedFields row found).mp (dumps row hr found hfound)
    · intro rows row hr found hfound
      exact (dumps_namedFields row found).mpr (rows.plain row hr found hfound)
  · constructor
    · intro hands
      exfalso
      obtain ⟨named, -⟩ := (handsOver_iff (queryEntries_entry invariantName guarantee sourceScan
        checkStatus ev)).mp hands
      refine keyed fun row hr => ?_
      by_contra null
      obtain ⟨e, made, unnamed⟩ := queryStale_null compareFields
        (by simpa using null) (targetByKey targetRows keyField (row.get keyField).text)
      refine named e ?_ unnamed
      rw [queryEntries]
      exact List.mem_append_right _ (List.mem_filterMap.mpr ⟨row, hr, made⟩)
    · exact fun rows => absurd rows.keyed keyed

end Query

/-! ### All comparisons -/

/-- A comparison a check makes, with what it read. -/
inductive Comparison
  | ordersToIndex (sourceOrders : List Order) (indexedOrders : String → Option Document)
      (ev : Evidence)
  | queryResults (invariantName : String) (sourceRows targetRows : List Row) (keyField : String)
      (compareFields : List String) (guarantee : String) (sourceScan : Json)
      (checkStatus : CheckStatus) (ev : Evidence)
  | checksumBuckets (sourceBuckets targetBuckets : List Bucket) (sourceRows : List Order)
      (targetRows : List Document) (prefixLength : Int) (ev : Evidence)
  | freshness (sourceOrders : List Order) (indexedOrders : String → Option Document)
      (invariantName guarantee : String) (ev : Evidence)

def Comparison.report : Comparison → DriftReport
  | ordersToIndex sourceOrders indexedOrders ev =>
    comparePaidOrdersToIndex sourceOrders indexedOrders ev
  | queryResults invariantName sourceRows targetRows keyField compareFields guarantee sourceScan
      checkStatus ev =>
    compareQueryResults invariantName sourceRows targetRows keyField compareFields guarantee
      sourceScan checkStatus ev
  | checksumBuckets sourceBuckets targetBuckets sourceRows targetRows prefixLength ev =>
    comparePaidOrderChecksumBuckets sourceBuckets targetBuckets sourceRows targetRows prefixLength ev
  | freshness sourceOrders indexedOrders invariantName guarantee ev =>
    comparePaidOrderFreshness sourceOrders indexedOrders invariantName guarantee ev

/-- What a query comparison must have read; the others read orders and documents. -/
def Comparison.Plain : Comparison → Prop
  | queryResults _ sourceRows targetRows keyField compareFields _ _ _ _ =>
    PlainRows sourceRows targetRows keyField compareFields
  | _ => True

/-- A report is handed over to a repair exactly when its rows are plain. -/
theorem handoff_iff (comparison : Comparison) :
    HandsOver comparison.report ↔ comparison.Plain := by
  cases comparison with
  | ordersToIndex sourceOrders indexedOrders ev =>
    exact iff_of_true (handsOver_ordersToIndex sourceOrders indexedOrders ev) trivial
  | queryResults invariantName sourceRows targetRows keyField compareFields guarantee sourceScan
      checkStatus ev =>
    exact handsOver_queryResults invariantName guarantee sourceScan checkStatus ev
  | checksumBuckets sourceBuckets targetBuckets sourceRows targetRows prefixLength ev =>
    exact iff_of_true (handsOver_checksumBuckets sourceBuckets targetBuckets sourceRows targetRows
      prefixLength ev) trivial
  | freshness sourceOrders indexedOrders invariantName guarantee ev =>
    exact iff_of_true (handsOver_freshness sourceOrders indexedOrders invariantName guarantee ev)
      trivial

/-! A query result with one row that has no key and one that is missing. -/

def unkeyedComparison : Comparison :=
  .queryResults "accounts" [[("id", .null)], [("id", .str "a1")]] [] "id" ["balance"] "existence" .null
    .complete
    { maxLagSeconds := 0, checkedAt := 0, targetReadAt := 0, streamTopic := none,
      streamOffsetStart := none, streamOffsetEnd := none, sourceLsn := none, cdcFrontier := .null }

theorem unkeyed_not_handed_over :
    handedOver unkeyedComparison.report =
        .error (.exception "TypeError" "'<' not supported between instances of 'str' and 'NoneType'") ∧
      ¬HandsOver unkeyedComparison.report := by
  have raised : handedOver unkeyedComparison.report = .error
      (.exception "TypeError" "'<' not supported between instances of 'str' and 'NoneType'") := by
    rfl
  refine ⟨raised, ?_⟩
  rintro ⟨ids, run, -⟩
  rw [raised] at run
  cases run

end KubeDataGuard
