import KubeDataGuard.Worker.Merkle

/-!
# Comparisons

The comparisons of `invariants`: each turns what was read of both stores into
a `DriftReport`. For every comparison a lemma says when it finds no drift.
-/

namespace KubeDataGuard

/-- What every comparison is told about the reads it judges. -/
structure Evidence where
  maxLagSeconds : Int
  checkedAt : Instant
  targetReadAt : Instant
  streamTopic : Option String
  streamOffsetStart : Option Int
  streamOffsetEnd : Option Int
  sourceLsn : Option String
  cdcFrontier : Json

def latestSourceWatermark (orders : List Order) : Option String :=
  maxText (orders.map fun o => iso o.updatedAt)

/-- `source_watermark or latest_source_watermark(source_orders)` -/
def watermarkOr (given latest : Option String) : Option String :=
  if given.all (· == "") then latest else given

def buildObservationWindow (ev : Evidence) (sourceWatermark : Option String) : ObservationWindow where
  checkedAt := iso ev.checkedAt
  targetReadAt := iso ev.targetReadAt
  maxLagSeconds := ev.maxLagSeconds
  eligibleRecordsBefore := iso (ev.checkedAt - seconds ev.maxLagSeconds)
  sourceWatermark := sourceWatermark
  sourceLsn := ev.sourceLsn
  streamTopic := ev.streamTopic
  streamOffsetStart := ev.streamOffsetStart
  streamOffsetEnd := ev.streamOffsetEnd
  cdcFrontier := ev.cdcFrontier

def comparedOrderFields : List String := ["status", "amount_cents", "currency", "version"]

def fieldMismatch (field : String) (source target : Json) : Json :=
  .obj [("field", .str field), ("source", source), ("target", target)]

def compareOrderFields (source target : String → Option Scalar) : List Json :=
  comparedOrderFields.filterMap fun field =>
    if source field ≠ target field then
      some (fieldMismatch field (scalarJson (source field)) (scalarJson (target field)))
    else none

theorem compareOrderFields_nil_iff {source target : String → Option Scalar} :
    compareOrderFields source target = [] ↔ ∀ f ∈ comparedOrderFields, source f = target f := by
  simp [compareOrderFields, List.filterMap_eq_nil_iff]

/-! ## Records -/

def comparePaidOrdersToIndex (sourceOrders : List Order) (indexedOrders : String → Option Document)
    (ev : Evidence) : DriftReport where
  invariant := "paid-orders-indexed"
  checkedRecords := sourceOrders.length
  missing := sourceOrders.filterMap fun source =>
    match indexedOrders source.id with
    | none => some (.obj [("order_id", .str source.id),
        ("reason", .str "paid order is absent from the search index"),
        ("source", serializeOrder source)])
    | some _ => none
  stale := sourceOrders.filterMap fun source =>
    match indexedOrders source.id with
    | none => none
    | some target =>
      let mismatches := compareOrderFields source.get target.get
      if mismatches.isEmpty then none
      else some (.obj [("order_id", .str source.id),
        ("reason", .str "search index document differs from source order"),
        ("mismatches", .arr mismatches), ("source", serializeOrder source),
        ("target", target.toJson)])
  guarantee := "existence+fieldEquality"
  observationWindow := some (buildObservationWindow ev (latestSourceWatermark sourceOrders))

/-- The document is there and agrees with the order on the compared fields. -/
def Agrees (source : Order) (target : Option Document) : Prop :=
  ∃ d, target = some d ∧ ∀ f ∈ comparedOrderFields, source.get f = d.get f

/-- The entry of `missing` an order has, for what the index has of it. -/
def indexMissing (o : Order) : Option Document → Option Json
  | none => some (.obj [("order_id", .str o.id),
      ("reason", .str "paid order is absent from the search index"), ("source", serializeOrder o)])
  | some _ => none

def indexStale (o : Order) : Option Document → Option Json
  | none => none
  | some d =>
    if (compareOrderFields o.get d.get).isEmpty then none
    else some (.obj [("order_id", .str o.id),
      ("reason", .str "search index document differs from source order"),
      ("mismatches", .arr (compareOrderFields o.get d.get)), ("source", serializeOrder o),
      ("target", d.toJson)])

/-- Entries that name their order, one for each order that does not agree. -/
structure DriftEntries (missing stale : Order → Option Document → Option Json) : Prop where
  missingId : ∀ o d e, missing o d = some e → e.get "order_id" = .str o.id
  staleId : ∀ o d e, stale o d = some e → e.get "order_id" = .str o.id
  drift : ∀ o d, ¬Agrees o d ↔ (missing o d).isSome = true ∨ (stale o d).isSome = true

theorem DriftEntries.named {missing stale : Order → Option Document → Option Json}
    (entries : DriftEntries missing stale) (rows : List Order) (found : String → Option Document) :
    (∀ e ∈ rows.filterMap (fun o => missing o (found o.id)) ++
        rows.filterMap (fun o => stale o (found o.id)),
      ∃ o ∈ rows, ¬Agrees o (found o.id) ∧ e.get "order_id" = .str o.id) ∧
    ∀ o ∈ rows, ¬Agrees o (found o.id) →
      ∃ e ∈ rows.filterMap (fun o => missing o (found o.id)) ++
          rows.filterMap (fun o => stale o (found o.id)),
        e.get "order_id" = .str o.id := by
  constructor
  · intro e he
    rcases List.mem_append.mp he with he | he
    · obtain ⟨o, ho, made⟩ := List.mem_filterMap.mp he
      exact ⟨o, ho, (entries.drift _ _).mpr (Or.inl (made ▸ rfl)), entries.missingId _ _ _ made⟩
    · obtain ⟨o, ho, made⟩ := List.mem_filterMap.mp he
      exact ⟨o, ho, (entries.drift _ _).mpr (Or.inr (made ▸ rfl)), entries.staleId _ _ _ made⟩
  · intro o ho differs
    rcases (entries.drift _ _).mp differs with made | made
    · obtain ⟨e, made⟩ := Option.isSome_iff_exists.mp made
      exact ⟨e, List.mem_append_left _ (List.mem_filterMap.mpr ⟨o, ho, made⟩),
        entries.missingId _ _ _ made⟩
    · obtain ⟨e, made⟩ := Option.isSome_iff_exists.mp made
      exact ⟨e, List.mem_append_right _ (List.mem_filterMap.mpr ⟨o, ho, made⟩),
        entries.staleId _ _ _ made⟩

theorem agrees_none {o : Order} : ¬Agrees o none := by
  rintro ⟨d, hd, -⟩
  cases hd

theorem agrees_some_iff {o : Order} {d : Document} :
    Agrees o (some d) ↔ compareOrderFields o.get d.get = [] := by
  rw [compareOrderFields_nil_iff]
  constructor
  · rintro ⟨d', hd, agree⟩
    cases hd
    exact agree
  · exact fun agree => ⟨d, rfl, agree⟩

theorem indexEntries : DriftEntries indexMissing indexStale := by
  refine ⟨?_, ?_, ?_⟩
  · intro o d e made
    cases d <;> cases made
    rfl
  · intro o d e made
    cases d with
    | none => cases made
    | some d =>
      rw [indexStale] at made
      split at made <;> cases made
      rfl
  · intro o d
    cases d with
    | none => simp [indexMissing, agrees_none]
    | some d => simp [indexMissing, indexStale, agrees_some_iff]

theorem ordersToIndex_missing {sourceOrders : List Order} {indexedOrders : String → Option Document}
    {ev : Evidence} : (comparePaidOrdersToIndex sourceOrders indexedOrders ev).missing =
      sourceOrders.filterMap fun o => indexMissing o (indexedOrders o.id) := by
  apply List.filterMap_congr
  intro o _
  cases indexedOrders o.id <;> rfl

theorem ordersToIndex_stale {sourceOrders : List Order} {indexedOrders : String → Option Document}
    {ev : Evidence} : (comparePaidOrdersToIndex sourceOrders indexedOrders ev).stale =
      sourceOrders.filterMap fun o => indexStale o (indexedOrders o.id) := by
  apply List.filterMap_congr
  intro o _
  cases indexedOrders o.id <;> rfl

/-- A comparison with the index names the orders that do not agree. -/
theorem ordersToIndex_named (sourceOrders : List Order) (indexedOrders : String → Option Document)
    (ev : Evidence) :
    (∀ e ∈ (comparePaidOrdersToIndex sourceOrders indexedOrders ev).missing ++
        (comparePaidOrdersToIndex sourceOrders indexedOrders ev).stale,
      ∃ o ∈ sourceOrders, ¬Agrees o (indexedOrders o.id) ∧ e.get "order_id" = .str o.id) ∧
    ∀ o ∈ sourceOrders, ¬Agrees o (indexedOrders o.id) →
      ∃ e ∈ (comparePaidOrdersToIndex sourceOrders indexedOrders ev).missing ++
          (comparePaidOrdersToIndex sourceOrders indexedOrders ev).stale,
        e.get "order_id" = .str o.id := by
  rw [ordersToIndex_missing, ordersToIndex_stale]
  exact indexEntries.named sourceOrders indexedOrders

theorem agrees_orderDocument {o o' : Order} {now : Instant} {metadata : Option EventMetadata} :
    Agrees o (some (orderDocument o' now metadata)) ↔ o'.status = o.status ∧
      o'.amountCents = o.amountCents ∧ o'.currency = o.currency ∧ o'.version = o.version := by
  simp [Agrees, comparedOrderFields, Order.get, Document.get, orderDocument]

theorem agrees_weight {o : Order} {d : Document} (agrees : Agrees o (some d)) :
    d.weight = o.weight := by
  obtain ⟨d', hd, agree⟩ := agrees
  cases hd
  have amount := agree "amount_cents" (by decide)
  have version := agree "version" (by decide)
  obtain ⟨amountCents, ha, hamount⟩ := Option.map_eq_some_iff.mp amount.symm
  obtain ⟨version', hv, hversion⟩ := Option.map_eq_some_iff.mp version.symm
  cases hamount
  cases hversion
  rw [Document.weight, ha, hv]
  rfl

theorem comparePaidOrdersToIndex_driftCount {sourceOrders : List Order}
    {indexedOrders : String → Option Document} {ev : Evidence} :
    (comparePaidOrdersToIndex sourceOrders indexedOrders ev).driftCount = 0 ↔
      ∀ o ∈ sourceOrders, Agrees o (indexedOrders o.id) := by
  rw [DriftReport.driftCount_zero]
  simp only [comparePaidOrdersToIndex, List.filterMap_eq_nil_iff, and_true]
  constructor
  · rintro ⟨missing, stale⟩ o ho
    have hm := missing o ho
    have hs := stale o ho
    cases h : indexedOrders o.id with
    | none => simp [h] at hm
    | some d =>
      refine ⟨d, rfl, compareOrderFields_nil_iff.mp ?_⟩
      simpa [h] using hs
  · intro h
    constructor
    · intro o ho
      obtain ⟨d, hd, -⟩ := h o ho
      rw [hd]
    · intro o ho
      obtain ⟨d, hd, agree⟩ := h o ho
      rw [hd]
      simp [compareOrderFields_nil_iff.mpr agree]

/-! ## Aggregates -/

def summarizePaidOrders (orders : List Order) : OrderSummary where
  count := orders.length
  totalAmountCents := (orders.map Order.amountCents).sum
  sourceWatermark := latestSourceWatermark orders

/-- `int(order["amount_cents"])` of a document. -/
def Document.intAmount (d : Document) : Except Raised Int :=
  match d.amountCents with
  | some n => .ok n
  | none => .error (.exception "KeyError" "'amount_cents'")

/-- `summarize_paid_orders` of documents. -/
def summarizePaidDocuments (documents : List Document) : Except Raised OrderSummary := do
  let amounts ← documents.mapM Document.intAmount
  return {
    count := documents.length
    totalAmountCents := amounts.sum
    sourceWatermark :=
      maxText ((documents.filterMap fun d => d.updatedAt.map Stamp.text).filter (· ≠ "")) }

/-- Documents with amounts have a summary. -/
theorem summarizePaidDocuments_ok {documents : List Document}
    (amounts : ∀ d ∈ documents, d.amountCents.isSome = true) :
    ∃ summary, summarizePaidDocuments documents = .ok summary ∧
      summary.count = documents.length ∧
      summary.totalAmountCents = (documents.map fun d => d.amountCents.getD 0).sum := by
  have read : documents.mapM Document.intAmount =
      .ok (documents.map fun d => d.amountCents.getD 0) := by
    apply mapM_ok
    intro d hd
    obtain ⟨n, hn⟩ := Option.isSome_iff_exists.mp (amounts d hd)
    rw [Document.intAmount, hn]
    rfl
  unfold summarizePaidDocuments
  rw [read]
  exact ⟨_, rfl, rfl, rfl⟩

def aggregateMismatch (field : String) (source target : Int) : List Json :=
  if source ≠ target then
    [.obj [("field", .str field), ("source", .int source), ("target", .int target),
      ("reason", .str ("source aggregate " ++ field ++ " does not match derived view"))]]
  else []

theorem aggregateMismatch_nil_iff {field : String} {source target : Int} :
    aggregateMismatch field source target = [] ↔ source = target := by
  simp [aggregateMismatch]

def comparePaidOrderAggregates (source target : OrderSummary) (ev : Evidence) : DriftReport where
  invariant := "paid-orders-aggregate"
  checkedRecords := source.count
  aggregateMismatches :=
    aggregateMismatch "count" source.count target.count ++
      aggregateMismatch "total_amount_cents" source.totalAmountCents target.totalAmountCents
  guarantee := "aggregate"
  observationWindow := some (buildObservationWindow ev (watermarkOr source.sourceWatermark none))

theorem comparePaidOrderAggregates_healthy {source target : OrderSummary} {ev : Evidence} :
    (comparePaidOrderAggregates source target ev).healthy = true ↔
      source.count = target.count ∧ source.totalAmountCents = target.totalAmountCents := by
  rw [DriftReport.healthy_iff, DriftReport.driftCount_zero]
  simp [comparePaidOrderAggregates, aggregateMismatch_nil_iff]

/-! ## Checksums -/

def latestBucketWatermark (buckets : List Bucket) : Option String :=
  maxText ((buckets.filterMap Bucket.sourceWatermark).filter (· ≠ ""))

def comparePaidOrderChecksumBuckets (sourceBuckets targetBuckets : List Bucket)
    (sourceRows : List Order) (targetRows : List Document) (prefixLength : Int) (ev : Evidence) :
    DriftReport :=
  let compared := compareBucketSummaries sourceBuckets targetBuckets
  let sourceSummary := compared.1
  let targetSummary := compared.2.1
  let bucketMismatches := compared.2.2
  let targetById : String → Option Document := fun id =>
    targetRows.reverse.find? fun d => d.id == some id
  let bucketOf : String → String := fun id => idPrefix prefixLength.toNat id
  { invariant := "paid-orders-checksum"
    checkedRecords := ((sourceSummary.entries.map fun e => e.2.count).sum)
    missing := sourceRows.filterMap fun source =>
      match targetById source.id with
      | none => some (.obj [("order_id", .str source.id),
          ("reason", .str "source row is absent from target inside mismatched checksum bucket"),
          ("bucket", .str (bucketOf source.id)), ("source", serializeOrder source)])
      | some _ => none
    stale := sourceRows.filterMap fun source =>
      match targetById source.id with
      | none => none
      | some target =>
        let mismatches := compareOrderFields source.get target.get
        if mismatches.isEmpty then none
        else some (.obj [("order_id", .str source.id),
          ("reason", .str "target row differs from source inside mismatched checksum bucket"),
          ("bucket", .str (bucketOf source.id)), ("mismatches", .arr mismatches),
          ("source", serializeOrder source), ("target", target.toJson)])
    aggregateMismatches := bucketMismatches.map fun item =>
      .obj [("field", .str ("checksum_bucket:" ++ item.bucket)), ("source", item.source.toJson),
        ("target", item.target.toJson), ("reason", .str item.reason)]
    guarantee := "checksumMerkle"
    observationWindow := some
      { buildObservationWindow ev (watermarkOr
          (latestBucketWatermark (sourceSummary.entries.map fun e => e.2.toBucket))
          (latestSourceWatermark sourceRows)) with
        checksumTree := checksumTreeEvidence prefixLength sourceSummary.entries.length
          targetSummary.entries.length bucketMismatches sourceRows.length targetRows.length } }

/-- The entry of `missing` an order of a mismatched bucket has. -/
def bucketMissing (prefixLength : Int) (o : Order) : Option Document → Option Json
  | none => some (.obj [("order_id", .str o.id),
      ("reason", .str "source row is absent from target inside mismatched checksum bucket"),
      ("bucket", .str (idPrefix prefixLength.toNat o.id)), ("source", serializeOrder o)])
  | some _ => none

def bucketStale (prefixLength : Int) (o : Order) : Option Document → Option Json
  | none => none
  | some d =>
    if (compareOrderFields o.get d.get).isEmpty then none
    else some (.obj [("order_id", .str o.id),
      ("reason", .str "target row differs from source inside mismatched checksum bucket"),
      ("bucket", .str (idPrefix prefixLength.toNat o.id)),
      ("mismatches", .arr (compareOrderFields o.get d.get)), ("source", serializeOrder o),
      ("target", d.toJson)])

theorem bucketEntries (prefixLength : Int) :
    DriftEntries (bucketMissing prefixLength) (bucketStale prefixLength) := by
  refine ⟨?_, ?_, ?_⟩
  · intro o d e made
    cases d <;> cases made
    rfl
  · intro o d e made
    cases d with
    | none => cases made
    | some d =>
      rw [bucketStale] at made
      split at made <;> cases made
      rfl
  · intro o d
    cases d with
    | none => simp [bucketMissing, agrees_none]
    | some d => simp [bucketMissing, bucketStale, agrees_some_iff]

section BucketEntries

variable {sourceBuckets targetBuckets : List Bucket} {sourceRows : List Order}
  {targetRows : List Document} {prefixLength : Int} {ev : Evidence}

theorem checksumBuckets_missing : (comparePaidOrderChecksumBuckets sourceBuckets targetBuckets
    sourceRows targetRows prefixLength ev).missing = sourceRows.filterMap fun o =>
      bucketMissing prefixLength o (targetRows.reverse.find? fun d => d.id == some o.id) := by
  apply List.filterMap_congr
  intro o _
  dsimp only
  cases targetRows.reverse.find? fun d => d.id == some o.id <;> rfl

theorem checksumBuckets_stale : (comparePaidOrderChecksumBuckets sourceBuckets targetBuckets
    sourceRows targetRows prefixLength ev).stale = sourceRows.filterMap fun o =>
      bucketStale prefixLength o (targetRows.reverse.find? fun d => d.id == some o.id) := by
  apply List.filterMap_congr
  intro o _
  dsimp only
  cases targetRows.reverse.find? fun d => d.id == some o.id <;> rfl

end BucketEntries

/-- Without a mismatched bucket there is nothing to drill into, and then no drift. -/
theorem comparePaidOrderChecksumBuckets_healthy {sourceBuckets targetBuckets : List Bucket}
    {sourceRows : List Order} {targetRows : List Document} {prefixLength : Int} {ev : Evidence}
    (drilled : (compareBucketSummaries sourceBuckets targetBuckets).2.2 = [] → sourceRows = []) :
    (comparePaidOrderChecksumBuckets sourceBuckets targetBuckets sourceRows targetRows prefixLength
      ev).healthy = true ↔ (compareBucketSummaries sourceBuckets targetBuckets).2.2 = [] := by
  rw [DriftReport.healthy_iff, DriftReport.driftCount_zero]
  simp only [comparePaidOrderChecksumBuckets, List.map_eq_nil_iff, and_true, true_and]
  constructor
  · exact fun h => h.2.2
  · intro h
    rw [drilled h]
    exact ⟨rfl, rfl, h⟩

/-! ## Freshness -/

/-- `int((a - b).total_seconds())` -/
def lagSeconds (a b : Instant) : Int := (a - b).tdiv 1000000

def freshnessItem (source : Order) (reason : String) (targetIndexedAt : Option String)
    (observedLagSeconds : Option Int) (ev : Evidence) : Json :=
  .obj [("order_id", .str source.id), ("reason", .str reason),
    ("source_updated_at", .str (iso source.updatedAt)),
    ("target_indexed_at", optionalText targetIndexedAt),
    ("observed_lag_seconds", optionalInt observedLagSeconds),
    ("max_lag_seconds", .int ev.maxLagSeconds), ("source_lsn", optionalText ev.sourceLsn)]

def freshnessViolation (ev : Evidence) (source : Order) (target : Option Document) : Option Json :=
  match target with
  | none => some (freshnessItem source "derived view has not observed the source update" none
      (some (max 0 (lagSeconds ev.checkedAt source.updatedAt))) ev)
  | some d =>
    match d.indexedAt with
    | none => some (freshnessItem source
        "target document does not expose indexed_at freshness evidence" none none ev)
    | some stamp =>
      if lagSeconds stamp.time source.updatedAt < 0 then
        some (freshnessItem source "derived view has not observed the latest source update"
          (some stamp.text) (some (lagSeconds stamp.time source.updatedAt)) ev)
      else none

def freshnessBreach (ev : Evidence) (source : Order) (target : Option Document) : Option Json :=
  match target.bind Document.indexedAt with
  | none => none
  | some stamp =>
    if lagSeconds stamp.time source.updatedAt < 0 then none
    else if ev.maxLagSeconds < lagSeconds stamp.time source.updatedAt then
      some (freshnessItem source "derived view observed the update after the bounded freshness SLO"
        (some stamp.text) (some (lagSeconds stamp.time source.updatedAt)) ev)
    else none

def comparePaidOrderFreshness (sourceOrders : List Order) (indexedOrders : String → Option Document)
    (invariantName guarantee : String) (ev : Evidence) : DriftReport where
  invariant := invariantName
  checkedRecords := sourceOrders.length
  freshnessViolations := sourceOrders.filterMap fun o => freshnessViolation ev o (indexedOrders o.id)
  freshnessBreaches := sourceOrders.filterMap fun o => freshnessBreach ev o (indexedOrders o.id)
  guarantee := guarantee
  observationWindow := some (buildObservationWindow ev (latestSourceWatermark sourceOrders))

/-! ## Query results -/

/-- `comparable_value` -/
def comparableValue : Value → Option String
  | .null => none
  | value => some value.text

def compareNamedFields (source target : Row) (fields : List String) : List Json :=
  fields.filterMap fun field =>
    if comparableValue (source.get field) ≠ comparableValue (target.get field) then
      some (fieldMismatch field (source.get field).toJson (target.get field).toJson)
    else none

/-- The last target row with a key, as `target_by_key` ends up holding it. -/
def targetByKey (targetRows : List Row) (keyField key : String) : Option Row :=
  targetRows.reverse.find? fun row => comparableValue (row.get keyField) == some key

def compareQueryResults (invariantName : String) (sourceRows targetRows : List Row)
    (keyField : String) (compareFields : List String) (guarantee : String) (sourceScan : Json)
    (checkStatus : CheckStatus) (ev : Evidence) : DriftReport where
  invariant := invariantName
  checkedRecords := sourceRows.length
  missing := sourceRows.filterMap fun source =>
    if (source.get keyField).isNone then none
    else match targetByKey targetRows keyField (source.get keyField).text with
      | none => some (.obj [("order_id", .str (source.get keyField).text),
          ("reason", .str "source row is absent from the target query result"),
          ("source", source.toJson)])
      | some _ => none
  stale := sourceRows.filterMap fun source =>
    if (source.get keyField).isNone then
      some (.obj [("order_id", .null),
        ("reason", .str ("source row is missing key field " ++ keyField)),
        ("mismatches", .arr [fieldMismatch keyField .null .null]), ("source", source.toJson),
        ("target", .obj [])])
    else match targetByKey targetRows keyField (source.get keyField).text with
      | none => none
      | some target =>
        let mismatches := compareNamedFields source target compareFields
        if mismatches.isEmpty then none
        else some (.obj [("order_id", .str (source.get keyField).text),
          ("reason", .str "target row differs from source row"), ("mismatches", .arr mismatches),
          ("source", source.toJson), ("target", target.toJson)])
  guarantee := guarantee
  checkStatus := checkStatus
  observationWindow := some
    { buildObservationWindow ev (latestQueryWatermark sourceRows) with
      sourceScan := sourceScan
      completeness := checkStatus }

/-- The entry of `missing` a source row has, for the target row found under its key. -/
def queryMissing (keyField : String) (source : Row) (found : Option Row) : Option Json :=
  if (source.get keyField).isNone then none
  else match found with
    | none => some (.obj [("order_id", .str (source.get keyField).text),
        ("reason", .str "source row is absent from the target query result"),
        ("source", source.toJson)])
    | some _ => none

def queryStale (keyField : String) (compareFields : List String) (source : Row)
    (found : Option Row) : Option Json :=
  if (source.get keyField).isNone then
    some (.obj [("order_id", .null),
      ("reason", .str ("source row is missing key field " ++ keyField)),
      ("mismatches", .arr [fieldMismatch keyField .null .null]), ("source", source.toJson),
      ("target", .obj [])])
  else match found with
    | none => none
    | some target =>
      if (compareNamedFields source target compareFields).isEmpty then none
      else some (.obj [("order_id", .str (source.get keyField).text),
        ("reason", .str "target row differs from source row"),
        ("mismatches", .arr (compareNamedFields source target compareFields)),
        ("source", source.toJson), ("target", target.toJson)])

section QueryEntries

variable {invariantName : String} {sourceRows targetRows : List Row} {keyField : String}
  {compareFields : List String} {guarantee : String} {sourceScan : Json} {checkStatus : CheckStatus}
  {ev : Evidence}

theorem queryResults_missing : (compareQueryResults invariantName sourceRows targetRows keyField
    compareFields guarantee sourceScan checkStatus ev).missing = sourceRows.filterMap fun source =>
      queryMissing keyField source
        (targetByKey targetRows keyField (source.get keyField).text) := by
  apply List.filterMap_congr
  intro source _
  unfold queryMissing
  cases targetByKey targetRows keyField (source.get keyField).text <;> rfl

theorem queryResults_stale : (compareQueryResults invariantName sourceRows targetRows keyField
    compareFields guarantee sourceScan checkStatus ev).stale = sourceRows.filterMap fun source =>
      queryStale keyField compareFields source
        (targetByKey targetRows keyField (source.get keyField).text) := by
  apply List.filterMap_congr
  intro source _
  unfold queryStale
  cases targetByKey targetRows keyField (source.get keyField).text <;> rfl

end QueryEntries

end KubeDataGuard
