import KubeDataGuard.Worker.Query

/-!
# The checks

`checker` and the dispatch of `cli.check_invariant`. What a check calls outside
is a field of `CheckCalls`, a function of what the call is given.
-/

namespace KubeDataGuard

structure CheckCalls where
  readings : Readings
  fetchPaidOrders : Int → Except Raised (List Order)
  mgetOrders : List String → Except Raised (String → Option Document)
  cacheMgetOrders : List String → Except Raised (String → Option Document)
  cacheFrontier : Except Raised TargetFrontier
  fetchPaidOrderSummary : Int → Except Raised OrderSummary
  paidOrderSummary : Instant → Except Raised OrderSummary
  analyticsSummary : Int → Except Raised OrderSummary
  analyticsTable : String
  sourceBucketSummaries : Int → Nat → Except Raised (List Bucket)
  targetBucketSummaries : Instant → Nat → Except Raised (List Bucket)
  fetchPaidOrdersByIdPrefix : List String → Nat → Int → Except Raised (List Order)
  searchPaidOrdersByIdPrefix : List String → Nat → Instant → Except Raised (List Document)
  query : QueryCalls

section Checks

variable (calls : CheckCalls) (maxLagSeconds : Int)

/-- `checked_at - timedelta(seconds=max_lag_seconds)` -/
def CheckCalls.eligibleBefore : Instant := calls.readings.checkedAt - seconds maxLagSeconds

def checkPaidOrdersIndexed : Except Raised DriftReport := do
  let sourceOrders ← calls.fetchPaidOrders maxLagSeconds
  let indexedOrders ← calls.mgetOrders (sourceOrders.map Order.id)
  return comparePaidOrdersToIndex sourceOrders indexedOrders
    (calls.readings.evidence maxLagSeconds (latestSourceWatermark sourceOrders) none)

def checkPaidOrdersAggregate : Except Raised DriftReport := do
  let sourceSummary ← calls.fetchPaidOrderSummary maxLagSeconds
  let targetSummary ← calls.paidOrderSummary (calls.eligibleBefore maxLagSeconds)
  return comparePaidOrderAggregates sourceSummary targetSummary
    (calls.readings.evidence maxLagSeconds sourceSummary.sourceWatermark none)

def checkPaidOrdersChecksum (prefixLength : Int) : Except Raised DriftReport := do
  let length ← boundedPrefixLength prefixLength
  let sourceBuckets ← calls.sourceBucketSummaries maxLagSeconds length
  let targetBuckets ← calls.targetBucketSummaries (calls.eligibleBefore maxLagSeconds) length
  let prefixes := mismatchedBucketKeys (compareBucketSummaries sourceBuckets targetBuckets).2.2
  let sourceRows ← if prefixes.filter (· ≠ "") = [] then pure []
    else calls.fetchPaidOrdersByIdPrefix prefixes length maxLagSeconds
  let targetRows ← if prefixes.filter (· ≠ "") = [] then pure []
    else calls.searchPaidOrdersByIdPrefix prefixes length (calls.eligibleBefore maxLagSeconds)
  return comparePaidOrderChecksumBuckets sourceBuckets targetBuckets sourceRows targetRows
    prefixLength (calls.readings.evidence maxLagSeconds (latestBucketWatermark sourceBuckets) none)

def checkPaidOrdersClickhouseAggregate : Except Raised DriftReport := do
  let sourceSummary ← calls.fetchPaidOrderSummary maxLagSeconds
  let targetSummary ← calls.analyticsSummary maxLagSeconds
  let frontier : TargetFrontier :=
    { dict := .obj [("system", .str "clickhouse"), ("table", .str calls.analyticsTable),
        ("available", .bool true), ("frontier_kind", .str "analytics-summary")] }
  let report := comparePaidOrderAggregates sourceSummary targetSummary
    (calls.readings.evidence maxLagSeconds sourceSummary.sourceWatermark (some frontier))
  return { report with
    invariant := "paid-orders-clickhouse-aggregate"
    guarantee := "analyticsAggregate" }

def checkPaidOrdersFreshness : Except Raised DriftReport := do
  let sourceOrders ← calls.fetchPaidOrders maxLagSeconds
  let indexedOrders ← calls.mgetOrders (sourceOrders.map Order.id)
  return comparePaidOrderFreshness sourceOrders indexedOrders "paid-orders-freshness"
    "boundedFreshness"
    (calls.readings.evidence maxLagSeconds (latestSourceWatermark sourceOrders) none)

def checkPaidOrdersRedisFreshness : Except Raised DriftReport := do
  let sourceOrders ← calls.fetchPaidOrders maxLagSeconds
  let cachedOrders ← calls.cacheMgetOrders (sourceOrders.map Order.id)
  let frontier ← calls.cacheFrontier
  return comparePaidOrderFreshness sourceOrders cachedOrders "paid-orders-redis-cache-freshness"
    "cacheFreshness"
    (calls.readings.evidence maxLagSeconds (latestSourceWatermark sourceOrders) (some frontier))

/-- The arguments of a check, as the command line has them. -/
structure CheckArgs where
  invariant : String
  maxLagSeconds : Int
  invariantName : String
  sourceQuery : String := ""
  targetQuery : String := ""
  keyField : String := "id"
  compareFields : List String := []
  sourceScanPageSize : Int := 1000
  sourceResumeAfterKey : String := ""
  sourceCheckpointId : String := ""
  sourceResetCheckpoint : Bool := false
  sourceMaxPages : Int := 0
  checksumPrefixLength : Int := 1
  checkId : String := ""
  deriving DecidableEq, Repr

def CheckArgs.query (args : CheckArgs) : QueryArgs where
  invariantName := if args.invariantName = "" then "query-invariant" else args.invariantName
  sourceQuery := args.sourceQuery
  targetQuery := args.targetQuery
  keyField := args.keyField
  compareFields := args.compareFields
  maxLagSeconds := args.maxLagSeconds
  sourceScanPageSize := args.sourceScanPageSize
  sourceResumeAfterKey := nonEmpty (some args.sourceResumeAfterKey)
  sourceCheckpointId := args.sourceCheckpointId
  sourceResetCheckpoint := args.sourceResetCheckpoint
  sourceMaxPages := args.sourceMaxPages
  checkId := args.checkId

def checkInvariant (args : CheckArgs) : Py ScanWorld DriftReport :=
  match args.invariant with
  | "existence" => Py.ofExcept (checkPaidOrdersIndexed calls args.maxLagSeconds)
  | "aggregate" => Py.ofExcept (checkPaidOrdersAggregate calls args.maxLagSeconds)
  | "checksum" =>
    Py.ofExcept (checkPaidOrdersChecksum calls args.maxLagSeconds args.checksumPrefixLength)
  | "freshness" => Py.ofExcept (checkPaidOrdersFreshness calls args.maxLagSeconds)
  | "redis-freshness" => Py.ofExcept (checkPaidOrdersRedisFreshness calls args.maxLagSeconds)
  | "clickhouse-aggregate" =>
    Py.ofExcept (checkPaidOrdersClickhouseAggregate calls args.maxLagSeconds)
  | "query" =>
    if args.sourceQuery = "" then
      Py.raise (.systemExit "--source-query is required for query invariants")
    else if args.targetQuery = "" then
      Py.raise (.systemExit "--target-query is required for query invariants")
    else checkQueryInvariant calls.query args.query calls.readings
  | invariant => Py.raise (.systemExit ("unknown invariant: " ++ invariant))

end Checks

/-- A query check, as the Jobs run it. -/
theorem checkInvariant_query {calls : CheckCalls} {args : CheckArgs} (query : args.invariant = "query")
    {w t : ScanWorld} {report : DriftReport} (h : checkInvariant calls args w = (.ok report, t)) :
    checkQueryInvariant calls.query args.query calls.readings w = (.ok report, t) := by
  rw [checkInvariant, query] at h
  simp only at h
  split at h
  · cases h
  split at h
  · cases h
  exact h

/-- Calls none of which returns, to be replaced by those of the stores that do. -/
def storesOnly (checkedAt : Instant) : CheckCalls :=
  let down : Raised := .exception "ConnectionError" "connection refused"
  { readings :=
      { checkedAt := checkedAt
        targetReadAt := checkedAt
        streamTopic := "dataguard.order-events"
        streamOffsets := .error down
        sourceLsn := .error down
        outboxFrontier := .error down
        targetFrontier := .error down }
    fetchPaidOrders := fun _ => .error down
    mgetOrders := fun _ => .error down
    cacheMgetOrders := fun _ => .error down
    cacheFrontier := .error down
    fetchPaidOrderSummary := fun _ => .error down
    paidOrderSummary := fun _ => .error down
    analyticsSummary := fun _ => .error down
    analyticsTable := "orders"
    sourceBucketSummaries := fun _ _ => .error down
    targetBucketSummaries := fun _ _ => .error down
    fetchPaidOrdersByIdPrefix := fun _ _ _ => .error down
    searchPaidOrdersByIdPrefix := fun _ _ _ => .error down
    query :=
      { fetchPage := fun _ _ _ => .error down
        loadFailure := none
        save := fun _ => .lost down
        savedAt := fun _ => checkedAt
        targetRows := .error down
        fuel := 0 } }

end KubeDataGuard
