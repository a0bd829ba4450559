import KubeDataGuard.Worker.Handoff

/-!
# What a direct repair writes

`direct-reindex` over the stores: it reads the candidates from the `orders`
table and writes them to the search index. A check of the index finds its
candidates there afterwards; the cache, which one of the checks reads, is none
of the stores it writes.
-/

namespace KubeDataGuard

/-- The table and the two stores of documents by order id. -/
structure OrderStores where
  rows : List Order
  index : Index
  cache : Index

/-- How the stores answer a repair. -/
structure StoreCalls where
  fetch : Except Raised Unit
  index : Order → SaveOutcome
  now : Order → Instant

namespace StoreCalls

variable (calls : StoreCalls)

/-- `fetch_orders_by_ids`, which asks for nothing without ids. -/
def fetchReply (rows : List Order) (ids : List (Option String)) : Except Raised (List Order) :=
  if ids = [] then .ok []
  else calls.fetch.map fun _ => fetchOrdersByIds rows (ids.filterMap fun id => id)

def indexReply (o : Order) : Except Raised Unit :=
  match calls.index o with
  | .stored _ => .ok ()
  | .lost e => .error e
  | .storedThenRaised e => .error e

end StoreCalls

def fetchOrdersOn (calls : StoreCalls) (ids : List (Option String)) : Py OrderStores (List Order) :=
  fun s => (calls.fetchReply s.rows ids, s)

def indexOrderOn (calls : StoreCalls) (o : Order) : Py OrderStores Unit := fun s =>
  let written := { s with index := indexOrder s.index o (calls.now o) none }
  match calls.index o with
  | .stored _ => (.ok (), written)
  | .lost e => (.error e, s)
  | .storedThenRaised e => (.error e, written)

/-- `for order in orders: index_order(settings, order, refresh=True)` -/
def indexOrdersOn (calls : StoreCalls) : List Order → Py OrderStores Unit
  | [] => pure ()
  | o :: orders => do
    indexOrderOn calls o
    indexOrdersOn calls orders

/-- `repair_from_payload` over the stores; the other modes hand the ids on. -/
def repairFromPayloadOn (calls : StoreCalls)
    (request : String → List (Option String) → Except Raised Fields) (payload : Json)
    (mode : String) : Py OrderStores Fields := do
  let ids ← Py.ofExcept (repairOrderIds payload)
  if mode ∉ repairModes then Py.raise (valueError ("unsupported repair mode: " ++ mode))
  else if mode ≠ "direct-reindex" then Py.ofExcept (request mode ids)
  else
    let orders ← fetchOrdersOn calls ids
    indexOrdersOn calls orders
    return [("candidate_order_ids", .arr (ids.map optionalText)), ("repair_mode", .str mode),
      ("repaired", .int orders.length)]

/-! ## The Job -/

structure RepairWorld where
  worker : WorkerWorld
  stores : OrderStores

def Py.onStores {α : Type} (x : Py OrderStores α) : Py RepairWorld α := fun w =>
  match x w.stores with
  | (r, stores) => (r, { w with stores := stores })

def Py.onWorker {α : Type} (x : Py WorkerWorld α) : Py RepairWorld α := fun w =>
  match x w.worker with
  | (r, worker) => (r, { w with worker := worker })

/-- `run_repair_job` over the stores. -/
def runRepairJobOn (calls : WorkerCalls) (stores : StoreCalls) (args : JobArgs)
    (reportConfigMap mode : String) (source : Option ConfigMap) : Py RepairWorld Unit := do
  let namespaceName ← Py.ofExcept calls.namespaceName
  let sourceReportRef := "configmap://" ++ namespaceName ++ "/" ++ reportConfigMap ++
    "/repair-input.json"
  Py.ofExcept calls.readReport
  let payload ← Py.ofExcept (sourceReport source)
  let repairResult ← Py.onStores (repairFromPayloadOn stores calls.request payload mode)
  Py.onWorker (do
    let verification ← Py.onScan (checkInvariant calls.checks args.check)
    let reportRef ← writeReportArtifacts calls verification
    let status := repairJobStatus args mode verification reportRef
    Py.ofExcept calls.observability
    publishReportConfigmap calls (repairJobPayload args sourceReportRef
      (repairResult.set "sourceReportRef" (.str sourceReportRef)) verification status) status)

/-- The calls of a worker whose orders are answered by the stores. -/
def WorkerCalls.over (calls : WorkerCalls) (stores : StoreCalls) (rows : List Order) : WorkerCalls :=
  { calls with fetchOrdersByIds := stores.fetchReply rows, indexOrder := stores.indexReply }

theorem onStores_run {α : Type} {x : Py OrderStores α} {w t : RepairWorld} {r : Except Raised α}
    (h : Py.onStores x w = (r, t)) : x w.stores = (r, t.stores) ∧ t.worker = w.worker := by
  cases hx : x w.stores with
  | mk r' stores =>
    rw [Py.onStores, hx] at h
    cases h
    exact ⟨rfl, rfl⟩

theorem onWorker_run {α : Type} {x : Py WorkerWorld α} {w t : RepairWorld} {r : Except Raised α}
    (h : Py.onWorker x w = (r, t)) : x w.worker = (r, t.worker) ∧ t.stores = w.stores := by
  cases hx : x w.worker with
  | mk r' worker =>
    rw [Py.onWorker, hx] at h
    cases h
    exact ⟨rfl, rfl⟩

section Refinement

variable (calls : WorkerCalls) (stores : StoreCalls)

theorem indexOrderOn_reply (o : Order) (s : OrderStores) :
    (indexOrderOn stores o s).1 = stores.indexReply o := by
  unfold indexOrderOn StoreCalls.indexReply
  cases stores.index o <;> rfl

theorem indexOrdersOn_reply (orders : List Order) (s : OrderStores) :
    (indexOrdersOn stores orders s).1 = (orders.mapM stores.indexReply).map fun _ => () := by
  induction orders generalizing s with
  | nil => rfl
  | cons o orders ih =>
    have first := indexOrderOn_reply stores o s
    rw [indexOrdersOn, Py.bind_run, List.mapM_cons]
    cases hrun : indexOrderOn stores o s with
    | mk r t =>
      rw [hrun] at first
      simp only at first
      rw [← first]
      cases r with
      | error e => rfl
      | ok u =>
        simp only [ih]
        cases orders.mapM stores.indexReply <;> rfl

/-- What a repair over the stores returns is what a repair returns that is given
the answers of the stores. -/
theorem repairFromPayloadOn_reply (payload : Json) (mode : String) (s : OrderStores) :
    (repairFromPayloadOn stores calls.request payload mode s).1 =
      repairFromPayload (calls.over stores s.rows) payload mode := by
  unfold repairFromPayloadOn repairFromPayload
  rw [Py.ofExcept_bind]
  cases repairOrderIds payload with
  | error e => rfl
  | ok ids =>
    simp only [ok_bind]
    by_cases unknown : mode ∉ repairModes
    · rw [if_pos unknown, if_pos unknown]
      rfl
    by_cases other : mode ≠ "direct-reindex"
    · simp only [if_neg unknown, if_pos other]
      rfl
    have fetched : (calls.over stores s.rows).fetchOrdersByIds = stores.fetchReply s.rows := rfl
    have indexed : (calls.over stores s.rows).indexOrder = stores.indexReply := rfl
    simp only [if_neg unknown, if_neg other, Py.bind_run, fetchOrdersOn, fetched, indexed]
    cases stores.fetchReply s.rows ids with
    | error e => rfl
    | ok orders =>
      have reply := indexOrdersOn_reply stores orders s
      simp only [ok_bind]
      cases hrun : indexOrdersOn stores orders s with
      | mk r t =>
        rw [hrun] at reply
        simp only at reply
        subst reply
        cases orders.mapM stores.indexReply <;> rfl

/-- A repair Job over the stores is the repair Job, given the answers of the stores. -/
theorem runRepairJobOn_worker {args : JobArgs} {reportConfigMap mode : String}
    {source : Option ConfigMap} {w t : RepairWorld} {r : Except Raised Unit}
    (h : runRepairJobOn calls stores args reportConfigMap mode source w = (r, t)) :
    runRepairJob (calls.over stores w.stores.rows) args reportConfigMap mode source w.worker =
      (r, t.worker) := by
  have same : (calls.over stores w.stores.rows).namespaceName = calls.namespaceName ∧
      (calls.over stores w.stores.rows).readReport = calls.readReport := ⟨rfl, rfl⟩
  unfold runRepairJobOn at h
  unfold runRepairJob
  simp only [Py.ofExcept_bind, same.1, same.2] at h ⊢
  cases hname : calls.namespaceName with
  | error e =>
    simp only [hname] at h
    cases h
    rfl
  | ok namespaceName =>
    cases hread : calls.readReport with
    | error e =>
      simp only [hname, hread] at h
      cases h
      rfl
    | ok u =>
      cases hsource : sourceReport source with
      | error e =>
        simp only [hname, hread, hsource] at h
        cases h
        rfl
      | ok payload =>
        have reply := repairFromPayloadOn_reply calls stores payload mode w.stores
        simp only [hname, hread, hsource, Py.bind_run, Py.onStores] at h
        simp only
        rw [← reply]
        cases hrun : repairFromPayloadOn stores calls.request payload mode w.stores with
        | mk result stores' =>
          simp only [hrun] at h ⊢
          cases result with
          | error e =>
            cases h
            rfl
          | ok repairResult => exact (onWorker_run h).1

end Refinement

/-! ## What it leaves in the stores -/

section Writes

variable {stores : StoreCalls}

/-- The loop touches the index only, and at the orders it is given only. -/
theorem indexOrdersOn_stored {orders : List Order} (distinct : (orders.map Order.id).Nodup)
    {s t : OrderStores} (run : indexOrdersOn stores orders s = (.ok (), t)) :
    t.rows = s.rows ∧ t.cache = s.cache ∧
      (∀ id, id ∉ orders.map Order.id → t.index.lookup id = s.index.lookup id) ∧
      ∀ o ∈ orders, t.index.lookup o.id = some (orderDocument o (stores.now o) none) := by
  induction orders generalizing s with
  | nil =>
    cases run
    exact ⟨rfl, rfl, fun _ _ => rfl, fun _ h => nomatch h⟩
  | cons o orders ih =>
    obtain ⟨u, middle, first, rest⟩ := Py.bind_ok.mp run
    obtain ⟨fresh, distinct⟩ := List.nodup_cons.mp distinct
    obtain ⟨rows, cache, others, written⟩ := ih distinct rest
    have stored : middle = { s with index := indexOrder s.index o (stores.now o) none } := by
      unfold indexOrderOn at first
      cases hindex : stores.index o with
      | stored ref =>
        simp only [hindex] at first
        cases first
        rfl
      | lost e =>
        simp only [hindex] at first
        cases first
      | storedThenRaised e =>
        simp only [hindex] at first
        cases first
    subst stored
    refine ⟨rows, cache, ?_, ?_⟩
    · intro id hid
      rw [List.map_cons, List.mem_cons, not_or] at hid
      rw [others id hid.2]
      exact lookup_indexOrder_ne _ _ _ _ hid.1
    · intro o' ho'
      rcases List.mem_cons.mp ho' with rfl | ho'
      · rw [others _ fresh]
        exact lookup_indexOrder _ _ _ _
      · exact written o' ho'

/-- The orders fetched are those of the table with the ids asked for. -/
theorem fetchReply_ok {rows : List Order} (distinct : (rows.map Order.id).Nodup)
    {ids : List String} {orders : List Order}
    (fetched : stores.fetchReply rows (ids.map some) = .ok orders) :
    (orders.map Order.id).Nodup ∧ ∀ o, o ∈ orders ↔ o ∈ rows ∧ o.id ∈ ids := by
  unfold StoreCalls.fetchReply at fetched
  split at fetched
  · rename_i none
    cases fetched
    rw [List.map_eq_nil_iff.mp none]
    simp
  · cases hfetch : stores.fetch with
    | error e =>
      rw [hfetch] at fetched
      cases fetched
    | ok u =>
      have names : (ids.map some).filterMap (fun id => id) = ids := by
        rw [List.filterMap_map]
        exact List.filterMap_some
      rw [hfetch, names] at fetched
      cases fetched
      exact ⟨fetchOrdersByIds_nodup distinct ids, fun o => mem_fetchOrdersByIds⟩

/-- A direct repair that returns has written the rows of its candidates, and nothing else. -/
theorem repairFromPayloadOn_stored {request : String → List (Option String) → Except Raised Fields}
    {payload : Json} {ids : List String} (candidates : repairOrderIds payload = .ok (ids.map some))
    {s t : OrderStores} {result : Fields} (distinct : (s.rows.map Order.id).Nodup)
    (run : repairFromPayloadOn stores request payload "direct-reindex" s = (.ok result, t)) :
    t.rows = s.rows ∧ t.cache = s.cache ∧
      (∀ id, id ∉ ids → t.index.lookup id = s.index.lookup id) ∧
      ∀ o ∈ s.rows, o.id ∈ ids → t.index.lookup o.id = some (orderDocument o (stores.now o) none) := by
  unfold repairFromPayloadOn at run
  rw [Py.ofExcept_bind, candidates] at run
  simp only [if_neg (show ¬("direct-reindex" ∉ repairModes) by decide), ne_eq, not_true_eq_false,
    if_false] at run
  obtain ⟨orders, u, fetched, run⟩ := Py.bind_ok.mp run
  obtain ⟨_, v, indexed, returned⟩ := Py.bind_ok.mp run
  cases returned
  obtain ⟨reply, rfl⟩ := Prod.ext_iff.mp fetched
  obtain ⟨distinctOrders, mem⟩ := fetchReply_ok distinct reply
  obtain ⟨rows, cache, others, written⟩ := indexOrdersOn_stored distinctOrders indexed
  refine ⟨rows, cache, ?_, fun o ho hid => written o ((mem o).mpr ⟨ho, hid⟩)⟩
  intro id hid
  apply others
  intro named
  obtain ⟨o, ho, rfl⟩ := List.mem_map.mp named
  exact hid ((mem o).mp ho).2

theorem repairFromPayloadOn_direct {request : String → List (Option String) → Except Raised Fields}
    {payload : Json} {ids : List String} (candidates : repairOrderIds payload = .ok (ids.map some))
    {s t : OrderStores} {result : Fields} (distinct : (s.rows.map Order.id).Nodup)
    (run : repairFromPayloadOn stores request payload "direct-reindex" s = (.ok result, t)) :
    t.rows = s.rows ∧ t.cache = s.cache ∧
      ∀ o ∈ s.rows, o.id ∈ ids → Agrees o (t.index.lookup o.id) := by
  obtain ⟨rows, cache, -, written⟩ := repairFromPayloadOn_stored candidates distinct run
  refine ⟨rows, cache, ?_⟩
  intro o ho hid
  rw [written o ho hid]
  exact agrees_orderDocument.mpr ⟨rfl, rfl, rfl, rfl⟩

theorem indexOrdersOn_ok (orders : List Order)
    (answers : ∀ o ∈ orders, ∃ ref, stores.index o = .stored ref) (s : OrderStores) :
    ∃ t, indexOrdersOn stores orders s = (.ok (), t) := by
  induction orders generalizing s with
  | nil => exact ⟨s, rfl⟩
  | cons o orders ih =>
    obtain ⟨ref, stored⟩ := answers o List.mem_cons_self
    obtain ⟨t, rest⟩ := ih (fun p hp => answers p (List.mem_cons_of_mem o hp))
      { s with index := indexOrder s.index o (stores.now o) none }
    refine ⟨t, Py.bind_ok.mpr ⟨(), _, ?_, rest⟩⟩
    unfold indexOrderOn
    rw [stored]

/-- A direct repair returns where the stores answer it. -/
theorem repairFromPayloadOn_ok {request : String → List (Option String) → Except Raised Fields}
    {payload : Json} {ids : List String} (candidates : repairOrderIds payload = .ok (ids.map some))
    (reads : stores.fetch = .ok ()) (answers : ∀ o, ∃ ref, stores.index o = .stored ref)
    (s : OrderStores) : ∃ result t,
      repairFromPayloadOn stores request payload "direct-reindex" s = (.ok result, t) := by
  have fetched : ∃ orders, stores.fetchReply s.rows (ids.map some) = .ok orders := by
    unfold StoreCalls.fetchReply
    split
    · exact ⟨[], rfl⟩
    · rw [reads]
      exact ⟨_, rfl⟩
  obtain ⟨orders, fetched⟩ := fetched
  obtain ⟨t, indexed⟩ := indexOrdersOn_ok orders (fun o _ => answers o) s
  unfold repairFromPayloadOn
  rw [Py.ofExcept_bind, candidates]
  simp only [if_neg (show ¬("direct-reindex" ∉ repairModes) by decide), ne_eq, not_true_eq_false,
    if_false, Py.bind_run, fetchOrdersOn, fetched, indexed]
  exact ⟨_, _, rfl⟩

end Writes

/-! ## Candidates of a check -/

/-- The checks whose reports name records. -/
def recordInvariants : List String := ["existence", "checksum", "freshness", "redis-freshness"]

/-- The documents a check compares the orders with. -/
def checkedView (invariant : String) (s : OrderStores) (id : String) : Option Document :=
  if invariant = "redis-freshness" then s.cache.lookup id else s.index.lookup id

/-- The reports that name records are handed over. -/
theorem record_report_handsOver {calls : CheckCalls} {args : CheckArgs} {scan scanned : ScanWorld}
    {report : DriftReport} (kind : args.invariant ∈ recordInvariants)
    (checked : checkInvariant calls args scan = (.ok report, scanned)) : HandsOver report := by
  simp only [recordInvariants, List.mem_cons, List.not_mem_nil, or_false] at kind
  unfold checkInvariant at checked
  rcases kind with kind | kind | kind | kind
  · rw [kind] at checked
    obtain ⟨orders, -, made⟩ := bind_eq_ok (Prod.ext_iff.mp checked).1
    obtain ⟨indexed, -, made⟩ := bind_eq_ok made
    cases made
    exact handsOver_ordersToIndex ..
  · rw [kind] at checked
    obtain ⟨length, -, made⟩ := bind_eq_ok (Prod.ext_iff.mp checked).1
    obtain ⟨sourceBuckets, -, made⟩ := bind_eq_ok made
    obtain ⟨targetBuckets, -, made⟩ := bind_eq_ok made
    simp only at made
    split at made
    · cases made
      exact handsOver_checksumBuckets ..
    · obtain ⟨sourceRows, -, made⟩ := bind_eq_ok made
      obtain ⟨targetRows, -, made⟩ := bind_eq_ok made
      cases made
      exact handsOver_checksumBuckets ..
  · rw [kind] at checked
    obtain ⟨orders, -, made⟩ := bind_eq_ok (Prod.ext_iff.mp checked).1
    obtain ⟨indexed, -, made⟩ := bind_eq_ok made
    cases made
    exact handsOver_freshness ..
  · rw [kind] at checked
    obtain ⟨orders, -, made⟩ := bind_eq_ok (Prod.ext_iff.mp checked).1
    obtain ⟨cached, -, made⟩ := bind_eq_ok made
    obtain ⟨frontier, -, made⟩ := bind_eq_ok made
    cases made
    exact handsOver_freshness ..

section Jobs

variable {calls : WorkerCalls} {args : JobArgs}

/-- What a check Job publishes gives the candidates of its report. -/
theorem runCheckJob_candidates {w t : WorkerWorld} {report : DriftReport} {scanned : ScanWorld}
    (h : runCheckJob calls args w = (.ok (), t))
    (checked : checkInvariant calls.checks args.check w.scan = (.ok report, scanned)) :
    sourceReport t.published = .ok (repairInput report.toDict) := by
  obtain ⟨_, -, h⟩ := Py.ofExcept_ok h
  have ran : Py.onScan (checkInvariant calls.checks args.check) w =
      (.ok report, { w with scan := scanned }) := by
    rw [Py.onScan, checked]
  simp only [ran] at h
  obtain ⟨reportRef, u, -, h⟩ := Py.bind_ok.mp h
  obtain ⟨_, -, h⟩ := Py.ofExcept_ok h
  rw [(publishReportConfigmap_ok h).1]
  have items : ∀ key, key ≠ "kubernetes_status" → key ≠ "checkID" → ∀ status,
      (withCheckId args.check.checkId (Fields.set report.toDict "kubernetes_status" status)).get? key =
        Fields.get? report.toDict key := by
    intro key other other' status
    unfold withCheckId
    split
    · exact Fields.get?_set_ne _ _ other
    · rw [Fields.get?_set_ne _ _ other', Fields.get?_set_ne _ _ other]
  simp only [sourceReport, reportConfigMap, repairInput]
  rw [items "kind" (by decide) (by decide), items "invariant" (by decide) (by decide),
    items "status" (by decide) (by decide), items "healthy" (by decide) (by decide),
    items "missing" (by decide) (by decide), items "stale" (by decide) (by decide),
    items "freshness_violations" (by decide) (by decide),
    items "aggregate_mismatches" (by decide) (by decide),
    items "sourceReportRef" (by decide) (by decide)]

/-- A repair Job that ran through repaired from the report it was given. -/
theorem runRepairJobOn_repaired {stores : StoreCalls} {reportConfigMap mode : String}
    {source : Option ConfigMap} {w t : RepairWorld}
    (h : runRepairJobOn calls stores args reportConfigMap mode source w = (.ok (), t)) :
    ∃ payload result, sourceReport source = .ok payload ∧
      repairFromPayloadOn stores calls.request payload mode w.stores = (.ok result, t.stores) := by
  obtain ⟨_, -, h⟩ := Py.ofExcept_ok h
  obtain ⟨_, -, h⟩ := Py.ofExcept_ok h
  obtain ⟨payload, hsource, h⟩ := Py.ofExcept_ok h
  obtain ⟨result, u, hrepair, h⟩ := Py.bind_ok.mp h
  rw [(onWorker_run h).2]
  exact ⟨payload, result, hsource, (onStores_run hrepair).1⟩

/-- A direct repair of the report of a check leaves its candidates in the search
index as the table has them. The cache stays as it is, so the candidates of a
check of the cache are where they were. -/
theorem direct_repair_writes_index {checkCalls repairCalls : WorkerCalls}
    {checkArgs repairArgs : JobArgs} {checker checked : WorkerWorld} {report : DriftReport}
    {scanned : ScanWorld} {stores : StoreCalls} {reportName : String} {w t : RepairWorld}
    (kind : checkArgs.check.invariant ∈ recordInvariants)
    (ran : checkInvariant checkCalls.checks checkArgs.check checker.scan = (.ok report, scanned))
    (check : runCheckJob checkCalls checkArgs checker = (.ok (), checked))
    (repair : runRepairJobOn repairCalls stores repairArgs reportName "direct-reindex"
      checked.published w = (.ok (), t))
    (distinct : (w.stores.rows.map Order.id).Nodup) :
    t.stores.rows = w.stores.rows ∧
    (checkArgs.check.invariant ≠ "redis-freshness" →
      ∀ entry ∈ candidateEntries report, ∀ o ∈ w.stores.rows, entry.get "order_id" = .str o.id →
        Agrees o (checkedView checkArgs.check.invariant t.stores o.id)) ∧
    (checkArgs.check.invariant = "redis-freshness" → ∀ id,
      checkedView checkArgs.check.invariant t.stores id =
        checkedView checkArgs.check.invariant w.stores id) := by
  obtain ⟨ids, handed, -, mem⟩ := record_report_handsOver kind ran
  obtain ⟨payload, result, hsource, repaired⟩ := runRepairJobOn_repaired repair
  rw [runCheckJob_candidates check ran] at hsource
  cases hsource
  have candidates := handedOver_ok handed
  obtain ⟨rows, cache, written⟩ := repairFromPayloadOn_direct candidates distinct repaired
  refine ⟨rows, ?_, ?_⟩
  · intro index entry he o ho hid
    rw [checkedView, if_neg index]
    exact written o ho ((mem o.id).mpr ⟨entry, he, hid⟩)
  · intro redis id
    rw [checkedView, checkedView, if_pos redis, if_pos redis, cache]

end Jobs

/-! An order of which neither store has a document, checked against one of them
and repaired. -/

def storedOrder : Order where
  id := "4b0f"
  customerId := "customer-1"
  status := "paid"
  amountCents := 1000
  currency := "USD"
  version := 1
  createdAt := 0
  updatedAt := 0

def orderWorker : WorkerCalls where
  checks := { storesOnly 0 with
    fetchPaidOrders := fun _ => .ok [storedOrder]
    mgetOrders := fun _ => .ok fun _ => none
    cacheMgetOrders := fun _ => .ok fun _ => none
    cacheFrontier := .ok { dict := .null } }
  report := { writeReport := .ok "file://report", reloadFailure := none }
  failedAt := 0
  observability := .ok ()
  readReport := .ok ()
  fetchOrdersByIds := fun _ => .ok []
  indexOrder := fun _ => .ok ()
  request := fun _ _ => .ok []
  namespaceName := .ok "default"
  publish := .stored "orders-report"

def orderJob (invariant : String) : JobArgs where
  kind := .checkJob
  check := { invariant := invariant, maxLagSeconds := 60, invariantName := "orders" }
  configMap := "orders-report"
  observedGeneration := 1

def orderCalls : StoreCalls where
  fetch := .ok ()
  index := fun _ => .stored ""
  now := fun _ => 0

def emptyStores : OrderStores := ⟨[storedOrder], ∅, ∅⟩

def orderChecked (invariant : String) : Except Raised Unit × WorkerWorld :=
  runCheckJob orderWorker (orderJob invariant) ⟨{ checkpoint := none }, none⟩

def orderRepaired (invariant : String) : Except Raised Unit × RepairWorld :=
  runRepairJobOn orderWorker orderCalls (orderJob invariant) "orders-report" "direct-reindex"
    (orderChecked invariant).2.published ⟨⟨{ checkpoint := none }, none⟩, emptyStores⟩

theorem direct_repair_misses_cache :
    (checkPaidOrdersRedisFreshness orderWorker.checks 60).toOption.map
        (fun report => (candidateEntries report).map entryName) = some ["4b0f"] ∧
      (orderChecked "redis-freshness").1.toBool = true ∧
      (orderRepaired "redis-freshness").1.toBool = true ∧
      storedOrder ∈ (orderRepaired "redis-freshness").2.stores.rows ∧
      checkedView "redis-freshness" (orderRepaired "redis-freshness").2.stores "4b0f" = none := by
  refine ⟨by decide +kernel, by decide +kernel, by decide +kernel, by decide +kernel, ?_⟩
  decide +kernel

theorem direct_repair_writes_index_order :
    Agrees storedOrder
      (checkedView "existence" (orderRepaired "existence").2.stores storedOrder.id) := by
  have ran : checkInvariant orderWorker.checks (orderJob "existence").check { checkpoint := none } =
      (.ok (comparePaidOrdersToIndex [storedOrder] (fun _ => none)
        (orderWorker.checks.readings.evidence 60 (latestSourceWatermark [storedOrder]) none)),
        { checkpoint := none }) := rfl
  have check : runCheckJob orderWorker (orderJob "existence") ⟨{ checkpoint := none }, none⟩ =
      (.ok (), (orderChecked "existence").2) := rfl
  have repair : runRepairJobOn orderWorker orderCalls (orderJob "existence") "orders-report"
      "direct-reindex" (orderChecked "existence").2.published
      ⟨⟨{ checkpoint := none }, none⟩, emptyStores⟩ = (.ok (), (orderRepaired "existence").2) := rfl
  obtain ⟨-, written, -⟩ := direct_repair_writes_index (by decide) ran check repair (by decide)
  exact written (by decide) _ List.mem_cons_self storedOrder List.mem_cons_self rfl

end KubeDataGuard
