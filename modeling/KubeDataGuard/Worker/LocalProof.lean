import KubeDataGuard.Worker.Candidates

/-!
# The local proof

`local_demo`: orders, an index that drifted from them, a report of the drift,
a repair of the records it names and a second check. A repair leaves an index
in which every order is found as it is, whatever the drift was.
-/

namespace KubeDataGuard

/-! ## The repair -/

/-- `dict(order)` with an `indexed_at`. -/
def copiedDocument (o : Order) (indexedAt : Stamp) : Document where
  id := some o.id
  customerId := some o.customerId
  status := some o.status
  amountCents := some o.amountCents
  currency := some o.currency
  version := some o.version
  createdAt := some ⟨iso o.createdAt, o.createdAt⟩
  updatedAt := some ⟨iso o.updatedAt, o.updatedAt⟩
  indexedAt := some indexedAt

def sourceById (sourceOrders : List Order) (id : String) : Option Order :=
  sourceOrders.reverse.find? fun o => o.id == id

def repairedAt : Stamp := ⟨"2026-06-12T12:00:10+00:00", seconds 1781265610⟩

/-- One turn of the loop of `repair_index_from_report`. -/
def reindexCandidate (sourceOrders : List Order) (repaired : Index) :
    Option String → Except Raised Index
  | none => .error (.exception "KeyError" "None")
  | some id =>
    match sourceById sourceOrders id with
    | none => .error (.exception "KeyError" ("'" ++ id ++ "'"))
    | some o => .ok (repaired.insert id (copiedDocument o repairedAt))

def repairIndexFromReport (sourceOrders : List Order) (driftedIndex : Index) (report : DriftReport) :
    Except Raised (Index × Fields) := do
  let candidates ← candidateOrderIds (report.missing ++ report.stale)
  let repaired ← candidates.foldlM (reindexCandidate sourceOrders) driftedIndex
  return (repaired,
    [("action", .str "reindex-records-from-source"), ("source_of_truth", .str "postgres.orders"),
      ("target", .str "opensearch.orders"),
      ("candidate_order_ids", .arr (candidates.map optionalText)),
      ("repaired_order_ids", .arr (candidates.map optionalText)),
      ("repaired", .int candidates.length), ("idempotency_model", .str "upsert by order id"),
      ("repair_scope", .obj [("invariant", .str report.invariant),
        ("guarantee", .str report.guarantee), ("drift_count_before", .int report.driftCount)])])

section Repair

variable {source : List Order}

theorem agrees_copied (o : Order) (stamp : Stamp) : Agrees o (some (copiedDocument o stamp)) := by
  simp [Agrees, comparedOrderFields, Order.get, Document.get, copiedDocument]

theorem sourceById_eq (distinct : (source.map Order.id).Nodup) {o : Order} (ho : o ∈ source) :
    sourceById source o.id = some o :=
  (find_last distinct).mpr ⟨ho, rfl⟩

/-- The loop writes the candidates and nothing else. -/
theorem reindex_candidates (distinct : (source.map Order.id).Nodup) {ids : List String}
    (named : ∀ id ∈ ids, ∃ o ∈ source, o.id = id) (index : Index) :
    ∃ repaired, (ids.map some).foldlM (reindexCandidate source) index = .ok repaired ∧
      (∀ id, id ∉ ids → repaired.lookup id = index.lookup id) ∧
      ∀ o ∈ source, o.id ∈ ids → repaired.lookup o.id = some (copiedDocument o repairedAt) := by
  induction ids generalizing index with
  | nil => exact ⟨index, rfl, fun _ _ => rfl, fun _ _ h => nomatch h⟩
  | cons id ids ih =>
    obtain ⟨o, ho, rfl⟩ := named id List.mem_cons_self
    obtain ⟨repaired, run, others, written⟩ :=
      ih (fun id hid => named id (List.mem_cons_of_mem _ hid))
        (index.insert o.id (copiedDocument o repairedAt))
    refine ⟨repaired, ?_, ?_, ?_⟩
    · rw [List.map_cons, List.foldlM_cons, reindexCandidate, sourceById_eq distinct ho]
      exact run
    · intro id hid
      rw [List.mem_cons, not_or] at hid
      rw [others id hid.2, AList.lookup_insert_ne hid.1]
    · intro o' ho' hid
      by_cases later : o'.id ∈ ids
      · exact written o' ho' later
      · have here : o'.id = o.id := (List.mem_cons.mp hid).resolve_right later
        have same : o' = o := List.inj_on_of_nodup_map distinct ho' ho here
        rw [others _ later, same, AList.lookup_insert]

/-- What a repair of a report leaves behind. -/
structure Repaired (source : List Order) (index repaired : Index) : Prop where
  found : ∀ o ∈ source, Agrees o (repaired.lookup o.id)
  kept : ∀ id, (∀ o ∈ source, o.id = id → Agrees o (index.lookup id)) →
    repaired.lookup id = index.lookup id

/-- The repair of a report writes the orders the report names, as they are. -/
theorem repair_report (distinct : (source.map Order.id).Nodup) (index : Index) (ev : Evidence) :
    ∃ repaired payload, repairIndexFromReport source index
        (comparePaidOrdersToIndex source index.lookup ev) = .ok (repaired, payload) ∧
      Repaired source index repaired := by
  obtain ⟨naming, complete⟩ := ordersToIndex_named source (fun id => index.lookup id) ev
  obtain ⟨ids, collected, -, mem⟩ := candidateOrderIds_named fun e he =>
    (naming e he).elim fun o h => ⟨o.id, h.2.2⟩
  have named : ∀ id ∈ ids, ∃ o ∈ source, o.id = id := by
    intro id hid
    obtain ⟨e, he, hget⟩ := (mem id).mp hid
    obtain ⟨o, ho, -, hname⟩ := naming e he
    exact ⟨o, ho, Json.str.inj (hname.symm.trans hget)⟩
  obtain ⟨repaired, run, others, written⟩ := reindex_candidates distinct named index
  refine ⟨repaired, ?_⟩
  unfold repairIndexFromReport
  rw [collected]
  simp only [bind, Except.bind, run]
  refine ⟨_, rfl, ?_, ?_⟩
  · intro o ho
    by_cases candidate : o.id ∈ ids
    · rw [written o ho candidate]
      exact agrees_copied o repairedAt
    · rw [others _ candidate]
      by_contra differs
      obtain ⟨e, he, hget⟩ := complete o ho differs
      exact candidate ((mem o.id).mpr ⟨e, he, hget⟩)
  · intro id agree
    apply others
    intro hid
    obtain ⟨e, he, hget⟩ := (mem id).mp hid
    obtain ⟨o, ho, differs, hname⟩ := naming e he
    obtain rfl := Json.str.inj (hname.symm.trans hget)
    exact differs (agree o ho rfl)

variable {index repaired : Index}

/-- Where every document has an order, a repair leaves one document an order. -/
theorem repaired_keys (distinct : (source.map Order.id).Nodup)
    (known : ∀ id ∈ index, ∃ o ∈ source, o.id = id) (after : Repaired source index repaired) :
    repaired.keys.Perm (source.map Order.id) := by
  rw [List.perm_ext_iff_of_nodup (AList.keys_nodup _) distinct]
  intro id
  rw [← AList.mem_keys, List.mem_map]
  constructor
  · intro present
    by_contra unknown
    have same := after.kept id fun o ho hid => absurd ⟨o, ho, hid⟩ unknown
    rw [← AList.lookup_isSome, same, AList.lookup_isSome] at present
    exact unknown (known id present)
  · rintro ⟨o, ho, rfl⟩
    obtain ⟨d, found, -⟩ := after.found o ho
    exact AList.lookup_isSome.mp (found ▸ rfl)

/-- The index a repair leaves has the totals of the orders. -/
theorem repaired_aggregates (distinct : (source.map Order.id).Nodup)
    (known : ∀ id ∈ index, ∃ o ∈ source, o.id = id) (after : Repaired source index repaired)
    (ev : Evidence) : ∃ summary, summarizePaidDocuments repaired.values = .ok summary ∧
      (comparePaidOrderAggregates (summarizePaidOrders source) summary ev).healthy = true := by
  have keys := repaired_keys distinct known after
  have amount : ∀ o ∈ source, ∃ d, repaired.lookup o.id = some d ∧
      d.amountCents = some o.amountCents := by
    intro o ho
    obtain ⟨d, found, agree⟩ := after.found o ho
    obtain ⟨n, hn, hamount⟩ := Option.map_eq_some_iff.mp (agree "amount_cents" (by decide)).symm
    cases hamount
    exact ⟨d, found, hn⟩
  have amounts : repaired.values.map Document.amountCents =
      repaired.keys.map fun id => ((repaired.lookup id).map Document.amountCents).getD none :=
    Index.values_map repaired Document.amountCents none
  have present : ∀ d ∈ repaired.values, d.amountCents.isSome = true := by
    intro d hd
    have hmem := List.mem_map_of_mem (f := Document.amountCents) hd
    rw [amounts] at hmem
    obtain ⟨id, hid, heq⟩ := List.mem_map.mp hmem
    obtain ⟨o, ho, rfl⟩ := List.mem_map.mp (keys.mem_iff.mp hid)
    obtain ⟨d', found, hamount⟩ := amount o ho
    rw [found] at heq
    rw [← heq, Option.map_some, Option.getD_some, hamount]
    rfl
  obtain ⟨summary, run, count, total⟩ := summarizePaidDocuments_ok present
  refine ⟨summary, run, comparePaidOrderAggregates_healthy.mpr ⟨?_, ?_⟩⟩
  · have sizes : repaired.values.length = source.length := by
      have lengths := keys.length_eq
      rw [AList.keys, List.keys, List.length_map, List.length_map] at lengths
      rw [Index.values, List.length_map, lengths]
    rw [count, sizes]
    rfl
  · have cents := Index.values_map repaired (fun d => d.amountCents.getD 0) 0
    have orders : (source.map Order.id).map
        (fun id => ((repaired.lookup id).map fun d => d.amountCents.getD 0).getD 0) =
          source.map Order.amountCents := by
      rw [List.map_map]
      apply List.map_congr_left
      intro o ho
      obtain ⟨d, found, hamount⟩ := amount o ho
      rw [Function.comp_apply, found, Option.map_some, Option.getD_some, hamount]
      rfl
    rw [total, cents, (keys.map _).sum_eq, orders]
    rfl

/-- A second repair, from a fresh report, has no candidates. -/
theorem repair_again (after : Repaired source index repaired) (ev : Evidence) :
    ∃ payload, repairIndexFromReport source repaired
      (comparePaidOrdersToIndex source (fun id => repaired.lookup id) ev) =
        .ok (repaired, payload) := by
  have noDrift : (comparePaidOrdersToIndex source (fun id => repaired.lookup id) ev).driftCount = 0 :=
    comparePaidOrdersToIndex_driftCount.mpr after.found
  obtain ⟨missing, stale, -, -⟩ := (DriftReport.driftCount_zero _).mp noDrift
  unfold repairIndexFromReport
  rw [missing, stale]
  exact ⟨_, rfl⟩

end Repair

/-! ## The demonstration -/

/-- `datetime + timedelta`, within the years a `datetime` has. -/
def addTimedelta (t delta : Instant) : Except Raised Instant :=
  if seconds (-62135596800) ≤ t + delta ∧ t + delta < seconds 253402300800 then .ok (t + delta)
  else .error (.exception "OverflowError" "date value out of range")

def demoStart : Instant := seconds 1781265300

example : iso demoStart = "2026-06-12T11:55:00+00:00" := by decide +kernel

def demoOrder (index : Nat) (timestamp : Instant) : Order where
  id := "order-" ++ pad 4 index
  customerId := "customer-" ++ pad 3 (index % 7 + 1 : Nat)
  status := "paid"
  amountCents := 1000 + index * 137
  currency := "USD"
  version := 1
  createdAt := timestamp
  updatedAt := timestamp

def makeSourceOrder (index : Nat) : Except Raised Order := do
  let timestamp ← addTimedelta demoStart (seconds (index * 3))
  return demoOrder index timestamp

/-- `range(1, count + 1)` is empty for a count below one. -/
def makeSourceOrders (count : Int) : Except Raised (List Order) :=
  (List.range' 1 count.toNat).mapM makeSourceOrder

/-- `document["indexed_at"] = order["updated_at"]` -/
def indexedDocument (o : Order) : Document := copiedDocument o ⟨iso o.updatedAt, o.updatedAt⟩

def staleDocument (o : Order) : Document :=
  { indexedDocument o with amountCents := some (o.amountCents - 250), version := some 0 }

/-- One turn of the loop of `make_drifted_index`, at a position counted from one. -/
def indexPosition (skipEveryPaid : Int) (indexed : Index) (e : Order × Nat) : Index :=
  if skipEveryPaid ≠ 0 ∧ (e.2 : Int).fmod skipEveryPaid = 0 then indexed
  else indexed.insert e.1.id (indexedDocument e.1)

def makeDriftedIndex (sourceOrders : List Order) (skipEveryPaid : Int) : Index :=
  let indexed := (sourceOrders.zipIdx 1).foldl (indexPosition skipEveryPaid) ∅
  match sourceOrders[min 2 (sourceOrders.length - 1)]? with
  | none => indexed
  | some staleOrder => indexed.insert staleOrder.id (staleDocument staleOrder)

structure LocalProofResult where
  sourceOrders : List Order
  driftedIndex : Index
  repairedIndex : Index
  beforeExistence : DriftReport
  beforeAggregate : DriftReport
  repair : Fields
  afterExistence : DriftReport
  afterAggregate : DriftReport

def LocalProofResult.passed (r : LocalProofResult) : Bool :=
  !r.beforeExistence.healthy && r.afterExistence.healthy && r.afterAggregate.healthy

/-- What the comparisons are told at a time. -/
def demoEvidence (checkedAt : Instant) (orders : Nat) : Evidence where
  maxLagSeconds := 0
  checkedAt := checkedAt
  targetReadAt := checkedAt
  streamTopic := some "orders.events"
  streamOffsetStart := some 1
  streamOffsetEnd := some orders
  sourceLsn := none
  cdcFrontier := .null

def demoCheckedAt : Instant := seconds 1781265600

def runLocalProof (count skipEveryPaid : Int) : Except Raised LocalProofResult := do
  let sourceOrders ← makeSourceOrders count
  let driftedIndex := makeDriftedIndex sourceOrders skipEveryPaid
  let before := demoEvidence demoCheckedAt sourceOrders.length
  let beforeExistence :=
    comparePaidOrdersToIndex sourceOrders (fun id => driftedIndex.lookup id) before
  let driftedSummary ← summarizePaidDocuments driftedIndex.values
  let beforeAggregate :=
    comparePaidOrderAggregates (summarizePaidOrders sourceOrders) driftedSummary before
  let (repairedIndex, repair) ← repairIndexFromReport sourceOrders driftedIndex beforeExistence
  let after := demoEvidence (demoCheckedAt + seconds 10) sourceOrders.length
  let afterExistence :=
    comparePaidOrdersToIndex sourceOrders (fun id => repairedIndex.lookup id) after
  let repairedSummary ← summarizePaidDocuments repairedIndex.values
  let afterAggregate :=
    comparePaidOrderAggregates (summarizePaidOrders sourceOrders) repairedSummary after
  return ⟨sourceOrders, driftedIndex, repairedIndex, beforeExistence, beforeAggregate, repair,
    afterExistence, afterAggregate⟩

/-! ### Its orders -/

/-- The greatest count whose last order is made before the year 10000. -/
def maxDemoOrders : Int := 83873678499

theorem demo_in_range (index : Nat) :
    (seconds (-62135596800) ≤ demoStart + seconds (index * 3) ∧
      demoStart + seconds (index * 3) < seconds 253402300800) ↔ (index : Int) ≤ maxDemoOrders := by
  change ((-62135596800 * 1000000 : Int) ≤ 1781265300 * 1000000 + (index : Int) * 3 * 1000000 ∧
    (1781265300 * 1000000 + (index : Int) * 3 * 1000000 : Int) < 253402300800 * 1000000) ↔
      (index : Int) ≤ 83873678499
  omega

theorem makeSourceOrder_ok {index : Nat} (le : (index : Int) ≤ maxDemoOrders) :
    makeSourceOrder index = .ok (demoOrder index (demoStart + seconds (index * 3))) := by
  unfold makeSourceOrder addTimedelta
  rw [if_pos ((demo_in_range index).mpr le)]
  rfl

theorem makeSourceOrder_error {index : Nat} (gt : maxDemoOrders < (index : Int)) :
    makeSourceOrder index = .error (.exception "OverflowError" "date value out of range") := by
  unfold makeSourceOrder addTimedelta
  rw [if_neg fun inRange => absurd ((demo_in_range index).mp inRange) (not_le.mpr gt)]
  rfl

theorem demo_ids_distinct (times : Nat → Instant) (n : Nat) :
    (((List.range' 1 n).map fun index => demoOrder index (times index)).map Order.id).Nodup := by
  rw [List.map_map]
  apply (List.nodup_range' (s := 1) (n := n)).map_on
  intro i _ j _ same
  have chars := congrArg String.toList same
  rw [Function.comp_apply, Function.comp_apply, demoOrder, demoOrder, String.toList_append,
    String.toList_append] at chars
  exact pad_injective 4 (String.toList_inj.mp (List.append_cancel_left chars))

theorem makeSourceOrders_ok {count : Int} (le : count ≤ maxDemoOrders) :
    ∃ orders, makeSourceOrders count = .ok orders ∧ orders.length = count.toNat ∧
      (orders.map Order.id).Nodup := by
  have each : ∀ index ∈ List.range' 1 count.toNat,
      makeSourceOrder index = .ok (demoOrder index (demoStart + seconds (index * 3))) := by
    intro index hi
    have bound := (List.mem_range'_1.mp hi).2
    exact makeSourceOrder_ok (by simp only [maxDemoOrders] at *; omega)
  refine ⟨_, mapM_ok each, ?_, demo_ids_distinct _ _⟩
  rw [List.length_map, List.length_range']

theorem makeSourceOrders_error {count : Int} (gt : maxDemoOrders < count) :
    makeSourceOrders count = .error (.exception "OverflowError" "date value out of range") := by
  apply mapM_error
  · refine ⟨count.toNat, List.mem_range'_1.mpr ?_, makeSourceOrder_error ?_⟩
    · simp only [maxDemoOrders] at gt
      omega
    · simp only [maxDemoOrders] at *
      omega
  · intro index _ e raised
    by_cases le : (index : Int) ≤ maxDemoOrders
    · rw [makeSourceOrder_ok le] at raised
      cases raised
    · rw [makeSourceOrder_error (not_le.mp le)] at raised
      cases raised
      rfl

/-! ### Its index -/

section Drifted

variable {orders : List Order}

/-- A document of the index is an order's and has an amount. -/
def DriftedFrom (orders : List Order) (index : Index) : Prop :=
  ∀ id d, index.lookup id = some d →
    (∃ o ∈ orders, o.id = id) ∧ d.amountCents.isSome = true

theorem driftedFrom_insert {index : Index} (drifted : DriftedFrom orders index) {o : Order}
    (ho : o ∈ orders) {d : Document} (amount : d.amountCents.isSome = true) :
    DriftedFrom orders (index.insert o.id d) := by
  intro id d' found
  by_cases here : id = o.id
  · subst here
    rw [AList.lookup_insert] at found
    cases found
    exact ⟨⟨o, ho, rfl⟩, amount⟩
  · rw [AList.lookup_insert_ne here] at found
    exact drifted id d' found

theorem indexed_from (skipEveryPaid : Int) {l : List (Order × Nat)} (within : ∀ e ∈ l, e.1 ∈ orders)
    {index : Index} (drifted : DriftedFrom orders index) :
    DriftedFrom orders (l.foldl (indexPosition skipEveryPaid) index) := by
  induction l generalizing index with
  | nil => exact drifted
  | cons e l ih =>
    apply ih fun e he => within e (List.mem_cons_of_mem _ he)
    unfold indexPosition
    split
    · exact drifted
    · exact driftedFrom_insert drifted (within e List.mem_cons_self) rfl

theorem makeDriftedIndex_from (orders : List Order) (skipEveryPaid : Int) :
    DriftedFrom orders (makeDriftedIndex orders skipEveryPaid) := by
  have within : ∀ e ∈ orders.zipIdx 1, e.1 ∈ orders := fun e he => List.fst_mem_of_mem_zipIdx he
  have empty : DriftedFrom orders ∅ := by
    intro id d found
    rw [AList.lookup_empty] at found
    cases found
  have loop := indexed_from skipEveryPaid within empty
  unfold makeDriftedIndex
  simp only
  split
  · exact loop
  · rename_i staleOrder found
    exact driftedFrom_insert loop (List.mem_of_getElem? found) rfl

/-- One document is older than its order. -/
theorem makeDriftedIndex_stale (nonempty : orders ≠ []) (skipEveryPaid : Int) :
    ∃ o ∈ orders, ¬Agrees o ((makeDriftedIndex orders skipEveryPaid).lookup o.id) := by
  have bound : min 2 (orders.length - 1) < orders.length := by
    have := List.length_pos_iff.mpr nonempty
    omega
  have found := List.getElem?_eq_getElem bound
  refine ⟨orders[min 2 (orders.length - 1)], List.getElem_mem bound, ?_⟩
  unfold makeDriftedIndex
  simp only [found, AList.lookup_insert]
  rintro ⟨d, hd, agree⟩
  cases hd
  have amount := agree "amount_cents" (by decide)
  simp only [Order.get, Document.get, staleDocument, Option.map_some, Option.some.injEq,
    Scalar.int.injEq] at amount
  omega

end Drifted

/-! ### The proof -/

theorem values_amounts {orders : List Order} {index : Index} (drifted : DriftedFrom orders index) :
    ∀ d ∈ index.values, d.amountCents.isSome = true := by
  intro d hd
  obtain ⟨id, found⟩ := Index.mem_values.mp hd
  exact (drifted id d found).2

theorem runLocalProof_passed {count : Int} (positive : 1 ≤ count) (le : count ≤ maxDemoOrders)
    (skipEveryPaid : Int) :
    ∃ result, runLocalProof count skipEveryPaid = .ok result ∧ result.passed = true := by
  obtain ⟨orders, made, size, distinct⟩ := makeSourceOrders_ok le
  have nonempty : orders ≠ [] := by
    rintro rfl
    rw [List.length_nil] at size
    omega
  have drifted := makeDriftedIndex_from orders skipEveryPaid
  have known : ∀ id ∈ makeDriftedIndex orders skipEveryPaid, ∃ o ∈ orders, o.id = id := by
    intro id present
    obtain ⟨d, found⟩ := Option.isSome_iff_exists.mp (AList.lookup_isSome.mpr present)
    exact (drifted id d found).1
  obtain ⟨before, summarized, -, -⟩ := summarizePaidDocuments_ok (values_amounts drifted)
  obtain ⟨repaired, payload, run, after⟩ := repair_report distinct
    (makeDriftedIndex orders skipEveryPaid) (demoEvidence demoCheckedAt orders.length)
  obtain ⟨summary, resummarized, aggregates⟩ := repaired_aggregates distinct known after
    (demoEvidence (demoCheckedAt + seconds 10) orders.length)
  have found : (comparePaidOrdersToIndex orders (fun id => repaired.lookup id)
      (demoEvidence (demoCheckedAt + seconds 10) orders.length)).healthy = true :=
    (DriftReport.healthy_iff _).mpr ⟨rfl, comparePaidOrdersToIndex_driftCount.mpr after.found⟩
  have detected : (comparePaidOrdersToIndex orders
      (fun id => (makeDriftedIndex orders skipEveryPaid).lookup id)
      (demoEvidence demoCheckedAt orders.length)).healthy = false := by
    rw [Bool.eq_false_iff]
    intro healthy
    have noDrift := ((DriftReport.healthy_iff _).mp healthy).2
    obtain ⟨o, ho, differs⟩ := makeDriftedIndex_stale nonempty skipEveryPaid
    exact differs (comparePaidOrdersToIndex_driftCount.mp noDrift o ho)
  unfold runLocalProof
  rw [made]
  simp only [bind, Except.bind, summarized, run, resummarized]
  refine ⟨_, rfl, ?_⟩
  simp only [LocalProofResult.passed, detected, found, aggregates]
  rfl

/-- A repair of a comparison's report leaves an index without drift, whatever the
drift was; the demonstration detects, repairs and verifies for every count whose
times a `datetime` can hold. -/
theorem detect_repair_verify (source : List Order) (index : Index)
    (distinct : (source.map Order.id).Nodup) (known : ∀ id ∈ index, ∃ o ∈ source, o.id = id)
    (ev ev' ev'' : Evidence) :
    (∃ repaired payload, repairIndexFromReport source index
        (comparePaidOrdersToIndex source (fun id => index.lookup id) ev) = .ok (repaired, payload) ∧
      (comparePaidOrdersToIndex source (fun id => repaired.lookup id) ev').healthy = true ∧
      (∃ summary, summarizePaidDocuments repaired.values = .ok summary ∧
        (comparePaidOrderAggregates (summarizePaidOrders source) summary ev').healthy = true) ∧
      (∀ id, (∀ e ∈ (comparePaidOrdersToIndex source (fun id => index.lookup id) ev).missing ++
            (comparePaidOrdersToIndex source (fun id => index.lookup id) ev).stale,
          e.get "order_id" ≠ .str id) →
        repaired.lookup id = index.lookup id) ∧
      ∃ payload', repairIndexFromReport source repaired
        (comparePaidOrdersToIndex source (fun id => repaired.lookup id) ev'') =
          .ok (repaired, payload')) ∧
    ∀ count skipEveryPaid : Int, 1 ≤ count →
      (count ≤ maxDemoOrders →
        ∃ result, runLocalProof count skipEveryPaid = .ok result ∧ result.passed = true) ∧
      (maxDemoOrders < count → runLocalProof count skipEveryPaid =
        .error (.exception "OverflowError" "date value out of range")) := by
  obtain ⟨repaired, payload, run, after⟩ := repair_report distinct index ev
  constructor
  · refine ⟨repaired, payload, run, ?_, repaired_aggregates distinct known after ev', ?_,
      repair_again after ev''⟩
    · exact (DriftReport.healthy_iff _).mpr ⟨rfl, comparePaidOrdersToIndex_driftCount.mpr after.found⟩
    · intro id unnamed
      apply after.kept
      intro o ho hid
      by_contra differs
      subst hid
      obtain ⟨e, he, hget⟩ := (ordersToIndex_named source (fun id => index.lookup id) ev).2 o ho differs
      exact unnamed e he hget
  · intro count skipEveryPaid positive
    constructor
    · exact fun le => runLocalProof_passed positive le skipEveryPaid
    · intro gt
      unfold runLocalProof
      rw [makeSourceOrders_error gt]
      rfl

theorem detect_repair_verify_demo :
    (∃ repaired payload, repairIndexFromReport [demoOrder 1 demoStart] ∅
        (comparePaidOrdersToIndex [demoOrder 1 demoStart] (fun id => (∅ : Index).lookup id)
          (demoEvidence 0 1)) = .ok (repaired, payload) ∧
      (comparePaidOrdersToIndex [demoOrder 1 demoStart] (fun id => repaired.lookup id)
        (demoEvidence 0 1)).healthy = true) ∧
    ∃ result, runLocalProof 10 5 = .ok result ∧ result.passed = true := by
  obtain ⟨⟨repaired, payload, run, healthy, -⟩, demo⟩ :=
    detect_repair_verify [demoOrder 1 demoStart] ∅ (by decide +kernel) (fun _ h => nomatch h)
      (demoEvidence 0 1) (demoEvidence 0 1) (demoEvidence 0 1)
  exact ⟨⟨repaired, payload, run, healthy⟩, (demo 10 5 (by decide)).1 (by decide)⟩

/-- The last order of a longer demonstration would be made after the year 9999. -/
theorem local_proof_overflows :
    ¬∃ result, runLocalProof 83873678500 5 = .ok result ∧ result.passed = true := by
  rintro ⟨result, run, -⟩
  unfold runLocalProof at run
  rw [makeSourceOrders_error (by decide)] at run
  cases run

end KubeDataGuard
