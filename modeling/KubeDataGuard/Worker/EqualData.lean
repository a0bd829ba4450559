import KubeDataGuard.Worker.LagWindow

/-!
# Checksums of equal data

The index holds what the orders hold. The statement returns every group and a
request at most `maxBuckets`; the statement leaves out what its own clock finds
too recent, a request what the check's clock does. So the two tables of
summaries agree as long as no order was updated between the two bounds and there
are no more id prefixes than a request returns buckets.
-/

namespace KubeDataGuard

/-- The document is the order's. -/
structure Holds (o : Order) (d : Document) : Prop where
  id : d.id = some o.id
  agrees : Agrees o (some d)
  updatedAt : d.updatedAt.map Stamp.time = some o.updatedAt

theorem Holds.paidBy {o : Order} {d : Document} (h : Holds o d) (until_ : Instant) :
    Document.paidBy until_ d = Order.paidBy until_ o := by
  obtain ⟨_, ⟨⟩, fields⟩ := h.agrees
  have status := fields "status" (by decide)
  simp only [Order.get, Document.get] at status
  obtain ⟨heldStatus, held, same⟩ := Option.map_eq_some_iff.mp status.symm
  obtain ⟨stamp, heldStamp, time⟩ := Option.map_eq_some_iff.mp h.updatedAt
  injection same with same
  simp only [Document.paidBy, Order.paidBy, held, heldStamp, Option.any_some, time, same,
    Option.some.injEq]

/-- The documents are those of the orders, in any order. -/
def SameData (orders : List Order) (documents : List Document) : Prop :=
  ∃ held, documents.Perm held ∧ List.Forall₂ Holds orders held

namespace SameData

variable {orders : List Order} {documents : List Document}

theorem perm (same : SameData orders documents) (length : Nat) :
    (documents.map fun d => (d.bucket length, d.weight)).Perm
      (orders.map fun o => (o.bucket length, o.weight)) := by
  obtain ⟨held, order, agree⟩ := same
  have equal : (orders.map fun o => (o.bucket length, o.weight)) =
      held.map fun d => (d.bucket length, d.weight) := by
    clear order
    induction agree with
    | nil => rfl
    | cons head _ ih =>
      rw [List.map_cons, List.map_cons, ih, agrees_weight head.agrees, Document.bucket, head.id]
      rfl
  rw [equal]
  exact order.map _

theorem total (same : SameData orders documents) (length : Nat) (bucket : String) :
    Tally.total (Document.bucket length) Document.weight bucket documents =
      Tally.total (Order.bucket length) Order.weight bucket orders := by
  have pairs := Tally.total_perm Prod.fst Prod.snd (same.perm length) bucket
  rw [Tally.total_map, Tally.total_map] at pairs
  exact pairs

/-- What a request selects of the documents is the documents of what it would select of the
orders. -/
theorem selected (same : SameData orders documents) (until_ : Instant) :
    SameData (orders.filter (Order.paidBy until_)) (documents.filter (Document.paidBy until_)) := by
  obtain ⟨held, order, agree⟩ := same
  refine ⟨held.filter (Document.paidBy until_), order.filter _, ?_⟩
  exact List.rel_filter (fun o d h => iff_of_eq (congrArg (· = true) (h.paidBy until_).symm)) agree

theorem mem_groups (same : SameData orders documents) (length : Nat) {bucket : String} :
    bucket ∈ bucketKeys (Document.bucket length) documents ↔
      ∃ o ∈ orders, o.bucket length = bucket := by
  have keys := (same.perm length).map Prod.fst
  rw [List.map_map, List.map_map] at keys
  rw [mem_bucketKeys, ← List.mem_map, ← List.mem_map]
  exact keys.mem_iff

theorem groups (same : SameData orders documents) (length : Nat) :
    (bucketKeys (Document.bucket length) documents).length =
      (bucketKeys (Order.bucket length) orders).length := by
  have keys := (same.perm length).map Prod.fst
  rw [List.map_map, List.map_map] at keys
  unfold bucketKeys
  rw [List.length_insertionSort, List.length_insertionSort]
  exact keys.dedup.length_eq

end SameData

section Stores

variable {rows : List Order} {index : Index} {sourceAt before : Instant} {maxLagSeconds : Int}
  {length : Nat}

/-- The orders a check selects. -/
def eligibleOrders (rows : List Order) (sourceAt : Instant) (maxLagSeconds : Int) : List Order :=
  paidUntil rows (sourceAt - seconds maxLagSeconds)

/-- The prefixes of the orders a check selects. -/
def orderPrefixes (rows : List Order) (sourceAt : Instant) (maxLagSeconds : Int) (length : Nat) :
    List String :=
  bucketKeys (Order.bucket length) (eligibleOrders rows sourceAt maxLagSeconds)

/-- A selection with the same count in a bucket leaves none of its orders out. -/
theorem selected_whole {orders : List Order} {select : Order → Bool} {o : Order} (mem : o ∈ orders)
    (same : sourceTotals orders length (o.bucket length) =
      sourceTotals (orders.filter select) length (o.bucket length)) : select o = true := by
  have counts := congrArg Prod.fst same
  simp only [sourceTotals, Tally.total, Order.sum_weight, Nat.cast_inj] at counts
  rw [List.filter_comm, eq_comm, List.length_filter_eq_length_iff] at counts
  exact counts o (List.mem_filter.mpr ⟨mem, decide_eq_true rfl⟩)

theorem total_present {orders : List Order} {o : Order} (mem : o ∈ orders) :
    sourceTotals orders length (o.bucket length) ≠ 0 := by
  intro zero
  have none : (fun _ : Order => false) o = true := selected_whole mem (by
    rw [zero, List.filter_false]
    rfl)
  cases none

/-- Of the orders a check selects the request leaves out those that are too recent for it. -/
theorem paidBy_iff_old {o : Order} (mem : o ∈ eligibleOrders rows sourceAt maxLagSeconds) :
    Order.paidBy before o = true ↔ o.updatedAt ≤ before := by
  have paid := (List.mem_filter.mp mem).2
  rw [Order.paidBy, Bool.and_eq_true] at paid ⊢
  rw [and_iff_right paid.1, decide_eq_true_eq]

/-- Summaries of equal data agree exactly when no order that the check selects is too recent for
the request, and the request reports every group. -/
theorem equal_data_mismatches_iff
    (same : SameData (eligibleOrders rows sourceAt maxLagSeconds) (index.entries.map Sigma.snd))
    (free : CollisionFree (sourceTotals (eligibleOrders rows sourceAt maxLagSeconds) length)
      (tableTotals (Search.paidOrderBucketSummaries index before length))) :
    (compareBucketSummaries (paidOrderBucketSummaries rows sourceAt maxLagSeconds length)
        (Search.paidOrderBucketSummaries index before length)).2.2 = [] ↔
      (∀ o ∈ eligibleOrders rows sourceAt maxLagSeconds, o.updatedAt ≤ before) ∧
      (orderPrefixes rows sourceAt maxLagSeconds length).length ≤ maxBuckets := by
  have source : ∀ b, tableTotals (paidOrderBucketSummaries rows sourceAt maxLagSeconds length) b =
      sourceTotals (eligibleOrders rows sourceAt maxLagSeconds) length b :=
    tableTotals_grouped (Order.bucket length) Order.weight _ _
  have selected : SameData ((eligibleOrders rows sourceAt maxLagSeconds).filter (Order.paidBy before))
      (Search.paidUntil index before) := same.selected before
  have target := tableTotals_reported index before length
  rw [mismatches_nil_iff]
  simp only [source]
  rw [fingerprints_agree_iff free]
  simp only [target, selected.total length]
  constructor
  · intro agree
    have reported : ∀ o ∈ eligibleOrders rows sourceAt maxLagSeconds, o.bucket length ∈
        (Search.paidOrderBucketSummaries index before length).map Bucket.bucket := by
      intro o mem
      by_contra unreported
      exact total_present mem ((agree _).trans (if_neg unreported))
    have kept : ∀ o ∈ eligibleOrders rows sourceAt maxLagSeconds, Order.paidBy before o = true := by
      intro o mem
      exact selected_whole mem ((agree _).trans (if_pos (reported o mem)))
    refine ⟨fun o mem => (paidBy_iff_old mem).mp (kept o mem), ?_⟩
    rw [List.filter_eq_self.mpr kept] at selected
    rw [orderPrefixes, ← selected.groups, ← reported_all_iff]
    intro b hb
    obtain ⟨o, mem, rfl⟩ := (selected.mem_groups length).mp hb
    exact reported o mem
  · rintro ⟨old, few⟩
    have kept : ∀ o ∈ eligibleOrders rows sourceAt maxLagSeconds, Order.paidBy before o = true :=
      fun o mem => (paidBy_iff_old mem).mpr (old o mem)
    rw [List.filter_eq_self.mpr kept] at selected ⊢
    rw [orderPrefixes, ← selected.groups, ← reported_all_iff] at few
    intro b
    split
    · rfl
    · rename_i unreported
      by_contra nonzero
      refine unreported (few (mem_bucketKeys_iff_total.mpr ?_))
      rw [selected.total length]
      exact nonzero

/-- Calls of a check that finds these orders in the table and these documents in the index. -/
def storeCalls (rows : List Order) (sourceAt : Instant) (index : Index) (calls : CheckCalls) :
    CheckCalls :=
  { calls with
    sourceBucketSummaries := fun lag length =>
      .ok (paidOrderBucketSummaries rows sourceAt lag length)
    targetBucketSummaries := fun before length =>
      .ok (Search.paidOrderBucketSummaries index before length)
    fetchPaidOrdersByIdPrefix := fun prefixes length lag =>
      .ok (fetchPaidOrdersByIdPrefix rows prefixes length sourceAt lag)
    searchPaidOrdersByIdPrefix := fun prefixes length before =>
      .ok (Search.fetchPaidOrdersByIdPrefix index prefixes length before) }

theorem checksum_healthy_iff_no_mismatch (rows : List Order) (sourceAt : Instant) (index : Index)
    (maxLagSeconds : Int) (calls : CheckCalls) {prefixLength : Int} (positive : 1 ≤ prefixLength) :
    ∃ report, checkPaidOrdersChecksum (storeCalls rows sourceAt index calls) maxLagSeconds
        prefixLength = .ok report ∧
      (report.healthy = true ↔ (compareBucketSummaries
        (paidOrderBucketSummaries rows sourceAt maxLagSeconds (cutPrefixLength prefixLength))
        (Search.paidOrderBucketSummaries index (calls.eligibleBefore maxLagSeconds)
          (cutPrefixLength prefixLength))).2.2 = []) := by
  have length : boundedPrefixLength prefixLength = .ok (cutPrefixLength prefixLength) :=
    if_neg (not_lt.mpr positive)
  have before : (storeCalls rows sourceAt index calls).eligibleBefore maxLagSeconds =
      calls.eligibleBefore maxLagSeconds := rfl
  exact checkPaidOrdersChecksum_ok (storeCalls rows sourceAt index calls) length before rfl rfl
    (fun _ => rfl) (fun _ => rfl)

end Stores

/-! ## Orders of distinct prefixes -/

/-- The paid order of a numbered id. -/
def numberedOrder (n : Nat) : Order :=
  { paidOrder with id := pad 5 n ++ "000-0000-4000-8000-000000000000" }

def numberedOrders (count : Nat) : List Order := (List.range count).map numberedOrder

theorem numbered_ids (count : Nat) : ((numberedOrders count).map Order.id).Nodup := by
  rw [numberedOrders, List.map_map]
  apply List.nodup_range.map_on
  intro i _ j _ same
  have chars := congrArg String.toList same
  simp only [Function.comp_apply, numberedOrder, String.toList_append] at chars
  exact pad_injective 5 (String.toList_inj.mp (List.append_cancel_right chars))

/-- An index of the orders. -/
def numberedIndex (count : Nat) : Index :=
  ⟨(numberedOrders count).map fun o => ⟨o.id, orderDocument o 0 none⟩, by
    have ids := numbered_ids count
    rw [List.NodupKeys, List.keys, List.map_map]
    exact ids⟩

section Numbered

variable {count : Nat} {before : Instant}

theorem numbered_paid (later : 0 ≤ before) :
    paidUntil (numberedOrders count) before = numberedOrders count := by
  apply List.filter_eq_self.mpr
  intro o ho
  obtain ⟨n, -, rfl⟩ := List.mem_map.mp ho
  exact decide_eq_true later

theorem numbered_documents : (numberedIndex count).entries.map Sigma.snd =
    (numberedOrders count).map fun o => orderDocument o 0 none := by
  unfold numberedIndex
  rw [List.map_map]
  rfl

theorem numbered_same (later : 0 ≤ before) :
    SameData (paidUntil (numberedOrders count) before)
      ((numberedIndex count).entries.map Sigma.snd) := by
  rw [numbered_paid later, numbered_documents]
  refine ⟨_, .refl _, ?_⟩
  rw [List.forall₂_map_right_iff, List.forall₂_same]
  intro o _
  exact ⟨rfl, agrees_orderDocument.mpr ⟨rfl, rfl, rfl, rfl⟩, rfl⟩

theorem numbered_bucket {n : Nat} (fits : n < 10 ^ 5) : (numberedOrder n).bucket 5 = pad 5 n := by
  have whole := pad_length (by decide) fits
  unfold Order.bucket idPrefix numberedOrder
  rw [String.toList_append, List.take_left' whole, String.ofList_toList]

theorem numbered_buckets (few : count ≤ 10 ^ 5) :
    ((numberedOrders count).map (Order.bucket 5)).Nodup := by
  rw [numberedOrders, List.map_map]
  apply List.nodup_range.map_on
  intro i hi j hj same
  rw [Function.comp_apply, Function.comp_apply,
    numbered_bucket ((List.mem_range.mp hi).trans_le few),
    numbered_bucket ((List.mem_range.mp hj).trans_le few)] at same
  exact pad_injective 5 same

theorem numbered_prefixes (few : count ≤ 10 ^ 5) (later : 0 ≤ before) :
    (bucketKeys (Order.bucket 5) (paidUntil (numberedOrders count) before)).length = count := by
  rw [numbered_paid later, bucketKeys, List.length_insertionSort, (numbered_buckets few).dedup,
    List.length_map, numberedOrders, List.length_map, List.length_range]

/-- No bucket of one order has the fingerprint of an empty one, which is the only other that a
request may give it. -/
theorem numbered_free (few : count ≤ 10 ^ 5) {until_ : Instant} (later : 0 ≤ until_)
    (later' : 0 ≤ before) :
    CollisionFree (sourceTotals (paidUntil (numberedOrders count) until_) 5)
      (tableTotals (Search.paidOrderBucketSummaries (numberedIndex count) before 5)) := by
  have selected : SameData (paidUntil (numberedOrders count) before)
      (Search.paidUntil (numberedIndex count) before) := by
    have same : SameData (paidUntil (paidUntil (numberedOrders count) before) before)
      (Search.paidUntil (numberedIndex count) before) := (numbered_same later').selected before
    rw [numbered_paid later', numbered_paid later'] at same
    rwa [numbered_paid later']
  intro bucket same
  rw [tableTotals_reported] at same ⊢
  rw [selected.total, numbered_paid later'] at same ⊢
  rw [numbered_paid later] at same ⊢
  split at same
  · rw [if_pos (by assumption)]
    rfl
  · rw [if_neg (by assumption)]
    by_cases present : bucket ∈ (numberedOrders count).map (Order.bucket 5)
    · obtain ⟨o, ho, rfl⟩ := List.mem_map.mp present
      have weight : o.weight = (1, 1000, 1) := by
        obtain ⟨n, -, rfl⟩ := List.mem_map.mp ho
        rfl
      rw [sourceTotals, Tally.total_unique _ _ (numbered_buckets few) ho, weight] at same
      have apart : Digest.sha256Hex (fingerprintText (1, 1000, 1)) ≠
          Digest.sha256Hex (fingerprintText 0) := by decide +kernel
      exact absurd same apart
    · rw [sourceTotals, Tally.total_absent _ _ present]

end Numbered

end KubeDataGuard
