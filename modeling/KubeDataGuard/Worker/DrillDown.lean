import KubeDataGuard.Worker.Hierarchy

/-!
# What the drill-down finds

The rows fetched for the mismatched buckets give the entries that a comparison
of all rows gives for those buckets, and a bucket mismatches only where rows do.
-/

namespace KubeDataGuard

section DrillDown

variable (source : List Order) (target : List Document) (prefixLength : Nat)

/-- The rows fetched are the rows of the mismatched buckets, in any order. -/
structure DrilledRows (sourceRows : List Order) (targetRows : List Document) : Prop where
  orders : sourceRows.Perm
    (source.filter fun o => decide (o.bucket prefixLength ∈ drilledPrefixes source target prefixLength))
  documents : targetRows.Perm
    (target.filter fun d => decide (d.bucket prefixLength ∈ drilledPrefixes source target prefixLength))

/-- `compare_paid_order_checksum_buckets` of the tables of all rows and the rows fetched. -/
def drilledComparison (sourceRows : List Order) (targetRows : List Document) (ev : Evidence) :
    DriftReport :=
  comparePaidOrderChecksumBuckets (sourceBuckets source prefixLength)
    (targetBuckets target prefixLength) sourceRows targetRows prefixLength ev

/-- The id and the mismatches of an entry. -/
def driftEntry (entry : Json) : Json × Json := (entry.get "order_id", entry.get "mismatches")

def inMismatchedBucket (entry : Json) : Bool :=
  match entry.get "order_id" with
  | .str id => decide (idPrefix prefixLength id ∈ drilledPrefixes source target prefixLength)
  | _ => false

variable {source target prefixLength} {sourceRows : List Order} {targetRows : List Document}
  {ev : Evidence}

theorem bucketMissing_entry (n : Int) (o : Order) (d : Option Document) :
    (bucketMissing n o d).map driftEntry = (indexMissing o d).map driftEntry := by
  cases d <;> rfl

theorem bucketStale_entry (n : Int) (o : Order) (d : Option Document) :
    (bucketStale n o d).map driftEntry = (indexStale o d).map driftEntry := by
  cases d with
  | none => rfl
  | some d =>
    rw [bucketStale, indexStale]
    split <;> rfl

/-- What the rows fetched hold for an order of a mismatched bucket. -/
theorem find_drilled (rows : DrilledRows source target prefixLength sourceRows targetRows)
    (distinct : (target.map Document.id).Nodup) {o : Order}
    (inside : o.bucket prefixLength ∈ drilledPrefixes source target prefixLength) :
    (targetRows.reverse.find? fun d => d.id == some o.id) =
      target.reverse.find? fun d => d.id == some o.id := by
  have distinctRows : (targetRows.map Document.id).Nodup :=
    (rows.documents.map Document.id).nodup_iff.mpr
      (distinct.sublist (List.filter_sublist.map Document.id))
  apply Option.ext
  intro d
  rw [find_last distinctRows, find_last distinct, rows.documents.mem_iff, List.mem_filter]
  constructor
  · rintro ⟨⟨hd, -⟩, hid⟩
    exact ⟨hd, hid⟩
  · rintro ⟨hd, hid⟩
    have hbucket : d.bucket prefixLength = o.bucket prefixLength := by
      rw [Document.bucket, hid]
      rfl
    exact ⟨⟨hd, by simpa [hbucket] using inside⟩, hid⟩

/-- The entries of the rows fetched, against those of all rows, for entries that
are made of an order and what the index has of it. -/
theorem drilled_entries (rows : DrilledRows source target prefixLength sourceRows targetRows)
    (distinct : (target.map Document.id).Nodup) (make make' : Order → Option Document → Option Json)
    (named : ∀ o d e, make' o d = some e → e.get "order_id" = .str o.id)
    (same : ∀ o d, (make o d).map driftEntry = (make' o d).map driftEntry) :
    ((sourceRows.filterMap fun o =>
        make o (targetRows.reverse.find? fun d => d.id == some o.id)).map driftEntry).Perm
      (((source.filterMap fun o => make' o (target.reverse.find? fun d => d.id == some o.id)).filter
        (inMismatchedBucket source target prefixLength)).map driftEntry) := by
  refine ((rows.orders.filterMap _).map driftEntry).trans (List.Perm.of_eq ?_)
  rw [List.filterMap_filter, List.filter_filterMap, List.map_filterMap, List.map_filterMap]
  apply List.filterMap_congr
  intro o _
  by_cases inside : o.bucket prefixLength ∈ drilledPrefixes source target prefixLength
  · rw [decide_eq_true inside, if_pos rfl, find_drilled rows distinct inside, same]
    cases made : make' o (target.reverse.find? fun d => d.id == some o.id) with
    | none => rfl
    | some e =>
      have kept : inMismatchedBucket source target prefixLength e = true := by
        rw [inMismatchedBucket, named o _ e made]
        exact decide_eq_true inside
      rw [Option.filter_some, if_pos kept]
  · rw [decide_eq_false inside, if_neg Bool.false_ne_true]
    cases made : make' o (target.reverse.find? fun d => d.id == some o.id) with
    | none => rfl
    | some e =>
      have dropped : inMismatchedBucket source target prefixLength e = false := by
        rw [inMismatchedBucket, named o _ e made]
        exact decide_eq_false inside
      rw [Option.filter_some, dropped]
      rfl

/-- A bucket that mismatches has other totals on both sides. -/
theorem totals_of_drilled {bucket : String}
    (drilled : bucket ∈ drilledPrefixes source target prefixLength) :
    sourceTotals source prefixLength bucket ≠ targetTotals target prefixLength bucket := by
  rw [drilledPrefixes, mismatchedBucketKeys, List.mem_insertionSort, List.mem_dedup] at drilled
  obtain ⟨m, hm, rfl⟩ := List.mem_map.mp drilled
  obtain ⟨bucket, -, made⟩ := List.mem_filterMap.mp hm
  intro equal
  have fingerprints := congrArg (fun s => Digest.sha256Hex (fingerprintText s)) equal
  simp only at made
  split at made
  · cases made
  · rename_i differ
    cases made
    refine differ ?_
    rw [fingerprint_at, fingerprint_at, sourceBuckets, targetBuckets,
      tableTotals_summarizeRowsByPrefix, tableTotals_summarizeRowsByPrefix]
    exact fingerprints

/-- A bucket in which every order agrees with its document and every document has
an order has equal totals. -/
theorem totals_of_agreement (distinct : (source.map Order.id).Nodup)
    (distinct' : (target.map Document.id).Nodup) {bucket : String}
    (agree : ∀ o ∈ source, o.bucket prefixLength = bucket →
      Agrees o (target.reverse.find? fun d => d.id == some o.id))
    (known : ∀ d ∈ target, d.bucket prefixLength = bucket → ∃ o ∈ source, d.id = some o.id) :
    sourceTotals source prefixLength bucket = targetTotals target prefixLength bucket := by
  have inOrder : ∀ o : Order, ∀ d : Document, d.id = some o.id →
      d.bucket prefixLength = o.bucket prefixLength := by
    intro o d hid
    rw [Document.bucket, hid]
    rfl
  have within : sourceTotals (source.filter fun o => o.bucket prefixLength = bucket) prefixLength
      bucket = targetTotals (target.filter fun d => d.bucket prefixLength = bucket) prefixLength
        bucket := by
    apply totals_of_equal_rows
    · exact distinct.sublist (List.filter_sublist.map Order.id)
    · exact distinct'.sublist (List.filter_sublist.map Document.id)
    · intro o ho
      obtain ⟨ho, hb⟩ := List.mem_filter.mp ho
      have hbucket : o.bucket prefixLength = bucket := of_decide_eq_true hb
      have agrees := agree o ho hbucket
      obtain ⟨d, found, -⟩ := agrees
      obtain ⟨hd, hid⟩ := (find_last distinct').mp found
      refine ⟨d, List.mem_filter.mpr ⟨hd, ?_⟩, hid, agrees_weight (found ▸ agree o ho hbucket)⟩
      exact decide_eq_true ((inOrder o d hid).trans hbucket)
    · intro d hd
      obtain ⟨hd, hb⟩ := List.mem_filter.mp hd
      have hbucket : d.bucket prefixLength = bucket := of_decide_eq_true hb
      obtain ⟨o, ho, hid⟩ := known d hd hbucket
      refine ⟨o, List.mem_filter.mpr ⟨ho, ?_⟩, hid⟩
      exact decide_eq_true ((inOrder o d hid).symm.trans hbucket)
  simpa only [sourceTotals, targetTotals, Tally.total, List.filter_filter, Bool.and_self]
    using within

/-- An order of a fetched row that does not agree with its document has an entry. -/
theorem entry_of_disagreement
    (rows : DrilledRows source target prefixLength sourceRows targetRows)
    (distinct : (target.map Document.id).Nodup) {o : Order} (ho : o ∈ source)
    (inside : o.bucket prefixLength ∈ drilledPrefixes source target prefixLength)
    (differs : ¬Agrees o (target.reverse.find? fun d => d.id == some o.id)) :
    ∃ e ∈ (drilledComparison source target prefixLength sourceRows targetRows ev).missing ++
        (drilledComparison source target prefixLength sourceRows targetRows ev).stale,
      e.get "order_id" = .str o.id := by
  have fetched : o ∈ sourceRows :=
    rows.orders.mem_iff.mpr (List.mem_filter.mpr ⟨ho, decide_eq_true inside⟩)
  rw [drilledComparison, checksumBuckets_missing, checksumBuckets_stale]
  have fetchedDiffers : ¬Agrees o (targetRows.reverse.find? fun d => d.id == some o.id) := by
    rw [find_drilled rows distinct inside]
    exact differs
  exact ((bucketEntries prefixLength).named sourceRows
    fun id => targetRows.reverse.find? fun d => d.id == some id).2 o fetched fetchedDiffers

/-! ## The records checked -/

theorem normalize_totals (rows : List Bucket) :
    ((normalizeBucketSummaries rows).entries.map fun e => e.2.totals) =
      (normalizeBucketSummaries rows).keys.map (tableTotals rows) := by
  rw [AList.keys, List.keys, List.map_map]
  apply List.map_congr_left
  intro e he
  have found : (normalizeBucketSummaries rows).lookup e.1 = some e.2 := AList.mem_lookup_iff.mpr he
  rw [Function.comp_apply, tableTotals, Summaries.at, found]
  rfl

theorem drilled_checkedRecords :
    (drilledComparison source target prefixLength sourceRows targetRows ev).checkedRecords =
      source.length := by
  have totals := normalize_totals (sourceBuckets source prefixLength)
  have each : tableTotals (sourceBuckets source prefixLength) = fun bucket =>
      Tally.total (Order.bucket prefixLength) Order.weight bucket source :=
    funext (tableTotals_summarizeRowsByPrefix _ _ _ source)
  have cover : ∀ o ∈ source, o.bucket prefixLength ∈
      (normalizeBucketSummaries (sourceBuckets source prefixLength)).keys := by
    intro o ho
    exact AList.mem_keys.mp (mem_normalize.mpr (summarizeRowsByPrefix_bucket _ _ _ ho))
  have sums := congrArg (fun l => AddMonoidHom.fst Int (Int × Int) l.sum) totals
  simp only [each, Tally.sum_totals _ Order.weight source (AList.keys_nodup _) cover] at sums
  rw [map_list_sum, List.map_map, Order.sum_weight] at sums
  exact sums

/-- The drill-down explains every mismatched bucket and nothing else: its entries
are those of the comparison of all rows that lie in a mismatched bucket, and such a
bucket holds an order with an entry or a document whose id no order has. -/
theorem drilldown_explains (source : List Order) (target : List Document) (prefixLength : Nat)
    (sourceRows : List Order) (targetRows : List Document) (ev : Evidence)
    (distinct : (source.map Order.id).Nodup)
    (distinct' : (target.map Document.id).Nodup)
    (rows : DrilledRows source target prefixLength sourceRows targetRows) :
    ((drilledComparison source target prefixLength sourceRows targetRows ev).missing.map
      driftEntry).Perm (((rowComparison source target ev).missing.filter
        (inMismatchedBucket source target prefixLength)).map driftEntry) ∧
    ((drilledComparison source target prefixLength sourceRows targetRows ev).stale.map
      driftEntry).Perm (((rowComparison source target ev).stale.filter
        (inMismatchedBucket source target prefixLength)).map driftEntry) ∧
    (∀ bucket ∈ drilledPrefixes source target prefixLength,
      (∃ o ∈ source, o.bucket prefixLength = bucket ∧
        ∃ e ∈ (drilledComparison source target prefixLength sourceRows targetRows ev).missing ++
            (drilledComparison source target prefixLength sourceRows targetRows ev).stale,
          e.get "order_id" = .str o.id) ∨
      ∃ d ∈ target, d.bucket prefixLength = bucket ∧ ∀ o ∈ source, d.id ≠ some o.id) ∧
    (drilledComparison source target prefixLength sourceRows targetRows ev).checkedRecords =
      source.length := by
  refine ⟨?_, ?_, ?_, drilled_checkedRecords⟩
  · rw [drilledComparison, rowComparison, checksumBuckets_missing, ordersToIndex_missing]
    exact drilled_entries rows distinct' _ _ indexEntries.missingId
      (bucketMissing_entry prefixLength)
  · rw [drilledComparison, rowComparison, checksumBuckets_stale, ordersToIndex_stale]
    exact drilled_entries rows distinct' _ _ indexEntries.staleId
      (bucketStale_entry prefixLength)
  · intro bucket inside
    by_contra unexplained
    rw [not_or] at unexplained
    obtain ⟨noEntry, noExtra⟩ := unexplained
    refine totals_of_drilled inside (totals_of_agreement distinct distinct' ?_ ?_)
    · intro o ho hb
      by_contra differs
      exact noEntry ⟨o, ho, hb, entry_of_disagreement rows distinct' ho (hb ▸ inside) differs⟩
    · intro d hd hb
      by_contra unknown
      refine noExtra ⟨d, hd, hb, ?_⟩
      intro o ho hid
      exact unknown ⟨o, ho, hid⟩

end DrillDown

/-! A bucket of which the index has nothing, one on which both sides agree and
one of which the table has nothing. -/

def driftedDocuments : List Document :=
  [orderDocument { paidOrder with id := "ba", version := 4 } 0 none,
    orderDocument { paidOrder with id := "ca" } 0 none]

def driftedRows : List Order :=
  hierarchyOrders.filter fun o =>
    decide (o.bucket 1 ∈ drilledPrefixes hierarchyOrders driftedDocuments 1)

def driftedTargets : List Document :=
  driftedDocuments.filter fun d =>
    decide (d.bucket 1 ∈ drilledPrefixes hierarchyOrders driftedDocuments 1)

theorem drilldown_explains_orders :
    drilledPrefixes hierarchyOrders driftedDocuments 1 = ["a", "c"] ∧
      (drilledComparison hierarchyOrders driftedDocuments 1 driftedRows driftedTargets
        noEvidence).checkedRecords = 3 ∧
      ∀ bucket ∈ drilledPrefixes hierarchyOrders driftedDocuments 1,
        (∃ o ∈ hierarchyOrders, o.bucket 1 = bucket ∧
          ∃ e ∈ (drilledComparison hierarchyOrders driftedDocuments 1 driftedRows driftedTargets
              noEvidence).missing ++
              (drilledComparison hierarchyOrders driftedDocuments 1 driftedRows driftedTargets
                noEvidence).stale,
            e.get "order_id" = .str o.id) ∨
        ∃ d ∈ driftedDocuments, d.bucket 1 = bucket ∧ ∀ o ∈ hierarchyOrders, d.id ≠ some o.id := by
  obtain ⟨-, -, explained, checked⟩ := drilldown_explains hierarchyOrders driftedDocuments 1
    driftedRows driftedTargets noEvidence (by decide +kernel) (by decide +kernel)
    ⟨List.Perm.refl driftedRows, List.Perm.refl driftedTargets⟩
  exact ⟨by decide +kernel, checked, explained⟩

end KubeDataGuard
