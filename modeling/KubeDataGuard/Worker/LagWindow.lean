import KubeDataGuard.Worker.Checksum
import KubeDataGuard.Worker.Replica

/-!
# The checks inside the lag window

What the record, aggregate and checksum checks report of a replica that keeps
its lag bound. The record check errs on an order committed between the two
reads; the sums err on orders committed inside the window, which each side
counts or leaves out by its own `updated_at`.
-/

namespace KubeDataGuard

variable {h : History} {maxLagSeconds : Int} (r : Replica h maxLagSeconds)

/-! ## Records -/

/-- The record check judges the order: paid, and last updated before the window. -/
def Eligible (h : History) (maxLagSeconds : Int) (sourceAt : Instant) (id : String) (o : Order) :
    Prop :=
  h.rowAt id sourceAt = some o ∧ o.status = "paid" ∧ o.updatedAt ≤ sourceAt - seconds maxLagSeconds

theorem mem_fetchPaidOrders {sourceAt : Instant} {o : Order} :
    o ∈ fetchPaidOrders (h.rowsAt sourceAt) sourceAt maxLagSeconds ↔
      ∃ id ∈ h.ids, Eligible h maxLagSeconds sourceAt id o := by
  simp only [fetchPaidOrders, paidUntil, Order.paidBy, List.mem_insertionSort, List.mem_filter,
    History.rowsAt, List.mem_filterMap, Bool.and_eq_true, decide_eq_true_eq, Eligible]
  constructor
  · rintro ⟨⟨id, hid, hrow⟩, paid, old⟩
    exact ⟨id, hid, hrow, paid, old⟩
  · rintro ⟨id, hid, hrow, paid, old⟩
    exact ⟨⟨id, hid, hrow⟩, paid, old⟩

/-- The document of an eligible order agrees with it exactly when the order is
not committed again by the instant the document reflects. -/
theorem agrees_iff_quiet {sourceAt targetAt : Instant} (later : sourceAt ≤ targetAt) {id : String}
    {o : Order} (eligible : Eligible h maxLagSeconds sourceAt id o) :
    Agrees o (r.documentAt targetAt id) ↔ h.committed sourceAt (r.instant id targetAt) id = false := by
  obtain ⟨hrow, -, old⟩ := eligible
  have reached : o.updatedAt ≤ r.instant id targetAt :=
    old.trans ((Int.sub_le_sub_right later _).trans (r.lower id targetAt))
  have same : h.rowAt id (r.instant id targetAt) = some o → Agrees o (r.documentAt targetAt id) := by
    intro hsame
    rw [Replica.documentAt, hsame]
    exact agrees_orderDocument.mpr ⟨rfl, rfl, rfl, rfl⟩
  by_cases behind : r.instant id targetAt ≤ sourceAt
  · refine iff_of_true (same ?_) ?_
    · exact Versions.stateAt_settled _ (h.chronological id) hrow reached behind
    · rw [History.committed, List.any_eq_false]
      intro v _ hv
      simp only [Bool.and_eq_true, decide_eq_true_eq] at hv
      exact absurd (hv.1.trans_le hv.2) (not_lt.mpr behind)
  · cases moved : h.committed sourceAt (r.instant id targetAt) id with
    | false =>
      refine iff_of_true (same ?_) rfl
      rw [History.rowAt_quiet (not_le.mp behind).le le_rfl moved, hrow]
    | true =>
      refine iff_of_false ?_ (by simp)
      intro agree
      obtain ⟨o', ho', newer⟩ := History.rowAt_moved hrow moved
      rw [Replica.documentAt, ho'] at agree
      have version := (agrees_orderDocument.mp agree).2.2.2
      omega

def updatedLater (commit : Int) : Order :=
  { paidOrder with version := 2, amountCents := 1200, updatedAt := seconds commit }

def updatedOnce (commit : Int) (positive : 0 < commit) : History where
  ids := ["7c1d"]
  nodup := List.nodup_singleton _
  versions id := if id = "7c1d" then [paidOrder, updatedLater commit] else []
  ident := by
    intro id v hv
    split at hv
    · rename_i hid
      rw [hid]
      simp only [List.mem_cons, List.not_mem_nil, or_false] at hv
      cases hv with
      | inl first => rw [first]; rfl
      | inr second => rw [second]; rfl
    · cases hv
  chronological := by
    intro id
    split
    · refine List.pairwise_pair.mpr ?_
      exact Int.mul_nonneg positive.le (by decide)
    · exact List.Pairwise.nil
  increasing := by
    intro id
    split
    · exact List.pairwise_pair.mpr (show (1 : Int) < 2 by decide)
    · exact List.Pairwise.nil

def delayed (h : History) (maxLagSeconds delay : Int) (positive : 0 ≤ delay)
    (within : delay ≤ maxLagSeconds) : Replica h maxLagSeconds where
  instant _ t := t - seconds delay
  lower _ t := Int.sub_le_sub_left (Int.mul_le_mul_of_nonneg_right within (by decide)) t
  upper _ t := Int.sub_le_self t (Int.mul_nonneg positive (by decide))
  indexedAt _ t := t - seconds delay
  metadata _ _ := none

/-- A current index of an order committed at 0 and at 150 s. -/
def currentIndex : Replica (updatedOnce 150 (by decide)) 60 :=
  delayed _ 60 0 (by decide) (by decide)

/-- What an order adds to the sums of the source, read at `sourceAt`. -/
def sourceShare (h : History) (maxLagSeconds : Int) (sourceAt : Instant) (id : String) :
    Int × Int × Int :=
  ((h.rowAt id sourceAt).filter (Order.paidBy (sourceAt - seconds maxLagSeconds))).elim 0 Order.weight

/-- What its document adds to the sums of the target, read at `targetAt` by a
check that started at `checkedAt`. -/
def targetShare (checkedAt targetAt : Instant) (id : String) : Int × Int × Int :=
  ((h.rowAt id (r.instant id targetAt)).filter
    (Order.paidBy (checkedAt - seconds maxLagSeconds))).elim 0 Order.weight

theorem weight_or_zero (o : Option Order) :
    o.elim 0 Order.weight = 0 ∨ (o.elim 0 Order.weight).1 = 1 := by
  cases o with
  | none => exact Or.inl rfl
  | some o => exact Or.inr rfl

theorem sourceShare_count_nonneg (sourceAt : Instant) (id : String) :
    0 ≤ (sourceShare h maxLagSeconds sourceAt id).1 := by
  unfold sourceShare
  cases weight_or_zero ((h.rowAt id sourceAt).filter
    (Order.paidBy (sourceAt - seconds maxLagSeconds))) with
  | inl zero => rw [zero]; exact le_refl 0
  | inr one => rw [one]; exact Int.one_nonneg

theorem targetShare_count_nonneg (checkedAt targetAt : Instant) (id : String) :
    0 ≤ (targetShare r checkedAt targetAt id).1 := by
  unfold targetShare
  cases weight_or_zero ((h.rowAt id (r.instant id targetAt)).filter
    (Order.paidBy (checkedAt - seconds maxLagSeconds))) with
  | inl zero => rw [zero]; exact le_refl 0
  | inr one => rw [one]; exact Int.one_nonneg

theorem targetShare_eq_zero {checkedAt targetAt : Instant} {id : String}
    (none : (targetShare r checkedAt targetAt id).1 = 0) :
    targetShare r checkedAt targetAt id = 0 := by
  cases weight_or_zero ((h.rowAt id (r.instant id targetAt)).filter
    (Order.paidBy (checkedAt - seconds maxLagSeconds))) with
  | inl zero => exact zero
  | inr one => exact absurd (one.symm.trans none) one_ne_zero

/-- The orders committed after the window of the check opened. -/
def window (h : History) (maxLagSeconds : Int) (checkedAt targetAt : Instant) : List String :=
  h.ids.filter fun id => h.committed (checkedAt - seconds maxLagSeconds) targetAt id

/-- Outside the window both sides count the same row, or neither counts it. -/
theorem share_eq_of_quiet {checkedAt sourceAt targetAt : Instant} (started : checkedAt ≤ sourceAt)
    (later : sourceAt ≤ targetAt) {id : String}
    (quiet : h.committed (checkedAt - seconds maxLagSeconds) targetAt id = false) :
    sourceShare h maxLagSeconds sourceAt id = targetShare r checkedAt targetAt id := by
  have opened : checkedAt - seconds maxLagSeconds ≤ sourceAt :=
    (r.lag_nonneg id checkedAt).trans started
  have reflected : checkedAt - seconds maxLagSeconds ≤ r.instant id targetAt :=
    (Int.sub_le_sub_right (started.trans later) _).trans (r.lower id targetAt)
  unfold sourceShare targetShare
  rw [History.rowAt_quiet opened later quiet,
    History.rowAt_quiet reflected (r.upper id targetAt) quiet]
  cases hrow : h.rowAt id (checkedAt - seconds maxLagSeconds) with
  | none => rfl
  | some o =>
    have old := History.rowAt_updatedAt hrow
    have older : o.updatedAt ≤ sourceAt - seconds maxLagSeconds :=
      old.trans (Int.sub_le_sub_right started _)
    simp [Option.filter, Order.paidBy, old, older]

theorem paidBy_orderDocument (until_ : Instant) (o : Order) (now : Instant)
    (metadata : Option EventMetadata) :
    Document.paidBy until_ (orderDocument o now metadata) = Order.paidBy until_ o := by
  simp [Document.paidBy, Order.paidBy, orderDocument]

theorem documentShare (checkedAt targetAt : Instant) (id : String) :
    ((r.documentAt targetAt id).filter
      (Document.paidBy (checkedAt - seconds maxLagSeconds))).elim 0 Document.weight =
      targetShare r checkedAt targetAt id := by
  unfold Replica.documentAt targetShare
  cases h.rowAt id (r.instant id targetAt) with
  | none => rfl
  | some o =>
    simp only [Option.map_some, Option.filter_some, paidBy_orderDocument]
    split <;> rfl

/-- The rows a statement selects, order by order. -/
theorem paidUntil_rowsAt (t until_ : Instant) : paidUntil (h.rowsAt t) until_ =
    h.ids.filterMap fun id => (h.rowAt id t).filter (Order.paidBy until_) := by
  rw [paidUntil, History.rowsAt, List.filter_filterMap]

theorem search_paidUntil_indexAt (t until_ : Instant) : Search.paidUntil (r.indexAt t) until_ =
    h.ids.filterMap fun id => (r.documentAt t id).filter (Document.paidBy until_) := by
  rw [Search.paidUntil, r.documents_indexAt, List.filter_filterMap]

theorem total_paidUntil (sourceAt : Instant) (length : Nat) (b : String) :
    Tally.total (Order.bucket length) Order.weight b
      (paidUntil (h.rowsAt sourceAt) (sourceAt - seconds maxLagSeconds)) =
      Tally.total (idPrefix length) (sourceShare h maxLagSeconds sourceAt) b h.ids := by
  have key : ∀ id ∈ h.ids, ∀ o, (h.rowAt id sourceAt).filter
      (Order.paidBy (sourceAt - seconds maxLagSeconds)) = some o →
      o.bucket length = idPrefix length id := by
    intro id _ o ho
    have hrow := (Option.filter_eq_some_iff.mp ho).1
    rw [Order.bucket, History.rowAt_id hrow]
  rw [paidUntil_rowsAt, Tally.total_filterMap _ _ key]
  rfl

theorem total_search_paidUntil (checkedAt targetAt : Instant) (length : Nat) (b : String) :
    Tally.total (Document.bucket length) Document.weight b
      (Search.paidUntil (r.indexAt targetAt) (checkedAt - seconds maxLagSeconds)) =
      Tally.total (idPrefix length) (targetShare r checkedAt targetAt) b h.ids := by
  have key : ∀ id ∈ h.ids, ∀ d, (r.documentAt targetAt id).filter
      (Document.paidBy (checkedAt - seconds maxLagSeconds)) = some d →
      d.bucket length = idPrefix length id := by
    intro id _ d hd
    have hdoc := (Option.filter_eq_some_iff.mp hd).1
    obtain ⟨o, ho, rfl⟩ := Option.map_eq_some_iff.mp hdoc
    rw [Document.bucket, orderDocument, Option.getD_some, History.rowAt_id ho]
  rw [search_paidUntil_indexAt, Tally.total_filterMap _ _ key]
  simp only [documentShare]

/-! What the two checks compare. -/

/-- A request reports every bucket exactly when there are not too many. -/
theorem reported_all_iff (index : Index) (before : Instant) (length : Nat) :
    bucketKeys (Document.bucket length) (Search.paidUntil index before) ⊆
      (Search.paidOrderBucketSummaries index before length).map Bucket.bucket ↔
    (bucketKeys (Document.bucket length) (Search.paidUntil index before)).length ≤ maxBuckets := by
  obtain ⟨-, nodup, sub, len⟩ := Search.paidOrderBucketSummaries_spec index before length
  rw [← List.length_map (f := Bucket.bucket)] at len
  constructor
  · intro all
    have := (List.subperm_of_subset (bucketKeys_nodup _ _) all).length_le
    omega
  · intro few
    have perm := (List.subperm_of_subset nodup sub).perm_of_length_le (by omega)
    exact perm.symm.subset

theorem tableTotals_reported (index : Index) (before : Instant) (length : Nat) (b : String) :
    tableTotals (Search.paidOrderBucketSummaries index before length) b =
      if b ∈ (Search.paidOrderBucketSummaries index before length).map Bucket.bucket then
        Tally.total (Document.bucket length) Document.weight b (Search.paidUntil index before)
      else 0 := by
  obtain ⟨totals, -⟩ := Search.paidOrderBucketSummaries_spec index before length
  rw [tableTotals_of (fun k => Tally.total (Document.bucket length) Document.weight k
    (Search.paidUntil index before)) totals]
  simp only [List.mem_map]

/-- A bucket is there exactly when some document adds to it: each adds one to the count. -/
theorem mem_bucketKeys_iff_total {index : Index} {before : Instant} {length : Nat} {b : String} :
    b ∈ bucketKeys (Document.bucket length) (Search.paidUntil index before) ↔
      Tally.total (Document.bucket length) Document.weight b (Search.paidUntil index before) ≠ 0 := by
  constructor
  · intro hb zero
    obtain ⟨d, hd, rfl⟩ := mem_bucketKeys.mp hb
    have none := Tally.size_eq_zero (AddMonoidHom.fst Int (Int × Int)) (g := Document.weight)
      (fun _ _ => Int.one_nonneg) (congrArg Prod.fst zero) d (List.mem_filter.mpr ⟨hd, by simp⟩)
    exact absurd none one_ne_zero
  · intro h
    by_contra absent
    refine h (Tally.total_absent _ _ fun hb => absent ?_)
    exact mem_bucketKeys.mpr (List.mem_map.mp hb)

theorem sum_paidUntil (sourceAt : Instant) :
    ((paidUntil (h.rowsAt sourceAt) (sourceAt - seconds maxLagSeconds)).map Order.weight).sum =
      (h.ids.map (sourceShare h maxLagSeconds sourceAt)).sum := by
  rw [paidUntil_rowsAt, Tally.sum_filterMap]
  rfl

theorem sum_search_paidUntil (checkedAt targetAt : Instant) :
    ((Search.paidUntil (r.indexAt targetAt) (checkedAt - seconds maxLagSeconds)).map
      Document.weight).sum = (h.ids.map (targetShare r checkedAt targetAt)).sum := by
  rw [search_paidUntil_indexAt, Tally.sum_filterMap]
  simp only [documentShare]

/-- The aggregate check compares the count, as far as the search counts, and the amount. -/
theorem aggregate_check_healthy_iff (sourceAt targetAt : Instant) (calls : CheckCalls) :
    ∃ report, checkPaidOrdersAggregate (callsAt r sourceAt targetAt calls) maxLagSeconds = .ok report ∧
      (report.healthy = true ↔
        (h.ids.map (sourceShare h maxLagSeconds sourceAt)).sum.1 =
          min (h.ids.map (targetShare r calls.readings.checkedAt targetAt)).sum.1 maxTotalHits ∧
        (h.ids.map (sourceShare h maxLagSeconds sourceAt)).sum.2.1 =
          (h.ids.map (targetShare r calls.readings.checkedAt targetAt)).sum.2.1) := by
  refine ⟨_, rfl, ?_⟩
  rw [comparePaidOrderAggregates_healthy, ← sum_paidUntil, ← sum_search_paidUntil]
  rw [Order.sum_weight, Document.sum_weight]
  exact and_congr_left fun _ => by rw [← Nat.cast_min]; rfl

/-- The prefix length a check works with. -/
def cutPrefixLength (prefixLength : Int) : Nat := (min prefixLength 12).toNat

/-- A checksum check whose calls return compares their tables, and drills down
only into buckets that mismatch. -/
theorem checkPaidOrdersChecksum_ok (calls : CheckCalls) {prefixLength : Int} {length : Nat}
    {before : Instant} {source target : List Bucket}
    {rows : List String → List Order} {documents : List String → List Document}
    (hlength : boundedPrefixLength prefixLength = .ok length)
    (hbefore : calls.eligibleBefore maxLagSeconds = before)
    (hsource : calls.sourceBucketSummaries maxLagSeconds length = .ok source)
    (htarget : calls.targetBucketSummaries before length = .ok target)
    (hrows : ∀ prefixes, calls.fetchPaidOrdersByIdPrefix prefixes length maxLagSeconds =
      .ok (rows prefixes))
    (hdocuments : ∀ prefixes, calls.searchPaidOrdersByIdPrefix prefixes length before =
      .ok (documents prefixes)) :
    ∃ report, checkPaidOrdersChecksum calls maxLagSeconds prefixLength = .ok report ∧
      (report.healthy = true ↔ (compareBucketSummaries source target).2.2 = []) := by
  unfold checkPaidOrdersChecksum
  rw [hlength, hbefore]
  simp only [bind, Except.bind, pure, Except.pure, hsource, htarget, hrows, hdocuments]
  split
  · exact ⟨_, rfl, comparePaidOrderChecksumBuckets_healthy fun _ => rfl⟩
  · rename_i drilled
    refine ⟨_, rfl, comparePaidOrderChecksumBuckets_healthy fun agree => ?_⟩
    exact absurd (by rw [agree]; rfl) drilled

/-- The documents that a check counts. -/
theorem targetShare_count (checkedAt targetAt : Instant) :
    (h.ids.map (targetShare r checkedAt targetAt)).sum.1 =
      (Search.paidUntil (r.indexAt targetAt) (checkedAt - seconds maxLagSeconds)).length := by
  rw [← sum_search_paidUntil, Document.sum_weight]

/-- A bucket that is reported has a document. -/
theorem reported_count {checkedAt targetAt : Instant} {length : Nat} {b : String}
    (reported : b ∈ (Search.paidOrderBucketSummaries (r.indexAt targetAt)
      (checkedAt - seconds maxLagSeconds) length).map Bucket.bucket) :
    1 ≤ (Tally.total (idPrefix length) (targetShare r checkedAt targetAt) b h.ids).1 := by
  obtain ⟨-, -, sub, -⟩ := Search.paidOrderBucketSummaries_spec (r.indexAt targetAt)
    (checkedAt - seconds maxLagSeconds) length
  have some := mem_bucketKeys_iff_total.mp (sub reported)
  rw [total_search_paidUntil] at some
  have counts : ∀ id ∈ h.ids, 0 ≤ (AddMonoidHom.fst Int (Int × Int))
      (targetShare r checkedAt targetAt id) :=
    fun id _ => targetShare_count_nonneg r checkedAt targetAt id
  have nonneg : 0 ≤ (AddMonoidHom.fst Int (Int × Int)) (Tally.total (idPrefix length)
      (targetShare r checkedAt targetAt) b h.ids) := Tally.size_total_nonneg _ counts b
  have counted : (AddMonoidHom.fst Int (Int × Int)) (Tally.total (idPrefix length)
      (targetShare r checkedAt targetAt) b h.ids) ≠ 0 := fun zero =>
    some (Tally.total_eq_zero_of_size _ counts (fun id _ => targetShare_eq_zero r) zero)
  exact Int.add_one_le_iff.mpr (lt_of_le_of_ne nonneg counted.symm)

section Tables

variable {sourceAt targetAt checkedAt : Instant} {length : Nat}
  (tables : ∀ b, Tally.total (idPrefix length) (sourceShare h maxLagSeconds sourceAt) b h.ids =
    if b ∈ (Search.paidOrderBucketSummaries (r.indexAt targetAt)
      (checkedAt - seconds maxLagSeconds) length).map Bucket.bucket then
      Tally.total (idPrefix length) (targetShare r checkedAt targetAt) b h.ids
    else 0)
include tables

/-- Tables that agree and leave out no bucket agree on the buckets themselves. -/
theorem totals_of_tables (few : (bucketKeys (Document.bucket length)
      (Search.paidUntil (r.indexAt targetAt) (checkedAt - seconds maxLagSeconds))).length ≤
        maxBuckets) (b : String) :
    Tally.total (idPrefix length) (sourceShare h maxLagSeconds sourceAt) b h.ids =
      Tally.total (idPrefix length) (targetShare r checkedAt targetAt) b h.ids := by
  have all := (reported_all_iff _ _ _).mpr few
  rw [tables b]
  split
  · rfl
  · rename_i unreported
    by_contra some
    rw [← total_search_paidUntil] at some
    exact unreported (all (mem_bucketKeys_iff_total.mpr (Ne.symm some)))

/-- The source then counts a row for each bucket that is reported. -/
theorem reported_le_count : (((Search.paidOrderBucketSummaries (r.indexAt targetAt)
      (checkedAt - seconds maxLagSeconds) length).map Bucket.bucket).length : Int) ≤
    (h.ids.map (sourceShare h maxLagSeconds sourceAt)).sum.1 := by
  obtain ⟨-, nodup, -, -⟩ := Search.paidOrderBucketSummaries_spec (r.indexAt targetAt)
    (checkedAt - seconds maxLagSeconds) length
  apply Tally.length_le_size (AddMonoidHom.fst Int (Int × Int))
    (fun id (_ : id ∈ h.ids) => sourceShare_count_nonneg sourceAt id) nodup
  intro b reported
  rw [tables b, if_pos reported]
  exact reported_count r reported

/-- Where the tables of the checksum agree and the counts do as far as the search counts,
nothing is counted beyond: either every bucket is reported, and the sums over the buckets
agree, or there are more of them than the search counts documents. -/
theorem counted_few (counts : (h.ids.map (sourceShare h maxLagSeconds sourceAt)).sum.1 =
      min (h.ids.map (targetShare r checkedAt targetAt)).sum.1 maxTotalHits) :
    (h.ids.map (targetShare r checkedAt targetAt)).sum.1 ≤ maxTotalHits := by
  by_contra many
  have stopped : (h.ids.map (sourceShare h maxLagSeconds sourceAt)).sum.1 = maxTotalHits := by
    rw [counts]
    exact min_eq_right (le_of_lt (not_le.mp many))
  obtain ⟨-, -, -, size⟩ := Search.paidOrderBucketSummaries_spec (r.indexAt targetAt)
    (checkedAt - seconds maxLagSeconds) length
  by_cases few : (bucketKeys (Document.bucket length) (Search.paidUntil (r.indexAt targetAt)
      (checkedAt - seconds maxLagSeconds))).length ≤ maxBuckets
  · have same := congrArg Prod.fst (Tally.sums_of_totals (totals_of_tables r tables few))
    omega
  · have buckets := reported_le_count r tables
    rw [List.length_map, size, min_eq_left (le_of_lt (not_le.mp few))] at buckets
    have within : (maxBuckets : Int) ≤ maxTotalHits := buckets.trans_eq stopped
    exact absurd within (by decide)

end Tables

/-- An index eight seconds behind, of an order committed at 0 and at 95 s. -/
def laggingIndex : Replica (updatedOnce 95 (by decide)) 10 :=
  delayed _ 10 8 (by decide) (by decide)

/-- An index one second behind: both sides leave the order out. -/
def followingIndex : Replica (updatedOnce 95 (by decide)) 10 :=
  delayed _ 10 1 (by decide) (by decide)

theorem followingIndex_tables (b : String) :
    tableTotals (paidOrderBucketSummaries ((updatedOnce 95 (by decide)).rowsAt (seconds 100))
        (seconds 100) 10 (cutPrefixLength 1)) b =
      tableTotals (Search.paidOrderBucketSummaries (followingIndex.indexAt (seconds 100))
        (seconds 100 - seconds 10) (cutPrefixLength 1)) b := by
  have source : paidOrderBucketSummaries ((updatedOnce 95 (by decide)).rowsAt (seconds 100))
      (seconds 100) 10 (cutPrefixLength 1) = [] := by decide +kernel
  have target : Search.paidOrderBucketSummaries (followingIndex.indexAt (seconds 100))
      (seconds 100 - seconds 10) (cutPrefixLength 1) = [] := by decide +kernel
  rw [source, target]

end KubeDataGuard
