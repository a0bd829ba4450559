import KubeDataGuard.Worker.Checksum

/-!
# The hierarchy of the checks

Equal rows have equal buckets, equal buckets have equal buckets at every
shorter prefix length, and equal buckets have equal totals. A bucket of a
longer prefix length belongs to the bucket its name is cut to.
-/

namespace KubeDataGuard

/-! ## Buckets of two lengths -/

theorem idPrefix_idPrefix {p q : Nat} (le : p ≤ q) (id : String) :
    idPrefix p (idPrefix q id) = idPrefix p id := by
  simp [idPrefix, List.take_take, Nat.min_eq_left le]

section Prefix

variable {α : Type} (bucket : α → String) (weight : α → Int × Int × Int)
  (updatedAt : α → Option String)

theorem table_entries (rows : List α) {keys : List String}
    (all : ∀ k ∈ keys, k ∈ rows.foldl (addRow bucket weight updatedAt) ∅) :
    (keys.filterMap (rows.foldl (addRow bucket weight updatedAt) ∅).lookup).map
      (fun s => (s.bucket, s.totals)) = keys.map fun k => (k, Tally.total bucket weight k rows) := by
  induction keys with
  | nil => rfl
  | cons k keys ih =>
    obtain ⟨s, found⟩ := Option.isSome_iff_exists.mp
      (AList.lookup_isSome.mpr (all k List.mem_cons_self))
    obtain ⟨hbucket, htotals⟩ := (lookup_addRows bucket weight updatedAt rows k).1 s found
    have rest := ih fun j hj => all j (List.mem_cons_of_mem k hj)
    simp only [List.filterMap_cons, found, List.map_cons, hbucket, htotals, rest]

/-- The loop's table has one entry for each bucket there is. -/
theorem summarizeRowsByPrefix_eq (rows : List α) :
    ∃ keys : List String, keys.Nodup ∧ (∀ row ∈ rows, bucket row ∈ keys) ∧
      (summarizeRowsByPrefix bucket weight updatedAt rows).map
        (fun s => (s.bucket, s.totals)) =
          keys.map fun k => (k, Tally.total bucket weight k rows) := by
  refine ⟨(rows.foldl (addRow bucket weight updatedAt) ∅).keys.insertionSort (· ≤ ·),
    (List.perm_insertionSort _ _).nodup_iff.mpr (AList.keys_nodup _), ?_, ?_⟩
  · intro row hr
    rw [List.mem_insertionSort, ← AList.mem_keys, (lookup_addRows _ _ _ _ _).2]
    exact ⟨row, hr, rfl⟩
  · exact table_entries bucket weight updatedAt rows fun k hk =>
      AList.mem_keys.mpr ((List.mem_insertionSort _).mp hk)

/-- Every bucket of a table holds the sums over the buckets of a finer table
whose names are cut to its own. -/
theorem bucket_totals_refine (coarse : String → String) (updatedAt' : α → Option String)
    (rows : List α) :
    ∀ s ∈ summarizeRowsByPrefix (fun a => coarse (bucket a)) weight updatedAt' rows,
      s.totals = (((summarizeRowsByPrefix bucket weight updatedAt rows).filter
        fun c => coarse c.bucket = s.bucket).map Bucket.totals).sum := by
  intro s hs
  obtain ⟨keys, nodup, cover, heq⟩ := summarizeRowsByPrefix_eq bucket weight updatedAt rows
  obtain ⟨keys', -, -, heq'⟩ :=
    summarizeRowsByPrefix_eq (fun a => coarse (bucket a)) weight updatedAt' rows
  have htotals : s.totals = Tally.total (fun a => coarse (bucket a)) weight s.bucket rows := by
    have hmem := List.mem_map_of_mem (f := fun s : Bucket => (s.bucket, s.totals)) hs
    rw [heq'] at hmem
    obtain ⟨k, -, hk⟩ := List.mem_map.mp hmem
    obtain ⟨hb, ht⟩ := Prod.ext_iff.mp hk
    simp only at hb ht
    rw [← ht, hb]
  have finer : ((summarizeRowsByPrefix bucket weight updatedAt rows).filter
      fun c => coarse c.bucket = s.bucket).map Bucket.totals =
        (keys.filter fun k => coarse k = s.bucket).map fun k => Tally.total bucket weight k rows := by
    have pairs := congrArg (fun l : List (String × (Int × Int × Int)) =>
      (l.filter fun e => coarse e.1 = s.bucket).map Prod.snd) heq
    simpa only [List.filter_map, List.map_map, Function.comp_def] using pairs
  rw [htotals, finer, Tally.total_coarse bucket weight coarse rows nodup cover]

end Prefix

/-! ## Equal rows -/

section Rows

variable {source : List Order} {target : List Document}

/-- Lists of rows that have the same ids, each with the same weight, are
permutations of each other as far as a bucket can tell. -/
theorem weights_perm (distinct : (source.map Order.id).Nodup)
    (distinct' : (target.map Document.id).Nodup)
    (present : ∀ o ∈ source, ∃ d ∈ target, d.id = some o.id ∧ d.weight = o.weight)
    (known : ∀ d ∈ target, ∃ o ∈ source, d.id = some o.id) :
    (source.map fun o => (some o.id, o.weight)).Perm (target.map fun d => (d.id, d.weight)) := by
  have nodup : (source.map fun o => (some o.id, o.weight)).Nodup := by
    apply List.Nodup.of_map Prod.fst
    have ids := distinct.map (Option.some_injective String)
    simpa only [List.map_map, Function.comp_def] using ids
  have nodup' : (target.map fun d => (d.id, d.weight)).Nodup := by
    apply List.Nodup.of_map Prod.fst
    simpa only [List.map_map, Function.comp_def] using distinct'
  rw [List.perm_ext_iff_of_nodup nodup nodup']
  intro entry
  simp only [List.mem_map]
  constructor
  · rintro ⟨o, ho, rfl⟩
    obtain ⟨d, hd, hid, hweight⟩ := present o ho
    exact ⟨d, hd, by rw [hid, hweight]⟩
  · rintro ⟨d, hd, rfl⟩
    obtain ⟨o, ho, hid⟩ := known d hd
    obtain ⟨d', hd', hid', hweight⟩ := present o ho
    have same : d' = d := List.inj_on_of_nodup_map distinct' hd' hd (hid'.trans hid.symm)
    exact ⟨o, ho, by rw [hid, ← hweight, same]⟩

theorem totals_of_equal_rows (distinct : (source.map Order.id).Nodup)
    (distinct' : (target.map Document.id).Nodup)
    (present : ∀ o ∈ source, ∃ d ∈ target, d.id = some o.id ∧ d.weight = o.weight)
    (known : ∀ d ∈ target, ∃ o ∈ source, d.id = some o.id) (n : Nat) (bucket : String) :
    sourceTotals source n bucket = targetTotals target n bucket := by
  have perm := weights_perm distinct distinct' present known
  have totals := Tally.total_perm (fun e : Option String × (Int × Int × Int) =>
    idPrefix n (e.1.getD "")) Prod.snd perm bucket
  rw [Tally.total_map, Tally.total_map] at totals
  exact totals

theorem bucket_idPrefix {p q : Nat} (le : p ≤ q) :
    (fun o : Order => idPrefix p (o.bucket q)) = Order.bucket p ∧
      (fun d : Document => idPrefix p (d.bucket q)) = Document.bucket p := by
  constructor
  · funext o
    exact idPrefix_idPrefix le o.id
  · funext d
    exact idPrefix_idPrefix le (d.id.getD "")

/-- Equal buckets are equal at every shorter length. -/
theorem totals_shorter {p q : Nat} (le : p ≤ q)
    (h : ∀ bucket, sourceTotals source q bucket = targetTotals target q bucket) (bucket : String) :
    sourceTotals source p bucket = targetTotals target p bucket := by
  have coarse := Tally.totals_coarse (idPrefix p) h bucket
  rw [(bucket_idPrefix le).1, (bucket_idPrefix le).2] at coarse
  exact coarse

end Rows

section Hierarchy

variable (source : List Order) (target : List Document)

/-- What the two tables of one length differ on. -/
def bucketMismatches (length : Nat) : List BucketMismatch :=
  (compareBucketSummaries (sourceBuckets source length) (targetBuckets target length)).2.2

variable {source target}

theorem bucketMismatches_nil_iff {length : Nat}
    (free : CollisionFree (sourceTotals source length) (targetTotals target length)) :
    bucketMismatches source target length = [] ↔
      ∀ bucket, sourceTotals source length bucket = targetTotals target length bucket := by
  rw [← fingerprints_agree_iff free, bucketMismatches, mismatches_nil_iff]
  simp only [sourceBuckets, targetBuckets, tableTotals_summarizeRowsByPrefix, sourceTotals,
    targetTotals]

/-- Equal buckets have equal aggregates. -/
theorem aggregates_of_totals {length : Nat} (ev : Evidence)
    (amounts : ∀ d ∈ target, d.amountCents.isSome = true)
    (h : ∀ bucket, sourceTotals source length bucket = targetTotals target length bucket) :
    ∃ summary, summarizePaidDocuments target = .ok summary ∧
      (comparePaidOrderAggregates (summarizePaidOrders source) summary ev).healthy = true := by
  obtain ⟨summary, run, count, total⟩ := summarizePaidDocuments_ok amounts
  have sums : (source.map Order.weight).sum = (target.map Document.weight).sum :=
    Tally.sums_of_totals h
  rw [Order.sum_weight, Document.sum_weight, Prod.mk.injEq, Prod.mk.injEq] at sums
  refine ⟨summary, run, comparePaidOrderAggregates_healthy.mpr ⟨?_, ?_⟩⟩
  · rw [count]
    exact sums.1
  · rw [total]
    exact sums.2.1

/-- Equal rows, then equal buckets of a length, then equal buckets of a shorter
length, then equal aggregates: each check finds what the next one finds. -/
theorem checks_hierarchy (source : List Order) (target : List Document) {p q : Nat} (le : p ≤ q)
    (ev : Evidence)
    (distinct : (source.map Order.id).Nodup) (distinct' : (target.map Document.id).Nodup)
    (complete : ∀ d ∈ target, d.id.isSome = true ∧ d.amountCents.isSome = true ∧
      d.version.isSome = true)
    (free : ∀ length, CollisionFree (sourceTotals source length) (targetTotals target length)) :
    ((∀ id, some id ∈ target.map Document.id ↔ id ∈ source.map Order.id) →
      (∀ o ∈ source, ∀ d ∈ target, d.id = some o.id →
        d.amountCents = some o.amountCents ∧ d.version = some o.version) →
      bucketMismatches source target q = []) ∧
    (bucketMismatches source target q = [] → bucketMismatches source target p = []) ∧
    (bucketMismatches source target p = [] →
      ∃ summary, summarizePaidDocuments target = .ok summary ∧
        (comparePaidOrderAggregates (summarizePaidOrders source) summary ev).healthy = true) ∧
    (∀ s ∈ sourceBuckets source p, s.totals = (((sourceBuckets source q).filter fun c =>
      idPrefix p c.bucket = s.bucket).map Bucket.totals).sum) ∧
    (∀ s ∈ targetBuckets target p, s.totals = (((targetBuckets target q).filter fun c =>
      idPrefix p c.bucket = s.bucket).map Bucket.totals).sum) := by
  refine ⟨?_, ?_, ?_, ?_, ?_⟩
  · intro ids agree
    rw [bucketMismatches_nil_iff (free q)]
    apply totals_of_equal_rows distinct distinct'
    · intro o ho
      obtain ⟨d, hd, hid⟩ := List.mem_map.mp ((ids o.id).mpr (List.mem_map_of_mem ho))
      obtain ⟨amount, version⟩ := agree o ho d hd hid
      exact ⟨d, hd, hid, by rw [Document.weight, Order.weight, amount, version]; rfl⟩
    · intro d hd
      obtain ⟨id, hid⟩ := Option.isSome_iff_exists.mp (complete d hd).1
      have known := (ids id).mp (hid ▸ List.mem_map_of_mem hd)
      obtain ⟨o, ho, rfl⟩ := List.mem_map.mp known
      exact ⟨o, ho, hid⟩
  · rw [bucketMismatches_nil_iff (free q), bucketMismatches_nil_iff (free p)]
    exact totals_shorter le
  · rw [bucketMismatches_nil_iff (free p)]
    exact aggregates_of_totals ev fun d hd => (complete d hd).2.1
  · have refined := bucket_totals_refine (Order.bucket q) Order.weight
      (fun o => some (iso o.updatedAt)) (idPrefix p) (fun o => some (iso o.updatedAt)) source
    rw [(bucket_idPrefix le).1] at refined
    exact refined
  · have refined := bucket_totals_refine (Document.bucket q) Document.weight
      (fun d => d.updatedAt.map Stamp.text) (idPrefix p) (fun d => d.updatedAt.map Stamp.text) target
    rw [(bucket_idPrefix le).2] at refined
    exact refined

end Hierarchy

/-! Three orders in two buckets of length one and three of length two; one id is
shorter than the longer length. The documents stand in another order and one has
another currency. -/

def hierarchyOrders : List Order :=
  [{ paidOrder with id := "a" }, { paidOrder with id := "ab", amountCents := 7 },
    { paidOrder with id := "ba", version := 4 }]

def hierarchyDocuments : List Document :=
  [orderDocument { paidOrder with id := "ba", version := 4 } 0 none,
    { orderDocument { paidOrder with id := "a" } 0 none with currency := some "EUR" },
    orderDocument { paidOrder with id := "ab", amountCents := 7 } 0 none]

theorem hierarchy_totals (length : Nat) (bucket : String) :
    sourceTotals hierarchyOrders length bucket = targetTotals hierarchyDocuments length bucket := by
  apply totals_of_equal_rows
  · decide +kernel
  · decide +kernel
  · decide +kernel
  · decide +kernel

theorem checks_hierarchy_orders :
    bucketMismatches hierarchyOrders hierarchyDocuments 1 = [] ∧
      ∃ summary, summarizePaidDocuments hierarchyDocuments = .ok summary ∧
        (comparePaidOrderAggregates (summarizePaidOrders hierarchyOrders) summary
          noEvidence).healthy = true := by
  obtain ⟨equal, shorter, aggregates, -⟩ := checks_hierarchy hierarchyOrders hierarchyDocuments
    (p := 1) (q := 2) (by decide) noEvidence (by decide +kernel) (by decide +kernel)
    (by decide +kernel)
    fun length bucket _ => congrArg fingerprintText (hierarchy_totals length bucket)
  have ids : ∀ id, some id ∈ hierarchyDocuments.map Document.id ↔
      id ∈ hierarchyOrders.map Order.id := by
    intro id
    simp only [hierarchyDocuments, hierarchyOrders, orderDocument, paidOrder, List.map_cons,
      List.map_nil, List.mem_cons, Option.some.injEq, List.not_mem_nil, or_false]
    exact or_rotate
  have finer := equal ids (by decide +kernel)
  have none := shorter finer
  exact ⟨none, aggregates none⟩

end KubeDataGuard
