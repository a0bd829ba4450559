import Mathlib.Data.String.Basic
import Mathlib.Data.List.AList
import Mathlib.Algebra.Group.Prod
import Mathlib.Algebra.Group.Int.Defs
import KubeDataGuard.General.Tally
import KubeDataGuard.Worker.Python

/-!
# Orders and documents

The `orders` table and the search index over it: what the statements of `db`
and the requests of `search` return for given contents. `now()` is the time a
statement runs, and `left(id::text, n)` and the prefix scripts cut an id alike.
-/

namespace KubeDataGuard

structure Order where
  id : String
  customerId : String
  status : String
  amountCents : Int
  currency : String
  version : Int
  createdAt : Instant
  updatedAt : Instant
  deriving DecidableEq, Repr

inductive Scalar
  | str (s : String)
  | int (n : Int)
  deriving DecidableEq, Repr

def Scalar.toJson : Scalar → Json
  | .str s => .str s
  | .int n => .int n

def scalarJson : Option Scalar → Json
  | some s => s.toJson
  | none => .null

/-- `serialize_order(row).get(field)` -/
def Order.get (o : Order) : String → Option Scalar
  | "id" => some (.str o.id)
  | "customer_id" => some (.str o.customerId)
  | "status" => some (.str o.status)
  | "amount_cents" => some (.int o.amountCents)
  | "currency" => some (.str o.currency)
  | "version" => some (.int o.version)
  | "created_at" => some (.str (iso o.createdAt))
  | "updated_at" => some (.str (iso o.updatedAt))
  | _ => none

def orderColumns : List String :=
  ["id", "customer_id", "status", "amount_cents", "currency", "version", "created_at", "updated_at"]

def serializeOrder (o : Order) : Json :=
  .obj (orderColumns.map fun field => (field, scalarJson (o.get field)))

/-- A time as a document carries it: the text and the time it parses to. -/
structure Stamp where
  text : String
  time : Instant
  deriving DecidableEq, Repr

structure EventMetadata where
  eventId : Option String
  eventType : Option String
  topic : Option String
  partition : Option Int
  offset : Option Int
  deriving DecidableEq, Repr

/-- A document of the search index; a field it does not have is `none`. -/
structure Document where
  id : Option String := none
  customerId : Option String := none
  status : Option String := none
  amountCents : Option Int := none
  currency : Option String := none
  version : Option Int := none
  createdAt : Option Stamp := none
  updatedAt : Option Stamp := none
  indexedAt : Option Stamp := none
  indexedFrom : Option String := none
  event : Option EventMetadata := none
  deriving DecidableEq, Repr

def Document.get (d : Document) : String → Option Scalar
  | "id" => d.id.map .str
  | "customer_id" => d.customerId.map .str
  | "status" => d.status.map .str
  | "amount_cents" => d.amountCents.map .int
  | "currency" => d.currency.map .str
  | "version" => d.version.map .int
  | "created_at" => d.createdAt.map fun t => .str t.text
  | "updated_at" => d.updatedAt.map fun t => .str t.text
  | "indexed_at" => d.indexedAt.map fun t => .str t.text
  | "dataguard_indexed_from" => d.indexedFrom.map .str
  | "dataguard_event_id" => (d.event.bind EventMetadata.eventId).map .str
  | "dataguard_event_type" => (d.event.bind EventMetadata.eventType).map .str
  | "dataguard_topic" => (d.event.bind EventMetadata.topic).map .str
  | "dataguard_partition" => (d.event.bind EventMetadata.partition).map .int
  | "dataguard_offset" => (d.event.bind EventMetadata.offset).map .int
  | _ => none

def Document.toJson (d : Document) : Json :=
  .obj ((orderColumns ++ ["indexed_at", "dataguard_indexed_from", "dataguard_event_id",
    "dataguard_event_type", "dataguard_topic", "dataguard_partition", "dataguard_offset"]).filterMap
    fun field => (d.get field).map fun value => (field, value.toJson))

/-! ## The index -/

abbrev Index := AList fun _ : String => Document

/-- The body `index_order` writes at time `now`. -/
def orderDocument (o : Order) (now : Instant) (metadata : Option EventMetadata) : Document where
  id := some o.id
  customerId := some o.customerId
  status := some o.status
  amountCents := some o.amountCents
  currency := some o.currency
  version := some o.version
  createdAt := some ⟨iso o.createdAt, o.createdAt⟩
  updatedAt := some ⟨iso o.updatedAt, o.updatedAt⟩
  indexedAt := some ⟨strftimeUtc now, seconds (now.fdiv 1000000)⟩
  indexedFrom := some (if metadata.isSome then "kafka" else "source")
  event := metadata

def indexOrder (index : Index) (o : Order) (now : Instant) (metadata : Option EventMetadata) :
    Index :=
  index.insert o.id (orderDocument o now metadata)

def Index.values (index : Index) : List Document := index.entries.map fun e => e.2

theorem Index.values_map (index : Index) {α : Type} (f : Document → α) (other : α) :
    index.values.map f = index.keys.map fun id => ((index.lookup id).map f).getD other := by
  rw [values, AList.keys, List.keys, List.map_map, List.map_map]
  apply List.map_congr_left
  intro e he
  have found : index.lookup e.1 = some e.2 := AList.mem_lookup_iff.mpr he
  rw [Function.comp_apply, Function.comp_apply, found]
  rfl

/-- `mget_orders`: the documents found, by id. -/
def mgetOrders (index : Index) (ids : List String) (id : String) : Option Document :=
  if id ∈ ids then index.lookup id else none

theorem Index.mem_values {index : Index} {d : Document} :
    d ∈ index.values ↔ ∃ id, index.lookup id = some d := by
  rw [values, List.mem_map]
  constructor
  · rintro ⟨e, he, rfl⟩
    exact ⟨e.1, AList.mem_lookup_iff.mpr he⟩
  · rintro ⟨id, found⟩
    exact ⟨⟨id, d⟩, AList.mem_lookup_iff.mp found, rfl⟩

theorem lookup_indexOrder (index : Index) (o : Order) (now : Instant)
    (metadata : Option EventMetadata) :
    (indexOrder index o now metadata).lookup o.id = some (orderDocument o now metadata) :=
  AList.lookup_insert index

theorem lookup_indexOrder_ne (index : Index) (o : Order) (now : Instant)
    (metadata : Option EventMetadata) {id : String} (h : id ≠ o.id) :
    (indexOrder index o now metadata).lookup id = index.lookup id :=
  AList.lookup_insert_ne h

/-! ## Statements over the table -/

def Order.paidBy (until_ : Instant) (o : Order) : Bool :=
  decide (o.status = "paid") && decide (o.updatedAt ≤ until_)

def paidUntil (rows : List Order) (until_ : Instant) : List Order :=
  rows.filter (Order.paidBy until_)

def fetchPaidOrders (rows : List Order) (now : Instant) (maxLagSeconds : Int) : List Order :=
  (paidUntil rows (now - seconds maxLagSeconds)).insertionSort fun a b =>
    a.updatedAt < b.updatedAt ∨ a.updatedAt = b.updatedAt ∧ a.id ≤ b.id

def fetchOrdersByIds (rows : List Order) (ids : List String) : List Order :=
  (rows.filter fun o => decide (o.id ∈ ids)).insertionSort fun a b =>
    a.updatedAt < b.updatedAt ∨ a.updatedAt = b.updatedAt ∧ a.id ≤ b.id

theorem mem_fetchOrdersByIds {rows : List Order} {ids : List String} {o : Order} :
    o ∈ fetchOrdersByIds rows ids ↔ o ∈ rows ∧ o.id ∈ ids := by
  simp [fetchOrdersByIds, List.mem_insertionSort]

theorem fetchOrdersByIds_nodup {rows : List Order} (nodup : (rows.map Order.id).Nodup)
    (ids : List String) : ((fetchOrdersByIds rows ids).map Order.id).Nodup := by
  have perm := (List.perm_insertionSort (fun a b : Order =>
    a.updatedAt < b.updatedAt ∨ a.updatedAt = b.updatedAt ∧ a.id ≤ b.id)
    (rows.filter fun o => decide (o.id ∈ ids))).map Order.id
  exact perm.nodup_iff.mpr (nodup.sublist (List.filter_sublist.map _))

def latestUpdate : List Order → Option String
  | [] => none
  | o :: rest => some (iso (rest.foldl (fun t o => max t o.updatedAt) o.updatedAt))

structure OrderSummary where
  count : Int
  totalAmountCents : Int
  sourceWatermark : Option String := none
  deriving DecidableEq, Repr

def fetchPaidOrderSummary (rows : List Order) (now : Instant) (maxLagSeconds : Int) :
    OrderSummary :=
  let paid := paidUntil rows (now - seconds maxLagSeconds)
  { count := paid.length
    totalAmountCents := (paid.map Order.amountCents).sum
    sourceWatermark := latestUpdate paid }

/-- Bounds of `bounded_prefix_length`, the same in `db` and `search`. -/
def boundedPrefixLength (value : Int) : Except Raised Nat :=
  if value < 1 then .error (valueError "checksum prefix length must be at least 1")
  else .ok (min value 12).toNat

def idPrefix (length : Nat) (id : String) : String := String.ofList (id.toList.take length)

/-- What one row adds to the count, the amount and the versions of its bucket. -/
def Order.weight (o : Order) : Int × Int × Int := (1, o.amountCents, o.version)

def Document.weight (d : Document) : Int × Int × Int :=
  (1, d.amountCents.getD 0, d.version.getD 0)

theorem sum_weights {α : Type} (amount version : α → Int) (rows : List α) :
    (rows.map fun a => ((1 : Int), amount a, version a)).sum =
      ((rows.length : Int), (rows.map amount).sum, (rows.map version).sum) := by
  induction rows with
  | nil => rfl
  | cons a rows ih =>
    rw [List.map_cons, List.sum_cons, ih]
    simp only [Prod.mk_add_mk, List.length_cons, List.map_cons, List.sum_cons, Nat.cast_add,
      Nat.cast_one, add_comm (1 : Int)]

theorem Order.sum_weight (rows : List Order) : (rows.map Order.weight).sum =
    ((rows.length : Int), (rows.map Order.amountCents).sum, (rows.map Order.version).sum) :=
  sum_weights Order.amountCents Order.version rows

theorem Document.sum_weight (rows : List Document) : (rows.map Document.weight).sum =
    ((rows.length : Int), (rows.map fun d => d.amountCents.getD 0).sum,
      (rows.map fun d => d.version.getD 0).sum) :=
  sum_weights (fun d : Document => d.amountCents.getD 0) (fun d => d.version.getD 0) rows

structure Bucket where
  bucket : String
  count : Int
  totalAmountCents : Int
  versionSum : Int
  sourceWatermark : Option String
  deriving DecidableEq, Repr

def Bucket.totals (b : Bucket) : Int × Int × Int := (b.count, b.totalAmountCents, b.versionSum)

def Bucket.ofTotals (bucket : String) (totals : Int × Int × Int) (sourceWatermark : Option String) :
    Bucket :=
  ⟨bucket, totals.1, totals.2.1, totals.2.2, sourceWatermark⟩

@[simp] theorem Bucket.totals_ofTotals (bucket : String) (totals : Int × Int × Int)
    (watermark : Option String) : (ofTotals bucket totals watermark).totals = totals := rfl

@[simp] theorem Bucket.bucket_ofTotals (bucket : String) (totals : Int × Int × Int)
    (watermark : Option String) : (ofTotals bucket totals watermark).bucket = bucket := rfl

/-- The groups there are, in order. -/
def bucketKeys {α : Type} (key : α → String) (rows : List α) : List String :=
  (rows.map key).dedup.insertionSort (· ≤ ·)

theorem mem_bucketKeys {α : Type} {key : α → String} {rows : List α} {b : String} :
    b ∈ bucketKeys key rows ↔ ∃ a ∈ rows, key a = b := by
  simp [bucketKeys, List.mem_insertionSort]

theorem bucketKeys_nodup {α : Type} (key : α → String) (rows : List α) :
    (bucketKeys key rows).Nodup :=
  (List.perm_insertionSort _ _).nodup_iff.mpr (List.nodup_dedup _)

theorem bucketKeys_length_le {α : Type} (key : α → String) (rows : List α) :
    (bucketKeys key rows).length ≤ rows.length := by
  rw [bucketKeys, List.length_insertionSort, ← List.length_map (f := key)]
  exact (List.dedup_sublist _).length_le

def Order.bucket (length : Nat) (o : Order) : String := idPrefix length o.id

/-- `doc['id']` of a document without an id is empty, and so is its bucket. -/
def Document.bucket (length : Nat) (d : Document) : String := idPrefix length (d.id.getD "")

/-- `group by left(id::text, n)` -/
def paidOrderBucketSummaries (rows : List Order) (now : Instant) (maxLagSeconds : Int)
    (length : Nat) : List Bucket :=
  let paid := paidUntil rows (now - seconds maxLagSeconds)
  (bucketKeys (Order.bucket length) paid).map fun b =>
    Bucket.ofTotals b (Tally.total (Order.bucket length) Order.weight b paid)
      (latestUpdate (paid.filter fun o => o.bucket length = b))

def fetchPaidOrdersByIdPrefix (rows : List Order) (prefixes : List String) (length : Nat)
    (now : Instant) (maxLagSeconds : Int) : List Order :=
  ((paidUntil rows (now - seconds maxLagSeconds)).filter fun o =>
    decide (o.bucket length ∈ prefixes.filter (· ≠ ""))).insertionSort fun a b => a.id ≤ b.id

/-! ## Requests to the index -/

/-- The `size` of the bucket aggregation. -/
def maxBuckets : Nat := 65536

/-- A search counts its hits no further unless `track_total_hits` says so. -/
def maxTotalHits : Nat := 10000

def Document.paidBy (until_ : Instant) (d : Document) : Bool :=
  decide (d.status = some "paid") && d.updatedAt.any fun t => decide (t.time ≤ until_)

namespace Search

/-- The filters every request makes: paid, and not updated after `updatedBefore`. -/
def paidUntil (index : Index) (updatedBefore : Instant) : List Document :=
  (index.entries.map Sigma.snd).filter (Document.paidBy updatedBefore)

def paidOrderSummary (index : Index) (updatedBefore : Instant) : OrderSummary :=
  let paid := paidUntil index updatedBefore
  { count := (min paid.length maxTotalHits : Nat)
    totalAmountCents := (paid.map fun d => d.amountCents.getD 0).sum }

/-- The buckets with the most documents, as many as the aggregation may return. -/
def paidOrderBucketSummaries (index : Index) (updatedBefore : Instant) (length : Nat) :
    List Bucket :=
  let paid := paidUntil index updatedBefore
  let buckets := (bucketKeys (Document.bucket length) paid).map fun b =>
    Bucket.ofTotals b (Tally.total (Document.bucket length) Document.weight b paid) none
  ((buckets.insertionSort fun a b => b.count < a.count ∨ a.count = b.count ∧ a.bucket ≤ b.bucket).take
    maxBuckets).insertionSort fun a b => a.bucket ≤ b.bucket

def fetchPaidOrdersByIdPrefix (index : Index) (prefixes : List String) (length : Nat)
    (updatedBefore : Instant) : List Document :=
  ((paidUntil index updatedBefore).filter fun d =>
    decide (d.id.isSome) && decide (d.bucket length ∈ prefixes.filter (· ≠ ""))).insertionSort
    fun a b => a.id.getD "" ≤ b.id.getD ""

/-- The buckets a request returns hold their totals; only `maxBuckets` are returned. -/
theorem paidOrderBucketSummaries_spec (index : Index) (updatedBefore : Instant) (length : Nat) :
    (∀ row ∈ paidOrderBucketSummaries index updatedBefore length,
      row.totals = Tally.total (Document.bucket length) Document.weight row.bucket
        (paidUntil index updatedBefore)) ∧
    ((paidOrderBucketSummaries index updatedBefore length).map Bucket.bucket).Nodup ∧
    (paidOrderBucketSummaries index updatedBefore length).map Bucket.bucket ⊆
      bucketKeys (Document.bucket length) (paidUntil index updatedBefore) ∧
    (paidOrderBucketSummaries index updatedBefore length).length =
      min maxBuckets (bucketKeys (Document.bucket length) (paidUntil index updatedBefore)).length := by
  obtain ⟨all, hall⟩ : ∃ all, all = (bucketKeys (Document.bucket length)
    (paidUntil index updatedBefore)).map fun b => Bucket.ofTotals b
      (Tally.total (Document.bucket length) Document.weight b (paidUntil index updatedBefore)) none :=
    ⟨_, rfl⟩
  obtain ⟨sorted, hsorted⟩ : ∃ sorted, sorted = all.insertionSort fun a b =>
      b.count < a.count ∨ a.count = b.count ∧ a.bucket ≤ b.bucket := ⟨_, rfl⟩
  have permSorted : sorted.Perm all := hsorted ▸ List.perm_insertionSort _ all
  have perm : (paidOrderBucketSummaries index updatedBefore length).Perm (sorted.take maxBuckets) := by
    rw [hsorted, hall]
    exact List.perm_insertionSort _ _
  have buckets : all.map Bucket.bucket =
      bucketKeys (Document.bucket length) (paidUntil index updatedBefore) := by
    simp [hall, Function.comp_def]
  have sub : ((sorted.take maxBuckets).map Bucket.bucket).Sublist (sorted.map Bucket.bucket) :=
    (List.take_sublist _ _).map _
  have permBuckets := permSorted.map Bucket.bucket
  rw [buckets] at permBuckets
  refine ⟨?_, ?_, ?_, ?_⟩
  · intro row hr
    have hmem := permSorted.subset (List.mem_of_mem_take (perm.subset hr))
    rw [hall] at hmem
    obtain ⟨b, -, rfl⟩ := List.mem_map.mp hmem
    rfl
  · rw [(perm.map Bucket.bucket).nodup_iff]
    exact (permBuckets.nodup_iff.mpr (bucketKeys_nodup _ _)).sublist sub
  · intro b hb
    exact permBuckets.subset (sub.subset ((perm.map Bucket.bucket).subset hb))
  · rw [perm.length_eq, List.length_take, ← permBuckets.length_eq, List.length_map]

end Search

end KubeDataGuard
