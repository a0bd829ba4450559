import KubeDataGuard.Worker.Compare

/-!
# What the checksum comparison sees

The checksum comparison of a list of orders with a list of documents: bucket
summaries per id prefix, then the rows of the mismatched buckets. It sees the
count, the amount and the versions of each bucket and nothing else.
-/

namespace KubeDataGuard

section Comparison

variable (source : List Order) (target : List Document) (prefixLength : Nat) (ev : Evidence)

def sourceBuckets : List Bucket :=
  summarizeRowsByPrefix (Order.bucket prefixLength) Order.weight (fun o => some (iso o.updatedAt))
    source

def targetBuckets : List Bucket :=
  summarizeRowsByPrefix (Document.bucket prefixLength) Document.weight
    (fun d => d.updatedAt.map Stamp.text) target

/-- The prefixes to drill into. -/
def drilledPrefixes : List String :=
  mismatchedBucketKeys (compareBucketSummaries (sourceBuckets source prefixLength)
    (targetBuckets target prefixLength)).2.2

def checksumComparison : DriftReport :=
  comparePaidOrderChecksumBuckets (sourceBuckets source prefixLength)
    (targetBuckets target prefixLength)
    (source.filter fun o => decide (o.bucket prefixLength ∈ drilledPrefixes source target prefixLength))
    (target.filter fun d => decide (d.bucket prefixLength ∈ drilledPrefixes source target prefixLength))
    prefixLength ev

/-- The row-level comparison of the same rows. -/
def rowComparison : DriftReport :=
  comparePaidOrdersToIndex source (fun id => target.reverse.find? fun d => d.id == some id) ev

def sourceTotals (bucket : String) : Int × Int × Int :=
  Tally.total (Order.bucket prefixLength) Order.weight bucket source

def targetTotals (bucket : String) : Int × Int × Int :=
  Tally.total (Document.bucket prefixLength) Document.weight bucket target

variable {source target prefixLength ev}

theorem checksumComparison_healthy_iff :
    (checksumComparison source target prefixLength ev).healthy = true ↔ ∀ bucket,
      Digest.sha256Hex (fingerprintText (sourceTotals source prefixLength bucket)) =
        Digest.sha256Hex (fingerprintText (targetTotals target prefixLength bucket)) := by
  unfold checksumComparison
  rw [comparePaidOrderChecksumBuckets_healthy, mismatches_nil_iff]
  · simp only [sourceBuckets, targetBuckets, tableTotals_summarizeRowsByPrefix, sourceTotals,
      targetTotals]
  · intro agree
    simp [drilledPrefixes, agree, mismatchedBucketKeys]

end Comparison

/-- SHA-256 tells the compared fingerprint texts apart. -/
def CollisionFree (s t : String → Int × Int × Int) : Prop :=
  ∀ bucket, Digest.sha256Hex (fingerprintText (s bucket)) =
    Digest.sha256Hex (fingerprintText (t bucket)) →
      fingerprintText (s bucket) = fingerprintText (t bucket)

theorem fingerprints_agree_iff {s t : String → Int × Int × Int} (free : CollisionFree s t) :
    (∀ bucket, Digest.sha256Hex (fingerprintText (s bucket)) =
      Digest.sha256Hex (fingerprintText (t bucket))) ↔ ∀ bucket, s bucket = t bucket := by
  constructor
  · intro h bucket
    exact fingerprintText_injective (free bucket (h bucket))
  · intro h bucket
    rw [h bucket]

/-- The checksum comparison is Healthy exactly when every id prefix has the same
number of orders, total amount and sum of versions on both sides. -/
theorem checksum_healthy_iff_bucket_totals (source : List Order) (target : List Document)
    (prefixLength : Nat) (ev : Evidence)
    (free : CollisionFree (sourceTotals source prefixLength) (targetTotals target prefixLength)) :
    (checksumComparison source target prefixLength ev).healthy = true ↔
      ∀ bucket, sourceTotals source prefixLength bucket = targetTotals target prefixLength bucket := by
  rw [checksumComparison_healthy_iff, fingerprints_agree_iff free]

/-! A document whose currency drifted: every bucket has the same totals. -/

def paidOrder : Order where
  id := "7c1d"
  customerId := "customer-1"
  status := "paid"
  amountCents := 1000
  currency := "USD"
  version := 1
  createdAt := 0
  updatedAt := 0

def driftedCurrency : Document := { orderDocument paidOrder 0 none with currency := some "EUR" }

def noEvidence : Evidence where
  maxLagSeconds := 60
  checkedAt := seconds 100
  targetReadAt := seconds 100
  streamTopic := none
  streamOffsetStart := none
  streamOffsetEnd := none
  sourceLsn := none
  cdcFrontier := .null

theorem driftedCurrency_totals (bucket : String) :
    sourceTotals [paidOrder] 1 bucket = targetTotals [driftedCurrency] 1 bucket := by
  simp only [sourceTotals, targetTotals, Tally.total_cons, Tally.total_nil]
  rfl

theorem checksum_masks_currency_drift :
    (checksumComparison [paidOrder] [driftedCurrency] 1 noEvidence).healthy = true ∧
      (rowComparison [paidOrder] [driftedCurrency] noEvidence).healthy = false := by
  constructor
  · rw [checksumComparison_healthy_iff]
    intro bucket
    rw [driftedCurrency_totals]
  · decide +kernel

theorem checksum_healthy_iff_bucket_totals_currency :
    (checksumComparison [paidOrder] [driftedCurrency] 1 noEvidence).healthy = true ↔
      ∀ bucket, sourceTotals [paidOrder] 1 bucket = targetTotals [driftedCurrency] 1 bucket :=
  checksum_healthy_iff_bucket_totals [paidOrder] [driftedCurrency] 1 noEvidence
    fun bucket _ => congrArg fingerprintText (driftedCurrency_totals bucket)

end KubeDataGuard
