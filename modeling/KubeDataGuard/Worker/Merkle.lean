import Mathlib.Data.List.Induction
import KubeDataGuard.Digest
import KubeDataGuard.General.Texts
import KubeDataGuard.Worker.Orders
import KubeDataGuard.Worker.Report

/-!
# Bucket checksums

Bucket summaries per id prefix, their fingerprints and the buckets on which
two sides differ. `mismatches_nil_iff` reduces a comparison of two tables
to the totals each of them holds for every bucket.
-/

namespace KubeDataGuard

structure Summary extends Bucket where
  fingerprint : String
  deriving DecidableEq, Repr

/-- The text under a fingerprint. -/
def fingerprintText (totals : Int × Int × Int) : String :=
  toString totals.1 ++ "|" ++ toString totals.2.1 ++ "|" ++ toString totals.2.2

def bucketFingerprint (b : Bucket) : String := Digest.sha256Hex (fingerprintText b.totals)

def summarize (b : Bucket) : Summary := ⟨b, bucketFingerprint b⟩

def normalizeBucketSummaries (rows : List Bucket) : AList fun _ : String => Summary :=
  rows.foldl (fun summaries row => summaries.insert row.bucket (summarize row)) ∅

def emptyBucket (bucket : String) : Summary := summarize ⟨bucket, 0, 0, 0, none⟩

def mismatchReason (source target : Bucket) : String :=
  let differences :=
    (if source.count ≠ target.count then ["count"] else []) ++
    (if source.totalAmountCents ≠ target.totalAmountCents then ["total_amount_cents"] else []) ++
    (if source.versionSum ≠ target.versionSum then ["version_sum"] else [])
  if differences = [] then "bucket fingerprint differs"
  else "bucket differs on " ++ intercalateText ", " differences

structure BucketMismatch where
  bucket : String
  reason : String
  source : Summary
  target : Summary
  deriving DecidableEq, Repr

abbrev Summaries := AList fun _ : String => Summary

def Summaries.at (summaries : Summaries) (bucket : String) : Summary :=
  (summaries.lookup bucket).getD (emptyBucket bucket)

def compareBucketSummaries (sourceRows targetRows : List Bucket) :
    Summaries × Summaries × List BucketMismatch :=
  let source := normalizeBucketSummaries sourceRows
  let target := normalizeBucketSummaries targetRows
  let buckets := ((source.keys ++ target.keys).dedup).insertionSort (· ≤ ·)
  (source, target, buckets.filterMap fun bucket =>
    let sourceSummary := Summaries.at source bucket
    let targetSummary := Summaries.at target bucket
    if sourceSummary.fingerprint = targetSummary.fingerprint then none
    else some ⟨bucket, mismatchReason sourceSummary.toBucket targetSummary.toBucket,
      sourceSummary, targetSummary⟩)

def mismatchedBucketKeys (mismatches : List BucketMismatch) : List String :=
  ((mismatches.map BucketMismatch.bucket).dedup).insertionSort (· ≤ ·)

/-- One turn of the loop of `summarize_rows_by_prefix`. -/
def addRow {α : Type} (bucket : α → String) (weight : α → Int × Int × Int)
    (updatedAt : α → Option String) (buckets : AList fun _ : String => Bucket) (row : α) :
    AList fun _ : String => Bucket :=
  let b := bucket row
  let summary := (buckets.lookup b).getD (Bucket.ofTotals b 0 none)
  let watermark := match updatedAt row with
    | none => summary.sourceWatermark
    | some t =>
      if t = "" then summary.sourceWatermark
      else if summary.sourceWatermark.all fun w => decide (w < t) then some t
      else summary.sourceWatermark
  buckets.insert b (Bucket.ofTotals b (summary.totals + weight row) watermark)

def summarizeRowsByPrefix {α : Type} (bucket : α → String) (weight : α → Int × Int × Int)
    (updatedAt : α → Option String) (rows : List α) : List Bucket :=
  let buckets := rows.foldl (addRow bucket weight updatedAt) ∅
  (buckets.keys.insertionSort (· ≤ ·)).filterMap buckets.lookup

def Summary.toJson (s : Summary) : Json :=
  .obj [("bucket", .str s.bucket), ("count", .int s.count),
    ("total_amount_cents", .int s.totalAmountCents), ("version_sum", .int s.versionSum),
    ("source_watermark", optionalText s.sourceWatermark), ("fingerprint", .str s.fingerprint)]

def BucketMismatch.toJson (m : BucketMismatch) : Json :=
  .obj [("bucket", .str m.bucket), ("reason", .str m.reason), ("source", m.source.toJson),
    ("target", m.target.toJson)]

def checksumTreeEvidence (prefixLength : Int) (sourceBucketCount targetBucketCount : Nat)
    (mismatches : List BucketMismatch) (drilledSourceRows drilledTargetRows : Nat) : Json :=
  .obj [("mode", .str "prefix-bucket-checksum"), ("bucket_key", .str "id_prefix"),
    ("prefix_length", .int prefixLength), ("source_bucket_count", .int sourceBucketCount),
    ("target_bucket_count", .int targetBucketCount),
    ("mismatched_bucket_count", .int mismatches.length),
    ("mismatched_buckets", .arr ((mismatches.take 25).map BucketMismatch.toJson)),
    ("drilldown", .obj [("strategy", .str "fetch-only-mismatched-buckets"),
      ("source_rows", .int drilledSourceRows), ("target_rows", .int drilledTargetRows)]),
    ("fingerprint_fields", .arr [.str "count", .str "total_amount_cents", .str "version_sum"])]

/-! ## What a table of summaries holds -/

/-- The totals a table holds for a bucket; it holds zeros for a bucket it lacks. -/
def tableTotals (rows : List Bucket) (bucket : String) : Int × Int × Int :=
  (Summaries.at (normalizeBucketSummaries rows) bucket).totals

theorem normalize_snoc (rows : List Bucket) (row : Bucket) :
    normalizeBucketSummaries (rows ++ [row]) =
      (normalizeBucketSummaries rows).insert row.bucket (summarize row) := by
  simp [normalizeBucketSummaries, List.foldl_append]

/-- A table's entry for a bucket is the last of its rows for it. -/
theorem lookup_normalize {rows : List Bucket} {bucket : String} {s : Summary}
    (h : (normalizeBucketSummaries rows).lookup bucket = some s) :
    ∃ row ∈ rows, row.bucket = bucket ∧ s = summarize row := by
  induction rows using List.reverseRecOn with
  | nil => cases h
  | append_singleton rows row ih =>
    rw [normalize_snoc] at h
    by_cases hb : bucket = row.bucket
    · rw [hb, AList.lookup_insert] at h
      exact ⟨row, by simp, hb.symm, (Option.some.inj h).symm⟩
    · rw [AList.lookup_insert_ne hb] at h
      obtain ⟨r, hr, hrest⟩ := ih h
      exact ⟨r, List.mem_append_left _ hr, hrest⟩

theorem mem_normalize {rows : List Bucket} {bucket : String} :
    bucket ∈ normalizeBucketSummaries rows ↔ ∃ row ∈ rows, row.bucket = bucket := by
  induction rows using List.reverseRecOn with
  | nil => simp [normalizeBucketSummaries]
  | append_singleton rows row ih =>
    rw [normalize_snoc, AList.mem_insert, ih]
    constructor
    · rintro (rfl | ⟨r, hr, hb⟩)
      · exact ⟨row, by simp, rfl⟩
      · exact ⟨r, List.mem_append_left _ hr, hb⟩
    · rintro ⟨r, hr, hb⟩
      rcases List.mem_append.mp hr with hr | hr
      · exact Or.inr ⟨r, hr, hb⟩
      · rw [List.mem_singleton.mp hr] at hb
        exact Or.inl hb.symm

theorem fingerprint_at (rows : List Bucket) (bucket : String) :
    (Summaries.at (normalizeBucketSummaries rows) bucket).fingerprint =
      Digest.sha256Hex (fingerprintText (tableTotals rows bucket)) := by
  unfold tableTotals Summaries.at
  cases h : (normalizeBucketSummaries rows).lookup bucket with
  | none => rfl
  | some s =>
    obtain ⟨row, -, -, rfl⟩ := lookup_normalize h
    rfl

/-- The totals of a table whose rows agree with `totals` on their own buckets. -/
theorem tableTotals_of (totals : String → Int × Int × Int) {rows : List Bucket}
    (h : ∀ row ∈ rows, row.totals = totals row.bucket) (bucket : String) :
    tableTotals rows bucket = if ∃ row ∈ rows, row.bucket = bucket then totals bucket else 0 := by
  unfold tableTotals Summaries.at
  cases found : (normalizeBucketSummaries rows).lookup bucket with
  | none =>
    have absent : ¬∃ row ∈ rows, row.bucket = bucket := by
      rw [← mem_normalize, ← AList.lookup_isSome, found]
      simp
    rw [if_neg absent]
    rfl
  | some s =>
    obtain ⟨row, hr, rfl, rfl⟩ := lookup_normalize found
    rw [if_pos ⟨row, hr, rfl⟩, ← h row hr]
    rfl

/-- No bucket mismatches exactly when the fingerprints of the totals agree everywhere. -/
theorem mismatches_nil_iff (sourceRows targetRows : List Bucket) :
    (compareBucketSummaries sourceRows targetRows).2.2 = [] ↔ ∀ bucket,
      Digest.sha256Hex (fingerprintText (tableTotals sourceRows bucket)) =
        Digest.sha256Hex (fingerprintText (tableTotals targetRows bucket)) := by
  simp only [compareBucketSummaries, List.filterMap_eq_nil_iff, List.mem_insertionSort,
    List.mem_dedup, List.mem_append, fingerprint_at, ite_eq_left_iff, reduceCtorEq, imp_false,
    not_not]
  constructor
  · intro h bucket
    by_cases hs : bucket ∈ (normalizeBucketSummaries sourceRows).keys
    · exact h bucket (Or.inl hs)
    by_cases ht : bucket ∈ (normalizeBucketSummaries targetRows).keys
    · exact h bucket (Or.inr ht)
    -- a bucket neither side has
    have zero : ∀ rows, bucket ∉ (normalizeBucketSummaries rows).keys →
        tableTotals rows bucket = 0 := by
      intro rows absent
      unfold tableTotals Summaries.at
      rw [AList.lookup_eq_none.mpr (fun hm => absent (AList.mem_keys.mp hm))]
      rfl
    rw [zero _ hs, zero _ ht]
  · exact fun h bucket _ => h bucket

theorem fingerprintText_injective {s t : Int × Int × Int}
    (h : fingerprintText s = fingerprintText t) : s = t := by
  obtain ⟨s₁, s₂, s₃⟩ := s
  obtain ⟨t₁, t₂, t₃⟩ := t
  have bar : ∀ n : Int, '|' ∉ (toString n).toList := fun n =>
    Texts.not_mem_int_text (by decide) (by decide)
  have chars := congrArg String.toList h
  simp only [fingerprintText, String.toList_append, List.append_assoc,
    show "|".toList = ['|'] from rfl, List.singleton_append] at chars
  obtain ⟨first, rest⟩ := Texts.split_unique (bar s₁) (bar t₁) chars
  obtain ⟨second, third⟩ := Texts.split_unique (bar s₂) (bar t₂) rest
  rw [Texts.int_text_injective (String.toList_inj.mp first),
    Texts.int_text_injective (String.toList_inj.mp second),
    Texts.int_text_injective (String.toList_inj.mp third)]

/-! ## Summaries by prefix -/

section Prefix

variable {α : Type} (bucket : α → String) (weight : α → Int × Int × Int)
  (updatedAt : α → Option String)

/-- What the loop has gathered after some rows. -/
theorem lookup_addRows (rows : List α) (b : String) :
    (∀ s, (rows.foldl (addRow bucket weight updatedAt) ∅).lookup b = some s →
      s.bucket = b ∧ s.totals = Tally.total bucket weight b rows) ∧
    (b ∈ rows.foldl (addRow bucket weight updatedAt) ∅ ↔ ∃ row ∈ rows, bucket row = b) := by
  induction rows using List.reverseRecOn with
  | nil => simp
  | append_singleton rows row ih =>
    obtain ⟨totals, present⟩ := ih
    rw [List.foldl_append, List.foldl_cons, List.foldl_nil, Tally.total_append, Tally.total_cons,
      Tally.total_nil, add_zero]
    constructor
    · intro s hs
      by_cases hb : b = bucket row
      · subst hb
        rw [addRow, AList.lookup_insert] at hs
        rw [← Option.some.inj hs, if_pos rfl, Bucket.totals_ofTotals]
        refine ⟨rfl, congrArg (· + weight row) ?_⟩
        cases found : (rows.foldl (addRow bucket weight updatedAt) ∅).lookup (bucket row) with
        | none =>
          have absent : bucket row ∉ rows.map bucket := by
            rw [List.mem_map, ← present, ← AList.lookup_isSome, found]
            simp
          rw [Tally.total_absent bucket weight absent]
          rfl
        | some s => exact (totals s found).2
      · rw [addRow, AList.lookup_insert_ne hb] at hs
        rw [if_neg (Ne.symm hb), add_zero]
        exact totals s hs
    · rw [addRow, AList.mem_insert, present]
      simp [or_comm, eq_comm]

/-- Every row's bucket has a summary. -/
theorem summarizeRowsByPrefix_bucket {rows : List α} {row : α} (hr : row ∈ rows) :
    ∃ s ∈ summarizeRowsByPrefix bucket weight updatedAt rows, s.bucket = bucket row := by
  obtain ⟨entries, present⟩ := lookup_addRows bucket weight updatedAt rows (bucket row)
  have held := present.mpr ⟨row, hr, rfl⟩
  obtain ⟨s, found⟩ := Option.isSome_iff_exists.mp (AList.lookup_isSome.mpr held)
  refine ⟨s, List.mem_filterMap.mpr ⟨bucket row, ?_, found⟩, (entries s found).1⟩
  exact (List.mem_insertionSort _).mpr (AList.mem_keys.mp held)

theorem tableTotals_summarizeRowsByPrefix (rows : List α) (b : String) :
    tableTotals (summarizeRowsByPrefix bucket weight updatedAt rows) b =
      Tally.total bucket weight b rows := by
  have hrow : ∀ s ∈ summarizeRowsByPrefix bucket weight updatedAt rows,
      s.totals = Tally.total bucket weight s.bucket rows := by
    intro s hs
    obtain ⟨key, -, found⟩ := List.mem_filterMap.mp hs
    obtain ⟨rfl, totals⟩ := (lookup_addRows bucket weight updatedAt rows key).1 s found
    exact totals
  rw [tableTotals_of (fun k => Tally.total bucket weight k rows) hrow]
  split
  · rfl
  · rename_i absent
    rw [Tally.total_absent]
    intro hb
    obtain ⟨row, hr, rfl⟩ := List.mem_map.mp hb
    exact absent (summarizeRowsByPrefix_bucket bucket weight updatedAt hr)

end Prefix

/-- A table grouped by key, as `group by` makes it, holds the totals of each group. -/
theorem tableTotals_grouped {α : Type} (key : α → String) (weight : α → Int × Int × Int)
    (watermark : String → Option String) (rows : List α) (b : String) :
    tableTotals ((bucketKeys key rows).map fun k =>
      Bucket.ofTotals k (Tally.total key weight k rows) (watermark k)) b =
      Tally.total key weight b rows := by
  rw [tableTotals_of fun k => Tally.total key weight k rows]
  · split
    · rfl
    · rename_i absent
      rw [Tally.total_absent]
      intro hb
      exact absent ⟨_, List.mem_map_of_mem (mem_bucketKeys.mpr (List.mem_map.mp hb)), rfl⟩
  · intro row hr
    obtain ⟨k, -, rfl⟩ := List.mem_map.mp hr
    rfl

end KubeDataGuard
