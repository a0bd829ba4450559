import KubeDataGuard.Calendar
import KubeDataGuard.Worker.Compare

/-!
# Watermarks

A watermark is the greatest of the texts of update times. Texts of instants
compare as the instants do, so it is the text of the latest of them.
-/

namespace KubeDataGuard

/-- `_iso` -/
def isoText : Value → String
  | .timestamp _ at_ => iso at_
  | value => value.text

theorem iso_lt_iff {a b : Instant} (ha : Representable a) (hb : Representable b) :
    iso a < iso b ↔ a < b := by
  constructor
  · intro h
    rcases lt_trichotomy a b with less | rfl | later
    · exact less
    · exact absurd h (lt_irrefl _)
    · exact absurd h (lt_asymm (iso_lt hb ha later))
  · exact iso_lt ha hb

theorem iso_inj {a b : Instant} (ha : Representable a) (hb : Representable b) :
    iso a = iso b ↔ a = b := by
  constructor
  · intro same
    rcases lt_trichotomy a b with less | equal | later
    · exact absurd same (iso_lt ha hb less).ne
    · exact equal
    · exact absurd same.symm (iso_lt hb ha later).ne
  · rintro rfl
    rfl

theorem iso_ne_empty (t : Instant) : iso t ≠ "" := by
  intro h
  have chars := congrArg String.toList h
  simp [iso] at chars

/-! ## Maxima -/

theorem representable_max {a b : Instant} (ha : Representable a) (hb : Representable b) :
    Representable (max a b) := by
  rcases max_choice a b with h | h
  · rwa [h]
  · rwa [h]

/-- The greater of two texts is the text of the later time. -/
theorem iso_max {a b : Instant} (ha : Representable a) (hb : Representable b) :
    (if iso a < iso b then iso b else iso a) = iso (max a b) := by
  split
  · rename_i less
    rw [max_eq_right ((iso_lt_iff ha hb).mp less).le]
  · rename_i not_less
    rw [max_eq_left (not_lt.mp fun less => not_less ((iso_lt_iff ha hb).mpr less))]

theorem maxText_iso {times : List Instant} (h : ∀ t ∈ times, Representable t) :
    maxText (times.map iso) = times.max?.map iso := by
  cases times with
  | nil => rfl
  | cons t times =>
    have ht := h t List.mem_cons_self
    have later : ∀ u ∈ times, Representable u := fun u hu => h u (List.mem_cons_of_mem t hu)
    rw [List.map_cons, maxText, List.max?_cons', Option.map_some]
    clear h
    induction times generalizing t with
    | nil => rfl
    | cons u times ih =>
      have hu := later u List.mem_cons_self
      rw [List.map_cons, List.foldl_cons, List.foldl_cons, iso_max ht hu]
      exact ih (max t u) (representable_max ht hu) fun v hv => later v (List.mem_cons_of_mem u hv)

theorem max?_concat (times : List Instant) (t : Instant) :
    (times ++ [t]).max? = some (times.max?.elim t fun latest => max latest t) := by
  cases times with
  | nil => rfl
  | cons u times =>
    rw [List.cons_append, List.max?_cons', List.max?_cons', List.foldl_append]
    rfl

/-! ## Rows of a query -/

def Row.updatedAt (row : Row) : Option Instant :=
  match row.get "updated_at" with
  | .timestamp _ at_ => some at_
  | _ => none

/-- `updated_at` of a row is null or missing, or a `datetime`. -/
def Row.Stamped (row : Row) : Prop :=
  row.get "updated_at" = .null ∨
    ∃ text t, row.get "updated_at" = .timestamp text t ∧ Representable t

theorem latestQueryWatermark_eq {rows : List Row} (h : ∀ row ∈ rows, row.Stamped) :
    latestQueryWatermark (rows.map serializeQueryRow) = (rows.filterMap Row.updatedAt).max?.map iso := by
  have dated : ∀ t ∈ rows.filterMap Row.updatedAt, Representable t := by
    intro t ht
    obtain ⟨row, hr, found⟩ := List.mem_filterMap.mp ht
    rcases h row hr with null | ⟨text, u, stamp, hu⟩
    · simp [Row.updatedAt, null] at found
    · rw [Row.updatedAt, stamp] at found
      exact Option.some.inj found ▸ hu
  rw [← maxText_iso dated, latestQueryWatermark]
  apply congrArg maxText
  clear dated
  induction rows with
  | nil => rfl
  | cons row rows ih =>
    have rest := ih fun r hr => h r (List.mem_cons_of_mem row hr)
    rcases h row List.mem_cons_self with null | ⟨text, t, stamp, -⟩
    · have none_ : row.updatedAt = none := by rw [Row.updatedAt, null]
      rw [List.filterMap_cons_none none_, List.map_cons, List.filter_cons_of_neg, rest]
      rw [serializeQueryRow_get, null]
      decide
    · have some_ : row.updatedAt = some t := by rw [Row.updatedAt, stamp]
      rw [List.filterMap_cons_some some_, List.map_cons, List.filter_cons_of_pos, List.map_cons,
        List.map_cons, rest, serializeQueryRow_get, stamp]
      · rfl
      · rw [serializeQueryRow_get, stamp]
        simpa [jsonSafeValue, Value.truthy] using iso_ne_empty t

/-! ## Buckets -/

section Buckets

variable {α : Type} (bucket : α → String) (weight : α → Int × Int × Int)
  (updatedAt : α → Option Instant)

/-- When the rows of a bucket were updated. -/
def bucketTimes (rows : List α) (b : String) : List Instant :=
  (rows.filter fun row => bucket row = b).filterMap updatedAt

/-- One turn of the loop keeps the later watermark. -/
theorem addRow_watermark {buckets : AList fun _ : String => Bucket} {times : List Instant} {row : α}
    (held : (buckets.lookup (bucket row)).bind Bucket.sourceWatermark = times.max?.map iso)
    (h : ∀ t ∈ times ++ (updatedAt row).toList, Representable t) :
    ((addRow bucket weight (fun r => (updatedAt r).map iso) buckets row).lookup (bucket row)).bind
      Bucket.sourceWatermark = (times ++ (updatedAt row).toList).max?.map iso := by
  have summary : ((buckets.lookup (bucket row)).getD
      (Bucket.ofTotals (bucket row) 0 none)).sourceWatermark = times.max?.map iso := by
    rw [← held]
    cases buckets.lookup (bucket row) <;> rfl
  simp only [addRow, AList.lookup_insert, Option.bind_some]
  generalize (buckets.lookup (bucket row)).getD (Bucket.ofTotals (bucket row) 0 none) = s
    at summary ⊢
  cases stamp : updatedAt row with
  | none =>
    rw [Option.toList_none, List.append_nil, ← summary]
    rfl
  | some t =>
    rw [stamp] at h
    have ht : Representable t := h t (by simp)
    rw [Option.toList_some, max?_concat]
    simp only [Option.map_some, if_neg (iso_ne_empty t), summary, Bucket.ofTotals]
    cases latest : times.max? with
    | none => rfl
    | some m =>
      have hm : Representable m := h m (List.mem_append_left _ (List.max?_mem latest))
      rw [Option.elim_some, ← iso_max hm ht]
      simp only [Option.map_some, Option.all_some, decide_eq_true_eq]
      split <;> rfl

theorem bucketTimes_concat (rows : List α) (row : α) (b : String) :
    bucketTimes bucket updatedAt (rows ++ [row]) b =
      bucketTimes bucket updatedAt rows b ++ if bucket row = b then (updatedAt row).toList else [] := by
  rw [bucketTimes, bucketTimes, List.filter_append, List.filterMap_append]
  by_cases hb : bucket row = b
  · rw [if_pos hb]
    cases stamp : updatedAt row <;> simp [hb, stamp]
  · simp [hb]

theorem lookup_watermark {rows : List α} (h : ∀ row ∈ rows, ∀ t ∈ updatedAt row, Representable t)
    (b : String) :
    ((rows.foldl (addRow bucket weight fun r => (updatedAt r).map iso) ∅).lookup b).bind
      Bucket.sourceWatermark = (bucketTimes bucket updatedAt rows b).max?.map iso := by
  induction rows using List.reverseRecOn generalizing b with
  | nil => rfl
  | append_singleton rows row ih =>
    have held := ih fun r hr => h r (List.mem_append_left _ hr)
    rw [List.foldl_append, List.foldl_cons, List.foldl_nil, bucketTimes_concat]
    by_cases hb : bucket row = b
    · subst hb
      rw [if_pos rfl]
      apply addRow_watermark bucket weight updatedAt (held (bucket row))
      intro t ht
      rcases List.mem_append.mp ht with ht | ht
      · obtain ⟨r, hr, found⟩ := List.mem_filterMap.mp ht
        exact h r (List.mem_append_left _ (List.mem_filter.mp hr).1) t found
      · exact h row (by simp) t (Option.mem_toList.mp ht)
    · rw [if_neg hb, List.append_nil, ← held b, addRow, AList.lookup_insert_ne (Ne.symm hb)]

theorem summarizeRowsByPrefix_watermark {rows : List α}
    (h : ∀ row ∈ rows, ∀ t ∈ updatedAt row, Representable t) {s : Bucket}
    (hs : s ∈ summarizeRowsByPrefix bucket weight (fun r => (updatedAt r).map iso) rows) :
    s.sourceWatermark = (bucketTimes bucket updatedAt rows s.bucket).max?.map iso := by
  obtain ⟨b, -, found⟩ := List.mem_filterMap.mp hs
  have name := ((lookup_addRows bucket weight _ rows b).1 s found).1
  rw [name, ← lookup_watermark bucket weight updatedAt h b, found]
  rfl

end Buckets

theorem latestSourceWatermark_eq {orders : List Order}
    (h : ∀ o ∈ orders, Representable o.updatedAt) :
    latestSourceWatermark orders = (orders.map Order.updatedAt).max?.map iso := by
  have dated : ∀ t ∈ orders.map Order.updatedAt, Representable t := by
    intro t ht
    obtain ⟨o, ho, rfl⟩ := List.mem_map.mp ht
    exact h o ho
  rw [← maxText_iso dated, List.map_map]
  rfl

/-- Texts of instants compare as the instants, so every watermark is the text of the latest
update. -/
theorem watermarks_chronological :
    (∀ a b : Instant, Representable a → Representable b →
      (iso a < iso b ↔ a < b) ∧ (iso a = iso b ↔ a = b) ∧
      ∀ s t, (isoText (.timestamp s a) < isoText (.timestamp t b) ↔ a < b) ∧
        (isoText (.timestamp s a) = isoText (.timestamp t b) ↔ a = b)) ∧
    (∀ orders : List Order, (∀ o ∈ orders, Representable o.updatedAt) →
      latestSourceWatermark orders = (orders.map Order.updatedAt).max?.map iso) ∧
    (∀ rows : List Row, (∀ row ∈ rows, row.Stamped) →
      latestQueryWatermark (rows.map serializeQueryRow) =
        (rows.filterMap Row.updatedAt).max?.map iso) ∧
    (∀ (α : Type) (bucket : α → String) (weight : α → Int × Int × Int)
      (updatedAt : α → Option Instant) (rows : List α),
      (∀ row ∈ rows, ∀ t ∈ updatedAt row, Representable t) →
      let summaries := summarizeRowsByPrefix bucket weight (fun row => (updatedAt row).map iso) rows
      (∀ row ∈ rows, ∃ s ∈ summaries, s.bucket = bucket row) ∧
      ∀ s ∈ summaries, s.sourceWatermark =
        ((rows.filter fun row => bucket row = s.bucket).filterMap updatedAt).max?.map iso) := by
  refine ⟨?_, fun _ => latestSourceWatermark_eq, fun _ => latestQueryWatermark_eq, ?_⟩
  · intro a b ha hb
    have order := iso_lt_iff ha hb
    have same := iso_inj ha hb
    exact ⟨order, same, fun _ _ => ⟨order, same⟩⟩
  · intro α bucket weight updatedAt rows h
    constructor
    · intro row hr
      exact summarizeRowsByPrefix_bucket bucket weight _ hr
    · intro s hs
      exact summarizeRowsByPrefix_watermark bucket weight updatedAt h hs

def orderUpdated (id : String) (at_ : Instant) : Order :=
  ⟨id, "c1", "paid", 500, "EUR", 1, at_, at_⟩

/-- A second and the same second with a fraction. -/
theorem watermarks_chronological_fraction :
    (iso 1767225602000000 < iso 1767225602000500) ∧
    latestSourceWatermark [orderUpdated "a" 1767225602000500, orderUpdated "b" 1767225602000000] =
      some (iso 1767225602000500) ∧
    latestQueryWatermark (([[("updated_at", .timestamp "" 1767225602000500)],
      [("updated_at", .timestamp "" 1767225602000000)]] : List Row).map serializeQueryRow) =
      some (iso 1767225602000500) ∧
    ∀ s ∈ summarizeRowsByPrefix (fun o => idPrefix 1 o.id) Order.weight
      (fun o => (some o.updatedAt).map iso)
      [orderUpdated "a1" 1767225602000500, orderUpdated "a2" 1767225602000000],
      s.bucket = "a" → s.sourceWatermark = some (iso 1767225602000500) := by
  have second : Representable 1767225602000000 := by decide
  have fraction : Representable 1767225602000500 := by decide
  refine ⟨?_, ?_, ?_, ?_⟩
  · exact (watermarks_chronological.1 _ _ second fraction).1.mpr (by decide)
  · apply (watermarks_chronological.2.1 _ ?_).trans
    · rfl
    · simp [orderUpdated, second, fraction]
  · apply (watermarks_chronological.2.2.1 _ ?_).trans
    · rfl
    · simp [Row.Stamped, Row.get, second, fraction]
  · intro s hs name
    have latest := (watermarks_chronological.2.2.2 Order _ _ _ _ ?_).2 s hs
    · rw [latest, name]
      rfl
    · simp [orderUpdated, second, fraction]

end KubeDataGuard
