import KubeDataGuard.General.Versions
import KubeDataGuard.Worker.Checker

/-!
# A source history and a lagging replica

The source as a history of versions per order, and the index as a replica whose
document for an order reflects the source at some instant of the lag window.
A check reads the source and the replica at given times.
-/

namespace KubeDataGuard

/-- The versions of every order in commit order: a commit sets `updated_at` to
its time and raises the version. -/
structure History where
  ids : List String
  nodup : ids.Nodup
  versions : String → List Order
  ident : ∀ id, ∀ v ∈ versions id, v.id = id
  chronological : ∀ id, Versions.Chronological Order.updatedAt (versions id)
  increasing : ∀ id, (versions id).Pairwise fun a b => a.version < b.version

namespace History

variable (h : History)

def rowAt (id : String) (t : Instant) : Option Order :=
  Versions.stateAt Order.updatedAt (h.versions id) t

/-- The `orders` table at a time. -/
def rowsAt (t : Instant) : List Order := h.ids.filterMap fun id => h.rowAt id t

/-- The order is committed after the first time and not after the second. -/
def committed (after until_ : Instant) (id : String) : Bool :=
  (h.versions id).any fun v => decide (after < v.updatedAt) && decide (v.updatedAt ≤ until_)

variable {h}

theorem rowAt_id {id : String} {t : Instant} {o : Order} (ho : h.rowAt id t = some o) : o.id = id :=
  h.ident id o (Versions.stateAt_some _ ho).1

theorem rowAt_updatedAt {id : String} {t : Instant} {o : Order} (ho : h.rowAt id t = some o) :
    o.updatedAt ≤ t :=
  (Versions.stateAt_some _ ho).2

theorem rowAt_quiet {id : String} {s t u : Instant} (hst : s ≤ t) (htu : t ≤ u)
    (quiet : h.committed s u id = false) : h.rowAt id t = h.rowAt id s := by
  refine (Versions.stateAt_quiet _ hst ?_).symm
  intro v hv hvt
  by_contra late
  have : h.committed s u id = true := by
    refine List.any_eq_true.mpr ⟨v, hv, ?_⟩
    simp [not_le.mp late, le_trans hvt htu]
  rw [quiet] at this
  cases this

/-- A commit between two reads is seen by the second, under a higher version. -/
theorem rowAt_moved {id : String} {s t : Instant} {o : Order} (ho : h.rowAt id s = some o)
    (moved : h.committed s t id = true) :
    ∃ o', h.rowAt id t = some o' ∧ o.version < o'.version := by
  obtain ⟨v, hv, hbetween⟩ := List.any_eq_true.mp moved
  obtain ⟨after, until_⟩ : s < v.updatedAt ∧ v.updatedAt ≤ t := by simpa using hbetween
  obtain ⟨w, hw, late⟩ := Versions.stateAt_moved _ (h.chronological id) hv after until_
  refine ⟨w, hw, ?_⟩
  exact Versions.rank_lt_of_time_lt _ (h.chronological id) (h.increasing id)
    (Versions.stateAt_some _ ho).1 (Versions.stateAt_some _ hw).1
    (lt_of_le_of_lt (rowAt_updatedAt ho) late)

end History

/-- A target whose document for an order at `t` is the source's version of it at
`instant id t`, not more than the allowed lag before `t`. -/
structure Replica (h : History) (maxLagSeconds : Int) where
  instant : String → Instant → Instant
  lower : ∀ id t, t - seconds maxLagSeconds ≤ instant id t
  upper : ∀ id t, instant id t ≤ t
  indexedAt : String → Instant → Instant
  metadata : String → Instant → Option EventMetadata

namespace Replica

variable {h : History} {maxLagSeconds : Int} (r : Replica h maxLagSeconds)

theorem lag_nonneg (r : Replica h maxLagSeconds) (id : String) (t : Instant) :
    t - seconds maxLagSeconds ≤ t :=
  (r.lower id t).trans (r.upper id t)

def documentAt (t : Instant) (id : String) : Option Document :=
  (h.rowAt id (r.instant id t)).map fun o => orderDocument o (r.indexedAt id t) (r.metadata id t)

def entry (t : Instant) (id : String) : Option (Sigma fun _ : String => Document) :=
  (r.documentAt t id).map fun d => ⟨id, d⟩

theorem entries_nodupKeys (t : Instant) (ids : List String) (nodup : ids.Nodup) :
    (ids.filterMap (r.entry t)).NodupKeys := by
  induction ids with
  | nil => exact List.nodupKeys_nil
  | cons id ids ih =>
    obtain ⟨fresh, nodup⟩ := List.nodup_cons.mp nodup
    cases hid : r.entry t id with
    | none =>
      rw [List.filterMap_cons_none hid]
      exact ih nodup
    | some e =>
      rw [List.filterMap_cons_some hid, List.nodupKeys_cons]
      refine ⟨?_, ih nodup⟩
      have key : ∀ {id' : String} {e' : Sigma fun _ : String => Document},
          r.entry t id' = some e' → e'.1 = id' := by
        intro id' e' he
        obtain ⟨d, -, rfl⟩ := Option.map_eq_some_iff.mp he
        rfl
      intro hmem
      obtain ⟨e', he', hk⟩ := List.mem_map.mp hmem
      obtain ⟨id', hid', hentry⟩ := List.mem_filterMap.mp he'
      rw [key hid] at hk
      rw [key hentry] at hk
      exact fresh (hk ▸ hid')

/-- The index at a time. -/
def indexAt (t : Instant) : Index :=
  ⟨h.ids.filterMap (r.entry t), r.entries_nodupKeys t h.ids h.nodup⟩

theorem lookup_indexAt {t : Instant} {id : String} (hid : id ∈ h.ids) :
    (r.indexAt t).lookup id = r.documentAt t id := by
  have nodup := r.entries_nodupKeys t h.ids h.nodup
  cases hd : r.documentAt t id with
  | none =>
    rw [AList.lookup_eq_none]
    intro hmem
    obtain ⟨e, he, rfl⟩ := List.mem_map.mp (AList.mem_keys.mp hmem)
    obtain ⟨id', -, hentry⟩ := List.mem_filterMap.mp he
    obtain ⟨d, hdoc, rfl⟩ := Option.map_eq_some_iff.mp hentry
    rw [hd] at hdoc
    cases hdoc
  | some d =>
    refine (AList.mem_lookup_iff).mpr (List.mem_filterMap.mpr ⟨id, hid, ?_⟩)
    rw [entry, hd]
    rfl

theorem documents_indexAt (t : Instant) :
    (r.indexAt t).entries.map Sigma.snd = h.ids.filterMap (r.documentAt t) := by
  unfold indexAt entry
  rw [List.map_filterMap]
  congr 1
  funext id
  cases r.documentAt t id <;> rfl

end Replica

/-- Calls of a check that reads the table at `sourceAt` and the index at `targetAt`. -/
def callsAt {h : History} {maxLagSeconds : Int} (r : Replica h maxLagSeconds)
    (sourceAt targetAt : Instant) (calls : CheckCalls) : CheckCalls :=
  { calls with
    fetchPaidOrders := fun lag => .ok (fetchPaidOrders (h.rowsAt sourceAt) sourceAt lag)
    mgetOrders := fun ids => .ok (mgetOrders (r.indexAt targetAt) ids)
    fetchPaidOrderSummary := fun lag => .ok (fetchPaidOrderSummary (h.rowsAt sourceAt) sourceAt lag)
    paidOrderSummary := fun before => .ok (Search.paidOrderSummary (r.indexAt targetAt) before)
    sourceBucketSummaries := fun lag length =>
      .ok (paidOrderBucketSummaries (h.rowsAt sourceAt) sourceAt lag length)
    targetBucketSummaries := fun before length =>
      .ok (Search.paidOrderBucketSummaries (r.indexAt targetAt) before length)
    fetchPaidOrdersByIdPrefix := fun prefixes length lag =>
      .ok (fetchPaidOrdersByIdPrefix (h.rowsAt sourceAt) prefixes length sourceAt lag)
    searchPaidOrdersByIdPrefix := fun prefixes length before =>
      .ok (Search.fetchPaidOrdersByIdPrefix (r.indexAt targetAt) prefixes length before) }

end KubeDataGuard
