import Mathlib.Data.List.Perm.Subperm
import KubeDataGuard.Worker.Indexer
import KubeDataGuard.Worker.LostUpdate

/-!
# The analytics table

`backfill_orders_analytics` appends rows to a `ReplacingMergeTree(version)`
table, and `paid_order_summary` reads it without `FINAL`. A merge keeps a row of
maximal version of each order among the rows it merges.
-/

namespace KubeDataGuard

open Runs

structure AnalyticsRow where
  orderId : String
  status : String
  amountCents : Int
  currency : String
  version : Int
  sourceUpdatedAt : Instant
  ingestedAt : Instant
  topic : String := ""
  partition : Int := -1
  offset : Int := -1
  deriving DecidableEq, Repr

/-- A time as a `DateTime64(3)` column stores it. -/
def milliseconds (t : Instant) : Instant := t.fdiv 1000 * 1000

/-- `now('UTC')` is a `DateTime`, which has no fraction. -/
def wholeSecond (t : Instant) : Instant := seconds (t.fdiv 1000000)

def analyticsRow (o : Order) (ingestedAt : Instant) : AnalyticsRow where
  orderId := o.id
  status := o.status
  amountCents := o.amountCents
  currency := o.currency
  version := o.version
  sourceUpdatedAt := milliseconds o.updatedAt
  ingestedAt := milliseconds ingestedAt

/-- The loop over the selected orders: the rows to insert and the ids skipped. -/
def backfillRows (ingestedAt : Instant) (skipEveryPaid : Option Int) :
    Nat → List Order → List AnalyticsRow × List String
  | _, [] => ([], [])
  | paidSeen, o :: rest =>
    let paidSeen := if o.status = "paid" then paidSeen + 1 else paidSeen
    let (rows, skipped) := backfillRows ingestedAt skipEveryPaid paidSeen rest
    if o.status = "paid" ∧ everyNthPaid skipEveryPaid paidSeen = true then (rows, o.id :: skipped)
    else (analyticsRow o ingestedAt :: rows, skipped)

structure Backfill where
  selected : Nat
  rows : List AnalyticsRow
  skippedOrderIds : List String

/-- What `backfill_orders_analytics` inserts, and the rest of what it returns. -/
def backfillOrdersAnalytics (source : List Order) (now : Instant) (orderIds : List String)
    (skipEveryPaid : Option Int) : Backfill :=
  let orders := if orderIds.isEmpty then fetchPaidOrders source now 0
    else fetchOrdersByIds source orderIds
  let (rows, skipped) := backfillRows now skipEveryPaid 0 orders
  ⟨orders.length, rows, skipped⟩

/-- The text JSONEachRow has for a `DateTime64(3)`. -/
def clickhouseText (t : Instant) : String :=
  let text := (secondsText (t.fdiv 1000000)).map fun c => if c = 'T' then ' ' else c
  text ++ "." ++ pad 3 (t.fmod 1000000 / 1000)

def AnalyticsRow.paidBy (until_ : Instant) (r : AnalyticsRow) : Bool :=
  decide (r.status = "paid") && decide (r.sourceUpdatedAt ≤ until_)

/-- `paid_order_summary`; `max` of no rows is the epoch. -/
def analyticsPaidOrderSummary (table : List AnalyticsRow) (now : Instant) (maxLagSeconds : Int) :
    OrderSummary :=
  let paid := table.filter (AnalyticsRow.paidBy (wholeSecond now - seconds maxLagSeconds))
  { count := paid.length
    totalAmountCents := (paid.map AnalyticsRow.amountCents).sum
    sourceWatermark := some (clickhouseText ((paid.map AnalyticsRow.sourceUpdatedAt).max?.getD 0)) }

def OrderSummary.totals (s : OrderSummary) : Int × Int := (s.count, s.totalAmountCents)

/-! ## Histories -/

/-- A table after merges: rows are gone, each for one of its order that is at least as new. -/
def Merged (table table' : List AnalyticsRow) : Prop :=
  table'.Subperm table ∧
    ∀ r ∈ table, ∃ r' ∈ table', r'.orderId = r.orderId ∧ r.version ≤ r'.version

structure Warehouse where
  source : Table
  analytics : List AnalyticsRow
  now : Instant

inductive WarehouseEvent
  | commit (o : Order)
  | backfill
  | merge (table : List AnalyticsRow)
  | tick (now : Instant)

/-- The rows a full backfill inserts at a time. -/
def Warehouse.inserted (s : Warehouse) (at_ : Instant) : List AnalyticsRow :=
  (backfillOrdersAnalytics s.source.orders at_ [] none).rows

inductive Warehouse.Step : Warehouse → WarehouseEvent → Warehouse → Prop
  | commit (s : Warehouse) (o : Order)
      (bump : ∀ row, s.source.rows.lookup o.id = some row → row.version < o.version) :
      Step s (.commit o) { s with source := s.source.commit o }
  | backfill (s : Warehouse) :
      Step s .backfill { s with analytics := s.analytics ++ s.inserted s.now }
  | merge (s : Warehouse) (table : List AnalyticsRow) (h : Merged s.analytics table) :
      Step s (.merge table) { s with analytics := table }
  | tick (s : Warehouse) (now : Instant) (later : s.now ≤ now) :
      Step s (.tick now) { s with now }

/-- Any orders, and an analytics table just created. -/
def Warehouse.Starting (s : Warehouse) : Prop := s.analytics = []

/-- A full backfill, any later merges and no later commit: the summaries agree,
and a second backfill and any merges after it change neither number. -/
def Warehouse.Converges (s : Warehouse) : Prop :=
  ∀ table t, Merged (s.analytics ++ s.inserted s.now) table → s.now ≤ t →
    (analyticsPaidOrderSummary table t 0).totals =
        (fetchPaidOrderSummary s.source.orders t 0).totals ∧
      ∀ table' t', Merged (table ++ s.inserted t) table' → t ≤ t' →
        (analyticsPaidOrderSummary table' t' 0).totals =
          (analyticsPaidOrderSummary table t' 0).totals

/-! ## What the table holds -/

theorem backfillRows_all (at_ : Instant) (n : Nat) (orders : List Order) :
    backfillRows at_ none n orders = (orders.map fun o => analyticsRow o at_, []) := by
  induction orders generalizing n with
  | nil => rfl
  | cons o rest ih => simp [backfillRows, ih, everyNthPaid]

theorem Warehouse.inserted_eq (s : Warehouse) (at_ : Instant) :
    s.inserted at_ = (fetchPaidOrders s.source.orders at_ 0).map fun o => analyticsRow o at_ := by
  simp [Warehouse.inserted, backfillOrdersAnalytics, backfillRows_all]

theorem mem_fullBackfill {rows : List Order} {now : Instant} {o : Order} :
    o ∈ fetchPaidOrders rows now 0 ↔ o ∈ rows ∧ o.status = "paid" ∧ o.updatedAt ≤ now := by
  simp [fetchPaidOrders, paidUntil, Order.paidBy, List.mem_insertionSort, seconds]

theorem Merged.refl (table : List AnalyticsRow) : Merged table table :=
  ⟨List.Subperm.refl _, fun r hr => ⟨r, hr, rfl, le_rfl⟩⟩

theorem Merged.eq_nil_iff {table table' : List AnalyticsRow} (h : Merged table table') :
    table' = [] ↔ table = [] := by
  constructor
  · rintro rfl
    refine List.eq_nil_iff_forall_not_mem.mpr fun r hr => ?_
    obtain ⟨r', hr', -⟩ := h.2 r hr
    cases hr'
  · rintro rfl
    exact List.subperm_nil.mp h.1

/-- No backfill of the history selected an order. -/
def NothingBackfilled (history : List (Warehouse × WarehouseEvent)) : Prop :=
  ∀ e ∈ history, e.2 = .backfill → fetchPaidOrders e.1.source.orders e.1.now 0 = []

theorem nothingBackfilled_cons {history : List (Warehouse × WarehouseEvent)}
    {e : Warehouse × WarehouseEvent} :
    NothingBackfilled (e :: history) ↔
      (e.2 = .backfill → fetchPaidOrders e.1.source.orders e.1.now 0 = []) ∧
        NothingBackfilled history := by
  simp only [NothingBackfilled, List.forall_mem_cons]

/-- The table holds paid rows only, and none until a backfill selects an order. -/
def PaidOnly (history : List (Warehouse × WarehouseEvent)) (s : Warehouse) : Prop :=
  (∀ r ∈ s.analytics, r.status = "paid") ∧ (s.analytics = [] ↔ NothingBackfilled history)

theorem step_paidOnly {history : List (Warehouse × WarehouseEvent)} {s t : Warehouse}
    {e : WarehouseEvent} (h : s.Step e t) (inv : PaidOnly history s) :
    PaidOnly ((s, e) :: history) t := by
  obtain ⟨paid, empty⟩ := inv
  cases h with
  | commit o bump => exact ⟨paid, by rw [nothingBackfilled_cons, empty]; simp⟩
  | backfill =>
    refine ⟨fun r hr => ?_, ?_⟩
    · rcases List.mem_append.mp hr with old | new
      · exact paid r old
      · rw [s.inserted_eq] at new
        obtain ⟨o, ho, rfl⟩ := List.mem_map.mp new
        exact (mem_fullBackfill.mp ho).2.1
    · rw [nothingBackfilled_cons, List.append_eq_nil_iff, empty, s.inserted_eq, List.map_eq_nil_iff]
      tauto
  | merge table merged =>
    refine ⟨fun r hr => paid r (merged.1.subset hr), ?_⟩
    rw [nothingBackfilled_cons, merged.eq_nil_iff, empty]
    simp
  | tick now later => exact ⟨paid, by rw [nothingBackfilled_cons, empty]; simp⟩

theorem run_paidOnly {history : List (Warehouse × WarehouseEvent)} {s : Warehouse}
    (run : Run Warehouse.Starting (Recorded Warehouse.Step) history s) : PaidOnly history s := by
  refine run.recorded_invariant (fun s start => ?_) fun _ _ _ _ _ inv h => step_paidOnly h inv
  have fresh : s.analytics = [] := start
  refine ⟨fun r hr => ?_, ?_⟩
  · rw [fresh] at hr
    cases hr
  · simp [fresh, NothingBackfilled]

/-! ## When everything is old enough to be counted -/

theorem exists_upper (l : List Int) (n : Int) : ∃ m, n ≤ m ∧ ∀ x ∈ l, x ≤ m := by
  induction l with
  | nil => exact ⟨n, le_rfl, by simp⟩
  | cons x l ih =>
    obtain ⟨m, hn, hm⟩ := ih
    refine ⟨max x m, by omega, ?_⟩
    intro y hy
    rcases List.mem_cons.mp hy with rfl | hy
    · omega
    · have := hm y hy
      omega

theorem wholeSecond_seconds (n : Int) : wholeSecond (seconds n) = seconds n := by
  simp [wholeSecond, seconds]

/-- A time by which the rows of a table and the orders of the source all count. -/
theorem exists_settled (s : Warehouse) (table : List AnalyticsRow) (now : Instant) :
    ∃ t, now ≤ t ∧ (∀ o ∈ s.source.orders, o.updatedAt ≤ t) ∧
      (∀ o ∈ s.source.orders, milliseconds o.updatedAt ≤ wholeSecond t) ∧
      ∀ r ∈ table, r.sourceUpdatedAt ≤ wholeSecond t := by
  obtain ⟨m, hn, hm⟩ := exists_upper (table.map AnalyticsRow.sourceUpdatedAt ++
    s.source.orders.map fun o => o.updatedAt) (max now 0)
  have below : ∀ x : Int, x ≤ m → x ≤ seconds m := by
    intro x hx
    simp only [seconds]
    omega
  refine ⟨seconds m, below _ (by omega), fun o ho => ?_, fun o ho => ?_, fun r hr => ?_⟩
  · exact below _ (hm _ (List.mem_append_right _ (List.mem_map_of_mem ho)))
  · rw [wholeSecond_seconds]
    have := hm _ (List.mem_append_right _ (List.mem_map_of_mem (f := fun o => o.updatedAt) ho))
    apply below
    rw [milliseconds, Int.fdiv_eq_ediv_of_nonneg _ (by decide)]
    omega
  · rw [wholeSecond_seconds]
    exact below _ (hm _ (List.mem_append_left _ (List.mem_map_of_mem hr)))

theorem summary_count {table : List AnalyticsRow} {t : Instant}
    (paid : ∀ r ∈ table, r.status = "paid") (old : ∀ r ∈ table, r.sourceUpdatedAt ≤ wholeSecond t) :
    (analyticsPaidOrderSummary table t 0).totals.1 = table.length := by
  have all : table.filter (AnalyticsRow.paidBy (wholeSecond t - seconds 0)) = table := by
    rw [List.filter_eq_self]
    intro r hr
    simp [AnalyticsRow.paidBy, paid r hr, old r hr, seconds]
  simp [analyticsPaidOrderSummary, OrderSummary.totals, all]

theorem source_count (orders : List Order) (t : Instant) :
    (fetchPaidOrderSummary orders t 0).totals.1 = (fetchPaidOrders orders t 0).length := by
  have perm := List.perm_insertionSort (fun a b : Order =>
    a.updatedAt < b.updatedAt ∨ a.updatedAt = b.updatedAt ∧ a.id ≤ b.id)
    (paidUntil orders (t - seconds 0))
  simp [fetchPaidOrderSummary, OrderSummary.totals, fetchPaidOrders, perm.length_eq]

theorem Warehouse.inserted_settled {s : Warehouse} {t : Instant}
    (shown : ∀ o ∈ s.source.orders, milliseconds o.updatedAt ≤ wholeSecond t) (at_ : Instant) :
    ∀ r ∈ s.inserted at_, r.status = "paid" ∧ r.sourceUpdatedAt ≤ wholeSecond t := by
  intro r hr
  rw [s.inserted_eq] at hr
  obtain ⟨o, ho, rfl⟩ := List.mem_map.mp hr
  obtain ⟨mem, paid, -⟩ := mem_fullBackfill.mp ho
  exact ⟨paid, shown o mem⟩

/-- Without paid orders there is nothing to insert and nothing to count. -/
theorem converges_of_nothing {s : Warehouse} (fresh : s.analytics = [])
    (unpaid : ∀ o ∈ s.source.orders, o.status ≠ "paid") : s.Converges := by
  have none_selected : ∀ t, fetchPaidOrders s.source.orders t 0 = [] := by
    intro t
    refine List.eq_nil_iff_forall_not_mem.mpr fun o ho => ?_
    obtain ⟨mem, paid, -⟩ := mem_fullBackfill.mp ho
    exact unpaid o mem paid
  have none_paid : ∀ t, paidUntil s.source.orders t = [] := by
    intro t
    refine List.filter_eq_nil_iff.mpr fun o ho => ?_
    simp [Order.paidBy, unpaid o ho]
  have none_inserted : ∀ t, s.inserted t = [] := by
    intro t
    rw [s.inserted_eq, none_selected, List.map_nil]
  intro table t merged _
  rw [fresh, none_inserted, List.append_nil] at merged
  obtain rfl := merged.eq_nil_iff.mpr rfl
  refine ⟨?_, fun table' t' merged' _ => ?_⟩
  · simp [analyticsPaidOrderSummary, fetchPaidOrderSummary, OrderSummary.totals, none_paid]
  · rw [none_inserted, List.append_nil] at merged'
    rw [merged'.eq_nil_iff.mpr rfl]

/-- Unmerged and read once everything counts, the table shows all rows of both backfills. -/
theorem nothing_of_converges {s : Warehouse} (paid : ∀ r ∈ s.analytics, r.status = "paid")
    (h : s.Converges) :
    s.analytics = [] ∧ ∀ o ∈ s.source.orders, o.status ≠ "paid" := by
  obtain ⟨t, later, old, shown, rowsShown⟩ := exists_settled s s.analytics s.now
  have firstPaid : ∀ r ∈ s.analytics ++ s.inserted s.now,
      r.status = "paid" ∧ r.sourceUpdatedAt ≤ wholeSecond t := by
    intro r hr
    rcases List.mem_append.mp hr with old_row | new
    · exact ⟨paid r old_row, rowsShown r old_row⟩
    · exact s.inserted_settled shown s.now r new
  have secondPaid : ∀ r ∈ s.analytics ++ s.inserted s.now ++ s.inserted t,
      r.status = "paid" ∧ r.sourceUpdatedAt ≤ wholeSecond t := by
    intro r hr
    rcases List.mem_append.mp hr with first | new
    · exact firstPaid r first
    · exact s.inserted_settled shown t r new
  obtain ⟨agrees, again⟩ := h _ t (Merged.refl _) later
  have firstCount := summary_count (fun r hr => (firstPaid r hr).1) fun r hr => (firstPaid r hr).2
  have secondCount := summary_count (fun r hr => (secondPaid r hr).1)
    fun r hr => (secondPaid r hr).2
  have same := congrArg Prod.fst (again _ t (Merged.refl _) le_rfl)
  have matched := congrArg Prod.fst agrees
  rw [firstCount, source_count] at matched
  rw [secondCount, firstCount] at same
  simp only [List.length_append, s.inserted_eq, List.length_map] at same matched
  have noneAtT : fetchPaidOrders s.source.orders t 0 = [] := by
    apply List.eq_nil_of_length_eq_zero
    omega
  refine ⟨List.eq_nil_of_length_eq_zero ?_, fun o ho status => ?_⟩
  · rw [noneAtT] at matched
    simp only [List.length_nil] at matched
    omega
  · have selected := mem_fullBackfill.mpr ⟨ho, status, old o ho⟩
    rw [noneAtT] at selected
    cases selected

theorem backfill_converges_iff {history : List (Warehouse × WarehouseEvent)} {s : Warehouse}
    (run : Run Warehouse.Starting (Recorded Warehouse.Step) history s) :
    s.Converges ↔
      NothingBackfilled history ∧ ∀ o ∈ s.source.orders, o.status ≠ "paid" := by
  obtain ⟨paid, empty⟩ := run_paidOnly run
  rw [← empty]
  constructor
  · intro h
    exact nothing_of_converges paid h
  · rintro ⟨fresh, unpaid⟩
    exact converges_of_nothing fresh unpaid

def emptyTable : Table where
  rows := ∅
  keyed _ _ h := nomatch h

/-- An order is committed and a full backfill runs. -/
def backfilledWarehouse (o : Order) : Warehouse where
  source := emptyTable.commit o
  analytics := Warehouse.inserted ⟨emptyTable.commit o, [], 0⟩ 0
  now := 0

def backfilledHistory (o : Order) : List (Warehouse × WarehouseEvent) :=
  [(⟨emptyTable.commit o, [], 0⟩, .backfill), (⟨emptyTable, [], 0⟩, .commit o)]

theorem backfilled_run (o : Order) :
    Run Warehouse.Starting (Recorded Warehouse.Step) (backfilledHistory o) (backfilledWarehouse o) := by
  have start : Run Warehouse.Starting (Recorded Warehouse.Step) [] ⟨emptyTable, [], 0⟩ := .start rfl
  exact (start.record (.commit _ o fun _ h => nomatch h)).record (.backfill _)

theorem backfill_counts_twice : ∃ history s,
    Run Warehouse.Starting (Recorded Warehouse.Step) history s ∧ ¬s.Converges := by
  refine ⟨_, _, backfilled_run paidOrder, fun h => ?_⟩
  have agrees := (h _ (seconds 10) (Merged.refl _) (by decide)).1
  exact absurd agrees (by decide +kernel)

theorem backfill_converges_iff_unpaid :
    (backfilledWarehouse { paidOrder with status := "created" }).Converges := by
  refine (backfill_converges_iff (backfilled_run _)).mpr ⟨?_, ?_⟩
  · intro e he backfill
    rcases List.mem_cons.mp he with rfl | he
    · decide +kernel
    · rw [List.mem_singleton.mp he] at backfill
      cases backfill
  · decide +kernel

end KubeDataGuard
