import Mathlib.Data.List.Count
import KubeDataGuard.Worker.DirectRepair

/-!
# Freshness

The comparison judges a document by its lag in whole seconds, rounded toward
zero; the index stores the whole seconds of a write. Around the two bounds the
rounding decides otherwise than the times do, by less than a second, and that
is also why a document just written counts as fresh.
-/

namespace KubeDataGuard

/-- No document with an `indexed_at` that reaches the update of the order. -/
def Unobserved (o : Order) (found : Option Document) : Prop :=
  ∀ stamp ∈ found.bind Document.indexedAt, stamp.time < o.updatedAt

def ObservedLate (maxLagSeconds : Int) (o : Order) (found : Option Document) : Prop :=
  ∃ stamp ∈ found.bind Document.indexedAt, seconds maxLagSeconds < stamp.time - o.updatedAt

instance (o : Order) (found : Option Document) : Decidable (Unobserved o found) :=
  inferInstanceAs (Decidable (∀ stamp ∈ found.bind Document.indexedAt, stamp.time < o.updatedAt))

instance (maxLagSeconds : Int) (o : Order) (found : Option Document) :
    Decidable (ObservedLate maxLagSeconds o found) :=
  inferInstanceAs (Decidable (∃ stamp ∈ found.bind Document.indexedAt,
    seconds maxLagSeconds < stamp.time - o.updatedAt))

/-- The report lists the unobserved orders, those observed late, and no others. -/
structure ClassifiesFreshness (sourceOrders : List Order) (indexedOrders : String → Option Document)
    (maxLagSeconds : Int) (report : DriftReport) : Prop where
  violations : report.freshnessViolations.map entryName =
    (sourceOrders.filter fun o => Unobserved o (indexedOrders o.id)).map Order.id
  breaches : report.freshnessBreaches.map entryName =
    (sourceOrders.filter fun o => ObservedLate maxLagSeconds o (indexedOrders o.id)).map Order.id
  healthy : report.healthy = true ↔ report.freshnessViolations = []

/-! ## What the rounding decides -/

/-- Rounding toward zero takes less than a second off, on either side. -/
theorem tdiv_second (d : Int) : (0 ≤ d → d.tdiv 1000000 * 1000000 ≤ d ∧ 0 ≤ d.tdiv 1000000 ∧
      d < (d.tdiv 1000000 + 1) * 1000000) ∧
    (d ≤ 0 → d ≤ d.tdiv 1000000 * 1000000 ∧ d.tdiv 1000000 ≤ 0 ∧
      (d.tdiv 1000000 - 1) * 1000000 < d) := by
  rw [Int.tdiv_eq_ediv]
  split
  · omega
  · rw [Int.sign_eq_one_of_pos (by decide)]
    omega

theorem lagSeconds_neg_iff {a b : Int} : lagSeconds a b < 0 ↔ a ≤ b - seconds 1 := by
  have rounded := tdiv_second (a - b)
  unfold lagSeconds seconds
  omega

theorem lt_lagSeconds_iff {m : Int} (bounded : 0 ≤ m) {a b : Int} :
    m < lagSeconds a b ↔ b + seconds (m + 1) ≤ a := by
  have rounded := tdiv_second (a - b)
  unfold lagSeconds seconds
  omega

theorem before_iff {a b : Int} :
    (a < b → a ≤ b - seconds 1) ↔ ¬(b - seconds 1 < a ∧ a < b) := by
  omega

theorem late_iff {a b m : Int} : (seconds m < a - b → b + seconds (m + 1) ≤ a) ↔
    ¬(b + seconds m < a ∧ a < b + seconds (m + 1)) := by
  change (m * 1000000 < a - b → b + (m + 1) * 1000000 ≤ a) ↔
    ¬(b + m * 1000000 < a ∧ a < b + (m + 1) * 1000000)
  omega

theorem before_of_le {a b : Int} (h : a ≤ b - seconds 1) : a < b := by
  unfold seconds at h
  omega

theorem late_of_le {a b m : Int} (h : b + seconds (m + 1) ≤ a) : seconds m < a - b := by
  change b + (m + 1) * 1000000 ≤ a at h
  change m * 1000000 < a - b
  omega

/-- The whole seconds of a time are less than a second before it. -/
theorem not_before_whole_second {a b : Int} (h : a ≤ b) :
    ¬seconds (b.fdiv 1000000) ≤ a - seconds 1 := by
  rw [Int.fdiv_eq_ediv_of_nonneg _ (by decide)]
  change ¬b / 1000000 * 1000000 ≤ a - 1 * 1000000
  omega

/-- The orders the comparison lists as violations. -/
def Behind (o : Order) (found : Option Document) : Prop :=
  ∀ stamp ∈ found.bind Document.indexedAt, stamp.time ≤ o.updatedAt - seconds 1

/-- The orders it lists as breaches. -/
def SecondsLate (maxLagSeconds : Int) (o : Order) (found : Option Document) : Prop :=
  ∃ stamp ∈ found.bind Document.indexedAt, o.updatedAt + seconds (maxLagSeconds + 1) ≤ stamp.time

instance (o : Order) (found : Option Document) : Decidable (Behind o found) :=
  inferInstanceAs (Decidable (∀ stamp ∈ found.bind Document.indexedAt,
    stamp.time ≤ o.updatedAt - seconds 1))

instance (maxLagSeconds : Int) (o : Order) (found : Option Document) :
    Decidable (SecondsLate maxLagSeconds o found) :=
  inferInstanceAs (Decidable (∃ stamp ∈ found.bind Document.indexedAt,
    o.updatedAt + seconds (maxLagSeconds + 1) ≤ stamp.time))

theorem Behind.unobserved {o : Order} {found : Option Document} (h : Behind o found) :
    Unobserved o found :=
  fun stamp hs => before_of_le (h stamp hs)

theorem SecondsLate.observedLate {m : Int} {o : Order} {found : Option Document}
    (h : SecondsLate m o found) : ObservedLate m o found := by
  obtain ⟨stamp, hs, late⟩ := h
  exact ⟨stamp, hs, late_of_le late⟩

theorem unobserved_behind_iff {o : Order} {found : Option Document} :
    (Unobserved o found → Behind o found) ↔ ∀ stamp ∈ found.bind Document.indexedAt,
      ¬(o.updatedAt - seconds 1 < stamp.time ∧ stamp.time < o.updatedAt) := by
  unfold Unobserved Behind
  cases found.bind Document.indexedAt with
  | none => simp
  | some stamp =>
    simp only [Option.mem_some_iff, forall_eq']
    exact before_iff

theorem observedLate_secondsLate_iff {m : Int} {o : Order} {found : Option Document} :
    (ObservedLate m o found → SecondsLate m o found) ↔ ∀ stamp ∈ found.bind Document.indexedAt,
      ¬(o.updatedAt + seconds m < stamp.time ∧ stamp.time < o.updatedAt + seconds (m + 1)) := by
  unfold ObservedLate SecondsLate
  cases found.bind Document.indexedAt with
  | none => simp
  | some stamp =>
    simp only [Option.mem_some_iff, exists_eq_left', forall_eq']
    exact late_iff

theorem freshnessViolation_isSome {ev : Evidence} {o : Order} {found : Option Document} :
    (freshnessViolation ev o found).isSome = true ↔ Behind o found := by
  unfold freshnessViolation Behind
  cases found with
  | none => simp
  | some d =>
    cases stamped : d.indexedAt with
    | none => simp [stamped]
    | some stamp =>
      simp only [lagSeconds_neg_iff, Option.bind_some, stamped, Option.mem_some_iff, forall_eq']
      split <;> simp_all

theorem freshnessBreach_isSome {ev : Evidence} (bounded : 0 ≤ ev.maxLagSeconds) {o : Order}
    {found : Option Document} :
    (freshnessBreach ev o found).isSome = true ↔ SecondsLate ev.maxLagSeconds o found := by
  unfold freshnessBreach SecondsLate
  cases found.bind Document.indexedAt with
  | none => simp
  | some stamp =>
    simp only [← lt_lagSeconds_iff bounded, Option.mem_some_iff, exists_eq_left']
    split
    · simp
      omega
    · split <;> simp_all

theorem freshnessBreach_entry {o : Order} {found : Option Document} {ev : Evidence} {e : Json}
    (made : freshnessBreach ev o found = some e) : e.get "order_id" = .str o.id := by
  unfold freshnessBreach at made
  split at made
  · cases made
  · split at made
    · cases made
    · split at made <;> cases made
      rfl

/-- Entries made of some orders, each naming its order, name these orders. -/
theorem filterMap_names {orders : List Order} {entry : Order → Option Json} {p : Order → Bool}
    (chosen : ∀ o, (entry o).isSome = p o)
    (named : ∀ o e, entry o = some e → e.get "order_id" = .str o.id) :
    (orders.filterMap entry).map entryName = (orders.filter p).map Order.id := by
  induction orders with
  | nil => rfl
  | cons o orders ih =>
    have here := chosen o
    cases made : entry o with
    | none =>
      rw [made] at here
      rw [List.filterMap_cons_none made, List.filter_cons_of_neg (by rw [← here]; simp), ih]
    | some e =>
      rw [made] at here
      rw [List.filterMap_cons_some made, List.filter_cons_of_pos here.symm, List.map_cons,
        List.map_cons, ih, entryName_of_get (named o e made)]

section Names

variable (sourceOrders : List Order) (indexedOrders : String → Option Document)
  (invariantName guarantee : String) (ev : Evidence)

theorem freshnessViolations_names :
    (comparePaidOrderFreshness sourceOrders indexedOrders invariantName guarantee
      ev).freshnessViolations.map entryName =
    (sourceOrders.filter fun o => Behind o (indexedOrders o.id)).map Order.id := by
  apply filterMap_names
  · intro o
    rw [Bool.eq_iff_iff, decide_eq_true_iff]
    exact freshnessViolation_isSome
  · exact fun o e made => (freshnessViolation_entry made).1

theorem freshnessBreaches_names (bounded : 0 ≤ ev.maxLagSeconds) :
    (comparePaidOrderFreshness sourceOrders indexedOrders invariantName guarantee
      ev).freshnessBreaches.map entryName =
    (sourceOrders.filter fun o => SecondsLate ev.maxLagSeconds o (indexedOrders o.id)).map
      Order.id := by
  apply filterMap_names
  · intro o
    rw [Bool.eq_iff_iff, decide_eq_true_iff]
    exact freshnessBreach_isSome bounded
  · exact fun o e made => freshnessBreach_entry made

theorem comparePaidOrderFreshness_healthy :
    (comparePaidOrderFreshness sourceOrders indexedOrders invariantName guarantee ev).healthy = true ↔
      (comparePaidOrderFreshness sourceOrders indexedOrders invariantName guarantee
        ev).freshnessViolations = [] := by
  rw [DriftReport.healthy_iff, DriftReport.driftCount_zero]
  simp [comparePaidOrderFreshness]

end Names

/-- Two selections, one of which contains the other, agree when they choose the same. -/
theorem filter_names_iff {α β : Type} {l : List α} {p q : α → Bool} (name : α → β)
    (sub : ∀ a ∈ l, q a = true → p a = true) :
    (l.filter q).map name = (l.filter p).map name ↔ ∀ a ∈ l, p a = true → q a = true := by
  have both : (l.filter p).filter q = l.filter q := by
    rw [List.filter_filter]
    apply List.filter_congr
    intro a ha
    cases hq : q a with
    | false => rfl
    | true => exact sub a ha hq
  constructor
  · intro same a ha hp
    have length := congrArg List.length same
    rw [List.length_map, List.length_map, ← both] at length
    exact List.length_filter_eq_length_iff.mp length a (List.mem_filter.mpr ⟨ha, hp⟩)
  · intro all
    rw [← both, List.filter_eq_self.mpr]
    intro a ha
    exact all a (List.mem_filter.mp ha).1 (List.mem_filter.mp ha).2

/-- The classification is exact when no document was stamped less than a second before
the update, or past the lag allowed by less than a second. -/
theorem freshness_exact_iff (sourceOrders : List Order) (indexedOrders : String → Option Document)
    (invariantName guarantee : String) (ev : Evidence) (bounded : 0 ≤ ev.maxLagSeconds) :
    ClassifiesFreshness sourceOrders indexedOrders ev.maxLagSeconds
        (comparePaidOrderFreshness sourceOrders indexedOrders invariantName guarantee ev) ↔
      ∀ o ∈ sourceOrders, ∀ stamp ∈ (indexedOrders o.id).bind Document.indexedAt,
        ¬(o.updatedAt - seconds 1 < stamp.time ∧ stamp.time < o.updatedAt) ∧
        ¬(o.updatedAt + seconds ev.maxLagSeconds < stamp.time ∧
          stamp.time < o.updatedAt + seconds (ev.maxLagSeconds + 1)) := by
  have violations := filter_names_iff (l := sourceOrders) Order.id
    (p := fun o => Unobserved o (indexedOrders o.id)) (q := fun o => Behind o (indexedOrders o.id))
    fun o _ h => decide_eq_true (of_decide_eq_true h).unobserved
  have breaches := filter_names_iff (l := sourceOrders) Order.id
    (p := fun o => ObservedLate ev.maxLagSeconds o (indexedOrders o.id))
    (q := fun o => SecondsLate ev.maxLagSeconds o (indexedOrders o.id))
    fun o _ h => decide_eq_true (of_decide_eq_true h).observedLate
  simp only [decide_eq_true_iff, unobserved_behind_iff] at violations
  simp only [decide_eq_true_iff, observedLate_secondsLate_iff] at breaches
  rw [← freshnessViolations_names sourceOrders indexedOrders invariantName guarantee ev] at violations
  rw [← freshnessBreaches_names sourceOrders indexedOrders invariantName guarantee ev bounded]
    at breaches
  constructor
  · rintro ⟨listed, late, -⟩ o ho stamp hs
    exact ⟨violations.mp listed o ho stamp hs, breaches.mp late o ho stamp hs⟩
  · intro clear
    refine ⟨violations.mpr ?_, breaches.mpr ?_, comparePaidOrderFreshness_healthy ..⟩
    · exact fun o ho stamp hs => (clear o ho stamp hs).1
    · exact fun o ho stamp hs => (clear o ho stamp hs).2

/-- An order updated in the middle of a second, and a document of that second. -/
def halfSecondOrder : Order where
  id := "4b0f"
  customerId := "customer-1"
  status := "paid"
  amountCents := 1000
  currency := "USD"
  version := 2
  createdAt := 0
  updatedAt := 500000

def halfSecondDocument : Document :=
  orderDocument { halfSecondOrder with version := 1, updatedAt := 0 } 400000 none

def halfSecondEvidence : Evidence where
  maxLagSeconds := 60
  checkedAt := seconds 120
  targetReadAt := seconds 120
  streamTopic := none
  streamOffsetStart := none
  streamOffsetEnd := none
  sourceLsn := none
  cdcFrontier := .null

theorem half_second_behind_is_fresh :
    0 ≤ halfSecondEvidence.maxLagSeconds ∧
    (comparePaidOrderFreshness [halfSecondOrder] (fun _ => some halfSecondDocument)
      "paid-orders-freshness" "boundedFreshness" halfSecondEvidence).healthy = true ∧
    ¬ClassifiesFreshness [halfSecondOrder] (fun _ => some halfSecondDocument)
      halfSecondEvidence.maxLagSeconds
      (comparePaidOrderFreshness [halfSecondOrder] (fun _ => some halfSecondDocument)
        "paid-orders-freshness" "boundedFreshness" halfSecondEvidence) := by
  refine ⟨by decide, by decide +kernel, ?_⟩
  intro classifies
  exact absurd classifies.violations (by decide +kernel)

theorem freshness_exact_iff_on_the_second :
    ClassifiesFreshness [{ halfSecondOrder with updatedAt := 0 }]
      (fun _ => some halfSecondDocument) halfSecondEvidence.maxLagSeconds
      (comparePaidOrderFreshness [{ halfSecondOrder with updatedAt := 0 }]
        (fun _ => some halfSecondDocument) "paid-orders-freshness" "boundedFreshness"
        halfSecondEvidence) :=
  (freshness_exact_iff _ _ _ _ _ (by decide)).mpr (by decide +kernel)

/-! ## Repair -/

section Repair

variable (sourceOrders : List Order) (stores : StoreCalls)
  (request : String → List (Option String) → Except Raised Fields) (s : OrderStores)
  (invariantName guarantee : String) (ev : Evidence)

/-- A document written no earlier than the update is not behind it, in whole seconds. -/
theorem not_behind_orderDocument {o : Order} {now : Instant} (clock : o.updatedAt ≤ now)
    (metadata : Option EventMetadata) : ¬Behind o (some (orderDocument o now metadata)) := by
  intro behind
  exact not_before_whole_second clock (behind _ rfl)

/-- The ids a freshness report hands to a repair are those of its violations. -/
theorem freshness_candidates (indexedOrders : String → Option Document) :
    ∃ ids : List String,
      repairOrderIds (repairInput (comparePaidOrderFreshness sourceOrders indexedOrders invariantName
        guarantee ev).toDict) = .ok (ids.map some) ∧
      ∀ id, id ∈ ids ↔ ∃ o ∈ sourceOrders, Behind o (indexedOrders o.id) ∧ o.id = id := by
  obtain ⟨ids, handed, -, mem⟩ :=
    handsOver_freshness sourceOrders indexedOrders invariantName guarantee ev
  refine ⟨ids, handedOver_ok handed, ?_⟩
  intro id
  rw [mem]
  constructor
  · rintro ⟨e, he, hid⟩
    obtain ⟨o, ho, made⟩ := List.mem_filterMap.mp he
    have named := (freshnessViolation_entry made).1
    rw [hid] at named
    cases named
    exact ⟨o, ho, freshnessViolation_isSome.mp (Option.isSome_of_eq_some made), rfl⟩
  · rintro ⟨o, ho, behind, rfl⟩
    obtain ⟨e, made⟩ := Option.isSome_iff_exists.mp (freshnessViolation_isSome.mpr behind)
    exact ⟨e, List.mem_filterMap.mpr ⟨o, ho, made⟩, (freshnessViolation_entry made).1⟩

/-- After a direct repair of its violations the comparison of the same orders finds none,
and the other documents and late orders are what they were. -/
theorem freshness_repair_converges (distinct : (s.rows.map Order.id).Nodup)
    (rows : ∀ o ∈ sourceOrders, o ∈ s.rows) (clock : ∀ o ∈ sourceOrders, o.updatedAt ≤ stores.now o)
    (bounded : 0 ≤ ev.maxLagSeconds) :
    (stores.fetch = .ok () → (∀ o, ∃ ref, stores.index o = .stored ref) → ∃ result t,
      repairFromPayloadOn stores request (repairInput (comparePaidOrderFreshness sourceOrders
        s.index.lookup invariantName guarantee ev).toDict) "direct-reindex" s = (.ok result, t)) ∧
    ∀ result t, repairFromPayloadOn stores request (repairInput (comparePaidOrderFreshness
        sourceOrders s.index.lookup invariantName guarantee ev).toDict) "direct-reindex" s =
        (.ok result, t) →
      ∀ later : Evidence, later.maxLagSeconds = ev.maxLagSeconds →
      (comparePaidOrderFreshness sourceOrders t.index.lookup invariantName guarantee
        later).freshnessViolations = [] ∧
      ∀ id, id ∉ (comparePaidOrderFreshness sourceOrders s.index.lookup invariantName guarantee
          ev).freshnessViolations.map entryName →
        t.index.lookup id = s.index.lookup id ∧
        (id ∈ (comparePaidOrderFreshness sourceOrders t.index.lookup invariantName guarantee
            later).freshnessBreaches.map entryName ↔
          id ∈ (comparePaidOrderFreshness sourceOrders s.index.lookup invariantName guarantee
            ev).freshnessBreaches.map entryName) := by
  obtain ⟨ids, candidates, mem⟩ :=
    freshness_candidates sourceOrders invariantName guarantee ev s.index.lookup
  refine ⟨fun reads answers => repairFromPayloadOn_ok candidates reads answers s, ?_⟩
  intro result t run later sameLag
  obtain ⟨-, -, others, written⟩ := repairFromPayloadOn_stored candidates distinct run
  constructor
  · rw [← List.map_eq_nil_iff (f := entryName), freshnessViolations_names, List.map_eq_nil_iff,
      List.filter_eq_nil_iff]
    intro o ho
    rw [decide_eq_true_iff]
    by_cases named : o.id ∈ ids
    · rw [written o (rows o ho) named]
      exact not_behind_orderDocument (clock o ho) none
    · rw [others _ named]
      exact fun behind => named ((mem o.id).mpr ⟨o, ho, behind, rfl⟩)
  · intro id unnamed
    rw [freshnessViolations_names] at unnamed
    have other : id ∉ ids := by
      intro named
      obtain ⟨o, ho, behind, rfl⟩ := (mem id).mp named
      exact unnamed (List.mem_map_of_mem (List.mem_filter.mpr ⟨ho, decide_eq_true behind⟩))
    refine ⟨others id other, ?_⟩
    rw [freshnessBreaches_names _ _ _ _ _ bounded,
      freshnessBreaches_names _ _ _ _ _ (sameLag ▸ bounded), sameLag]
    have listed : ∀ index : Index, index.lookup id = s.index.lookup id →
        (id ∈ (sourceOrders.filter fun o => SecondsLate ev.maxLagSeconds o
            (index.lookup o.id)).map Order.id ↔
          ∃ o ∈ sourceOrders, SecondsLate ev.maxLagSeconds o (s.index.lookup id) ∧ o.id = id) := by
      intro index same
      simp only [List.mem_map, List.mem_filter, decide_eq_true_iff]
      constructor
      · rintro ⟨o, ⟨ho, late⟩, rfl⟩
        exact ⟨o, ho, same ▸ late, rfl⟩
      · rintro ⟨o, ho, late, rfl⟩
        exact ⟨o, ⟨ho, same.symm ▸ late⟩, rfl⟩
    rw [listed t.index (others id other), listed s.index rfl]

end Repair

def secondsCalls : StoreCalls where
  fetch := .ok ()
  index := fun _ => .stored ""
  now := fun _ => 900000

def unindexedStores : OrderStores := ⟨[halfSecondOrder], ∅, ∅⟩

/-- The document written in the second of the update is stamped before the update. -/
theorem freshness_repair_converges_half_second : ∃ result t,
    repairFromPayloadOn secondsCalls (fun _ _ => .ok []) (repairInput (comparePaidOrderFreshness
      [halfSecondOrder] unindexedStores.index.lookup "paid-orders-freshness" "boundedFreshness"
      halfSecondEvidence).toDict) "direct-reindex" unindexedStores = (.ok result, t) ∧
    (comparePaidOrderFreshness [halfSecondOrder] t.index.lookup "paid-orders-freshness"
      "boundedFreshness" halfSecondEvidence).freshnessViolations = [] := by
  obtain ⟨returns, converges⟩ := freshness_repair_converges [halfSecondOrder] secondsCalls
    (fun _ _ => .ok []) unindexedStores "paid-orders-freshness" "boundedFreshness"
    halfSecondEvidence (by decide) (by decide) (by decide) (by decide)
  obtain ⟨result, t, run⟩ := returns rfl fun _ => ⟨"", rfl⟩
  exact ⟨result, t, run, (converges result t run halfSecondEvidence rfl).1⟩

end KubeDataGuard
