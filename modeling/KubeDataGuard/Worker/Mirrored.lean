import KubeDataGuard.Worker.Bounded
import KubeDataGuard.Worker.Checker

/-!
# What the index mirrors

An order never changes but for the time of its last update, its events all carry
it as it was inserted, and repairs write it as the source has held it. The index
has a document of an order exactly if an event of the order has been written to
it or a repair has, and that document agrees with the order: an existence check
that reads the source at one time and the index at a later one finds exactly
the orders that nothing has brought there.
-/

namespace KubeDataGuard.OrderFlow

open Runs Delivery

variable {partitionOf : String → Nat} {topic : String}

/-- The same order, but for the time of its last update. -/
def SameOrder (o o' : Order) : Prop := ∃ updatedAt, o' = { o with updatedAt }

theorem SameOrder.refl (o : Order) : SameOrder o o := ⟨o.updatedAt, rfl⟩

theorem SameOrder.symm {o o' : Order} (h : SameOrder o o') : SameOrder o' o := by
  obtain ⟨updatedAt, rfl⟩ := h
  exact ⟨o.updatedAt, rfl⟩

theorem SameOrder.trans {o o' o'' : Order} (h : SameOrder o o') (h' : SameOrder o' o'') :
    SameOrder o o'' := by
  obtain ⟨updatedAt, rfl⟩ := h
  exact h'

theorem SameOrder.id {o o' : Order} (h : SameOrder o o') : o'.id = o.id := by
  obtain ⟨updatedAt, rfl⟩ := h
  rfl

/-- No compared field is the update time. -/
theorem SameOrder.agrees {o o' : Order} (h : SameOrder o o') {target : Option Document} :
    Agrees o target ↔ Agrees o' target := by
  obtain ⟨updatedAt, rfl⟩ := h
  simp [Agrees, comparedOrderFields, Order.get]

theorem SameOrder.agrees_document {o o' : Order} (h : SameOrder o o') (now : Instant)
    (metadata : Option EventMetadata) : Agrees o (some (orderDocument o' now metadata)) := by
  obtain ⟨updatedAt, rfl⟩ := h
  exact agrees_orderDocument.mpr ⟨rfl, rfl, rfl, rfl⟩

/-- Every order of the first is in the second, updated later perhaps. -/
def Kept (s t : OrderFlow) : Prop := ∀ o ∈ s.db.orders, ∃ o' ∈ t.db.orders, SameOrder o o'

theorem Kept.refl (s : OrderFlow) : Kept s s := fun o mem => ⟨o, mem, .refl o⟩

theorem Kept.trans {s t u : OrderFlow} (h : Kept s t) (h' : Kept t u) : Kept s u := by
  intro o mem
  obtain ⟨o', mem', same⟩ := h o mem
  obtain ⟨o'', mem'', same'⟩ := h' o' mem'
  exact ⟨o'', mem'', same.trans same'⟩

theorem step_kept {s t : OrderFlow} {m : FlowMove} (step : Step partitionOf topic s m t) :
    Kept s t := by
  cases step with
  | insert g n customerId status amountCents now orderId eventId createdAt db e running fresh inserted =>
    obtain ⟨row, orders, -⟩ := Database.insertOrderWithEvent_some inserted
    intro o mem
    refine ⟨o, ?_, .refl o⟩
    change o ∈ db.orders
    rw [orders]
    exact List.mem_append_left _ mem
  | touch ids updatedAt =>
    intro o mem
    refine ⟨_, List.mem_map_of_mem mem, ?_⟩
    split
    · exact ⟨updatedAt, rfl⟩
    · exact .refl o
  | _ => exact .refl s

/-- A repair writes a row of the source, read at any time before. -/
def Rereads (s : OrderFlow) (m : FlowMove) : Prop :=
  ∀ o now, m = .repair o now → ∃ o' ∈ s.db.orders, SameOrder o o'

/-- An event of the order has been written to the index, or a repair has written the order. -/
def Reached (partitionOf : String → Nat) (history : List FlowMove) (s : OrderFlow) (id : String) :
    Prop :=
  (∃ (offset : Nat) (e : OrderEvent), (s.log (partitionOf id))[offset]? = some e ∧ e.orderId = id ∧
    wrote (indexerMoves history) (partitionOf id) offset = true) ∨
  ∃ o now, .repair o now ∈ history ∧ o.id = id

theorem Reached.later {history : List FlowMove} {s t : OrderFlow} {m : FlowMove} {id : String}
    (h : s.Reached partitionOf history id) (step : Step partitionOf topic s m t) :
    t.Reached partitionOf (m :: history) id := by
  obtain ⟨offset, e, found, same, written⟩ | ⟨o, now, repaired, same⟩ := h
  · refine Or.inl ⟨offset, e, stays found (step_log step _), same, ?_⟩
    rw [indexerMoves, List.filterMap_cons]
    cases indexerMove m with
    | none => exact written
    | some move => exact wrote_later written move
  · exact Or.inr ⟨o, now, List.mem_cons_of_mem _ repaired, same⟩

/-- Where a document stands for an order that reached the index, and what it says. -/
def Mirrors (partitionOf : String → Nat) (history : List FlowMove) (s : OrderFlow) (id : String)
    (d : Document) : Prop :=
  s.Reached partitionOf history id ∧ ∃ o ∈ s.db.orders, o.id = id ∧ Agrees o (some d)

section Mirrored

variable {history : List FlowMove} {s : OrderFlow}
  (run : Run Starting (Guarded Rereads (Step partitionOf topic)) history s)
include run

theorem document_mirrors {id : String} {d : Document} (held : s.index.lookup id = some d) :
    s.Mirrors partitionOf history id d := by
  induction run generalizing id d with
  | @start s h =>
    obtain ⟨-, -, -, -, indexing⟩ := h
    rw [show s.index = ∅ from congrArg Indexing.store indexing] at held
    cases held
  | @next history s m t before step ih =>
    obtain ⟨rereads, step⟩ := step
    have kept : ∀ {id d}, s.index.lookup id = some d → t.Mirrors partitionOf (m :: history) id d := by
      intro id d held
      obtain ⟨reached, o, mem, named, agrees⟩ := ih held
      obtain ⟨o', mem', same⟩ := step_kept step o mem
      exact ⟨reached.later step, o', mem', same.id.trans named, same.agrees.mp agrees⟩
    cases step with
    | repair o now =>
      change AList.lookup id (indexOrder s.index o now none) = some d at held
      by_cases same : id = o.id
      · obtain ⟨o', mem, alike⟩ := rereads o now rfl
        rw [same, lookup_indexOrder] at held
        refine ⟨Or.inr ⟨o, now, List.mem_cons_self, same.symm⟩, o', mem, alike.id.trans same.symm, ?_⟩
        rw [← held]
        exact alike.symm.agrees_document now none
      · rw [lookup_indexOrder_ne _ _ _ _ same] at held
        exact kept held
    | index m t own step =>
      cases step with
      | produce e => exact absurd rfl (own e)
      | write c p offset e now running delivered due =>
        change AList.lookup id (indexOrder s.index e.order now
          (some (orderIndex.metadata e topic p offset))) = some d at held
        by_cases same : id = e.order.id
        · have coherent := run_coherent before.unguarded
          have found := run_delivered before.unguarded running delivered
          obtain ⟨known, here⟩ := coherent.logged p e (List.mem_of_getElem? found)
          obtain ⟨row, listed, rfl⟩ := List.mem_map.mp known
          obtain ⟨o, mem, issued⟩ := partner coherent.issued.flip listed
          have named : row.orderId = id := (coherent.row_order listed).trans same.symm
          rw [same, lookup_indexOrder] at held
          refine ⟨Or.inl ⟨offset, row.event, ?_, named, ?_⟩, o, mem, issued.1.symm.trans named, ?_⟩
          · rw [← named]
            exact here ▸ found
          · rw [← named]
            exact here ▸ wrote_write
          · rw [← held]
            exact SameOrder.agrees_document ⟨_, issued.2⟩ now _
        · rw [lookup_indexOrder_ne _ _ _ _ same] at held
          exact kept held
      | _ => exact kept held
    | _ => exact kept held

/-- Documents stay. -/
theorem repaired_kept {o : Order} {now : Instant} (repaired : .repair o now ∈ history) :
    (s.index.lookup o.id).isSome := by
  induction run with
  | start => cases repaired
  | @next history s m t before step ih =>
    have stays : (s.index.lookup o.id).isSome → (t.index.lookup o.id).isSome := by
      intro held
      obtain ⟨-, step⟩ := step
      cases step with
      | repair o' now' => exact kept_indexOrder held o' now' none
      | index m t own step =>
        cases step with
        | produce e => exact absurd rfl (own e)
        | write c p offset e now running delivered due => exact kept_indexOrder held e.order now _
        | _ => exact held
      | _ => exact held
    obtain rfl | earlier := List.mem_cons.mp repaired
    · obtain ⟨-, step⟩ := step
      cases step with
      | repair =>
        change (AList.lookup o.id (indexOrder s.index o now none)).isSome
        rw [lookup_indexOrder, Option.isSome_some]
    · exact stays (ih earlier)

theorem reached_iff {id : String} :
    s.Reached partitionOf history id ↔ (s.index.lookup id).isSome := by
  constructor
  · rintro (⟨offset, e, found, same, written⟩ | ⟨o, now, repaired, rfl⟩)
    · have coherent := run_coherent run.unguarded
      obtain ⟨known, -⟩ := coherent.logged _ e (List.mem_of_getElem? found)
      obtain ⟨row, listed, rfl⟩ := List.mem_map.mp known
      have held := (run_stored run.unguarded).kept _ _ _ written found
      rwa [show row.event.order.id = id from (coherent.row_order listed).symm.trans same] at held
    · exact repaired_kept run repaired
  · intro held
    obtain ⟨d, held⟩ := Option.isSome_iff_exists.mp held
    exact (document_mirrors run held).1

/-- The orders of an earlier time in the index now: what agrees is what was brought there. -/
theorem agrees_iff_reached {a : OrderFlow} (kept : Kept a s) {o : Order} (mem : o ∈ a.db.orders) :
    Agrees o (s.index.lookup o.id) ↔ s.Reached partitionOf history o.id := by
  rw [reached_iff run]
  constructor
  · rintro ⟨d, held, -⟩
    rw [held, Option.isSome_some]
  · intro held
    obtain ⟨d, held⟩ := Option.isSome_iff_exists.mp held
    obtain ⟨-, o', mem', named, agrees⟩ := document_mirrors run held
    obtain ⟨o'', mem'', same⟩ := kept o mem
    have ids := (run_coherent run.unguarded).orderIds
    obtain rfl := List.inj_on_of_nodup_map ids mem' mem'' (named.trans same.id.symm)
    rw [held]
    exact same.agrees.mpr agrees

/-- The existence check of a source read earlier and the index now. -/
theorem existence_exact {a : OrderFlow} (kept : Kept a s) (now : Instant) (maxLagSeconds : Int)
    {calls : CheckCalls} {report : DriftReport}
    (source : ∀ orders, calls.fetchPaidOrders maxLagSeconds = .ok orders →
      orders = fetchPaidOrders a.db.orders now maxLagSeconds)
    (index : ∀ ids found, calls.mgetOrders ids = .ok found → found = mgetOrders s.index ids)
    (checked : checkPaidOrdersIndexed calls maxLagSeconds = .ok report) :
    report.healthy = true ↔ ∀ o ∈ a.db.orders, o.paidBy (now - seconds maxLagSeconds) = true →
      s.Reached partitionOf history o.id := by
  obtain ⟨orders, fetched, checked⟩ := bind_eq_ok checked
  obtain ⟨found, got, checked⟩ := bind_eq_ok checked
  obtain rfl := source orders fetched
  obtain rfl := index _ found got
  rw [← Except.ok.inj checked, DriftReport.healthy_iff, comparePaidOrdersToIndex_driftCount]
  have reading : ∀ o, o ∈ fetchPaidOrders a.db.orders now maxLagSeconds ↔
      o ∈ a.db.orders ∧ o.paidBy (now - seconds maxLagSeconds) = true := fun o =>
    (List.mem_insertionSort _).trans List.mem_filter
  constructor
  · rintro ⟨-, agree⟩ o mem paid
    have listed := (reading o).mpr ⟨mem, paid⟩
    have agrees := agree o listed
    rw [mgetOrders, if_pos (List.mem_map_of_mem listed)] at agrees
    exact (agrees_iff_reached run kept mem).mp agrees
  · intro reached
    refine ⟨rfl, fun o listed => ?_⟩
    obtain ⟨mem, paid⟩ := (reading o).mp listed
    rw [mgetOrders, if_pos (List.mem_map_of_mem listed)]
    exact (agrees_iff_reached run kept mem).mpr (reached o mem paid)

end Mirrored

end KubeDataGuard.OrderFlow
