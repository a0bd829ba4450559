import KubeDataGuard.Worker.Generator
import KubeDataGuard.Worker.OffsetEvidence

/-!
# From the generators to the index

Any number of `generate_orders`, the topic, the indexer and repairs that write
to the index. A generator commits an order, publishes its event and marks the
outbox row, one after the other, and may end in between; a produce request
lands any number of times, also after the generator that sent it has ended.
-/

namespace KubeDataGuard

open Runs Delivery

/-- Where a generator is with one order. -/
inductive Generating
  | ready
  | inserted (event : OrderEvent)
  | sent (event : OrderEvent)
  | acknowledged (event : OrderEvent) (published : LogPosition)

def Generating.event : Generating → Option OrderEvent
  | .ready => none
  | .inserted e | .sent e | .acknowledged e _ => some e

structure Generator where
  remaining : Nat
  stage : Generating := .ready

structure OrderFlow where
  db : Database
  generators : Nat → Option Generator
  /-- Produce requests that may still land. -/
  requests : List OrderEvent
  indexing : Indexing Document

inductive FlowMove
  | generate (g count : Nat)
  | insert (g : Nat) (customerId status : String) (amountCents : Int) (now : Instant)
      (orderId eventId : String) (createdAt : Instant)
  | send (g : Nat)
  | land (e : OrderEvent)
  | acknowledge (g offset : Nat)
  | mark (g : Nat) (now : Instant)
  /-- The loop is done, an exception ends it or the process dies. -/
  | stop (g : Nat)
  | index (m : IndexerMove)
  | repair (o : Order) (now : Instant)
  | touch (ids : List String) (updatedAt : Instant)

namespace OrderFlow

def setGenerator (s : OrderFlow) (g : Nat) (stage : Generator) : OrderFlow :=
  { s with generators := Function.update s.generators g (some stage) }

/-- The partition's log, as the broker keeps it. -/
def log (s : OrderFlow) (p : Nat) : List OrderEvent := s.indexing.log p

def index (s : OrderFlow) : Index := s.indexing.store

def append (s : OrderFlow) (p : Nat) (e : OrderEvent) : OrderFlow :=
  { s with
    indexing := { s.indexing with log := Function.update s.indexing.log p (s.indexing.log p ++ [e]) } }

def setStore (s : OrderFlow) (store : Index) : OrderFlow :=
  { s with indexing := { s.indexing with store := store } }

/-- The indexer runs without `skip_every_paid`, and the broker keeps every event until the indexer
has had it. -/
inductive Step (partitionOf : String → Nat) (topic : String) :
    OrderFlow → FlowMove → OrderFlow → Prop
  | generate (s : OrderFlow) (g count : Nat) (free : s.generators g = none) :
      Step partitionOf topic s (.generate g count) (s.setGenerator g { remaining := count })
  | insert (s : OrderFlow) (g n : Nat) (customerId status : String) (amountCents : Int)
      (now : Instant) (orderId eventId : String) (createdAt : Instant) (db : Database)
      (e : OrderEvent) (running : s.generators g = some ⟨n + 1, .ready⟩)
      -- `gen_random_uuid`
      (fresh : eventId ∉ s.db.outbox.map OutboxRow.eventId)
      (inserted : s.db.insertOrderWithEvent customerId status amountCents "USD" now orderId eventId
        createdAt = some (db, e)) :
      Step partitionOf topic s
        (.insert g customerId status amountCents now orderId eventId createdAt)
        ({ s with db := db }.setGenerator g ⟨n, .inserted e⟩)
  | send (s : OrderFlow) (g n : Nat) (e : OrderEvent)
      (running : s.generators g = some ⟨n, .inserted e⟩) :
      Step partitionOf topic s (.send g)
        ({ s with requests := e :: s.requests }.setGenerator g ⟨n, .sent e⟩)
  -- a retry lands the request again
  | land (s : OrderFlow) (e : OrderEvent) (sent : e ∈ s.requests) :
      Step partitionOf topic s (.land e) (s.append (partitionOf e.orderId) e)
  | acknowledge (s : OrderFlow) (g n offset : Nat) (e : OrderEvent)
      (running : s.generators g = some ⟨n, .sent e⟩)
      (landed : (s.log (partitionOf e.orderId))[offset]? = some e) :
      Step partitionOf topic s (.acknowledge g offset)
        (s.setGenerator g ⟨n, .acknowledged e ⟨topic, partitionOf e.orderId, offset⟩⟩)
  | mark (s : OrderFlow) (g n : Nat) (now : Instant) (e : OrderEvent) (eventId : String)
      (published : LogPosition) (running : s.generators g = some ⟨n, .acknowledged e published⟩)
      (ident : e.eventId = some eventId) :
      Step partitionOf topic s (.mark g now)
        ({ s with db := s.db.markEventPublished eventId published now }.setGenerator g ⟨n, .ready⟩)
  | stop (s : OrderFlow) (g : Nat) :
      Step partitionOf topic s (.stop g)
        { s with generators := Function.update s.generators g none }
  | index (s : OrderFlow) (m : IndexerMove) (t : Indexing Document) (own : ∀ e, m ≠ .produce e)
      (step : Indexing.Step partitionOf topic none orderIndex s.indexing m t) :
      Step partitionOf topic s (.index m) { s with indexing := t }
  -- a reindex from a row of the source, read at any time before
  | repair (s : OrderFlow) (o : Order) (now : Instant) :
      Step partitionOf topic s (.repair o now) (s.setStore (indexOrder s.index o now none))
  | touch (s : OrderFlow) (ids : List String) (updatedAt : Instant) :
      Step partitionOf topic s (.touch ids updatedAt)
        { s with db := s.db.setOrdersUpdatedAt ids updatedAt }

/-- After `init`: nothing is stored anywhere. -/
def Starting (s : OrderFlow) : Prop :=
  s.db.orders = [] ∧ s.db.outbox = [] ∧ s.generators = (fun _ => none) ∧ s.requests = [] ∧
    s.indexing = ⟨fun _ => [], fun _ => 0, ∅, none⟩

/-! ## Where events come from -/

variable {partitionOf : String → Nat} {topic : String}

/-- A row and the order it was inserted with, whose update time alone may have changed. -/
def Issued (o : Order) (row : OutboxRow) : Prop :=
  row.orderId = o.id ∧ row.payload = { o with updatedAt := row.payload.updatedAt }

variable (partitionOf topic) in
/-- The event stands at the position. -/
def Stands (s : OrderFlow) (e : OrderEvent) (at_ : LogPosition) : Prop :=
  at_.topic = topic ∧ at_.partition = partitionOf e.orderId ∧
    ∃ offset : Nat, at_.offset = offset ∧ (s.log (partitionOf e.orderId))[offset]? = some e

variable (partitionOf topic) in
structure Coherent (s : OrderFlow) : Prop where
  issued : List.Forall₂ Issued s.db.orders s.db.outbox
  orderIds : (s.db.orders.map Order.id).Nodup
  eventIds : (s.db.outbox.map OutboxRow.eventId).Nodup
  held : ∀ g generator e, s.generators g = some generator → generator.stage.event = some e →
    e ∈ s.db.events
  requested : ∀ e ∈ s.requests, e ∈ s.db.events
  logged : ∀ p, ∀ e ∈ s.log p, e ∈ s.db.events ∧ partitionOf e.orderId = p
  acknowledged : ∀ g n e at_, s.generators g = some ⟨n, .acknowledged e at_⟩ →
    s.Stands partitionOf topic e at_
  recorded : ∀ row ∈ s.db.outbox, row.publishedAt.isSome →
    ∃ at_, row.position = some at_ ∧ s.Stands partitionOf topic row.event at_

theorem log_append (s : OrderFlow) (p q : Nat) (e : OrderEvent) :
    (s.append p e).log q = if q = p then s.log p ++ [e] else s.log q := by
  change Function.update s.indexing.log p (s.indexing.log p ++ [e]) q = _
  rw [Function.update_apply]
  rfl

theorem log_append_prefix (s : OrderFlow) (p q : Nat) (e : OrderEvent) :
    s.log q <+: (s.append p e).log q := by
  rw [log_append]
  split
  · rename_i same
    rw [same]
    exact List.prefix_append _ _
  · exact List.prefix_refl _

/-- The topic only grows. -/
theorem step_log {s t : OrderFlow} {m : FlowMove} (h : Step partitionOf topic s m t) (p : Nat) :
    s.log p <+: t.log p := by
  cases h with
  | land e sent => exact s.log_append_prefix _ p e
  | index m t own step =>
    have kept : s.indexing.log = t.log := by
      cases step with
      | produce e => exact absurd rfl (own e)
      | _ => rfl
    change s.indexing.log p <+: t.log p
    rw [kept]
  | _ => exact List.prefix_refl _

/-- What stands in a log stands in it as it grows. -/
theorem stays {α : Type} {l l' : List α} {i : Nat} {a : α} (found : l[i]? = some a)
    (grown : l <+: l') : l'[i]? = some a := by
  obtain ⟨more, rfl⟩ := grown
  rw [List.getElem?_append_left (List.getElem?_eq_some_iff.mp found).1]
  exact found

theorem Stands.mono {s t : OrderFlow} {e : OrderEvent} {at_ : LogPosition}
    (h : s.Stands partitionOf topic e at_) (log : ∀ p, s.log p <+: t.log p) :
    t.Stands partitionOf topic e at_ := by
  obtain ⟨at_topic, here, offset, same, found⟩ := h
  exact ⟨at_topic, here, offset, same, stays found (log _)⟩

section Coherent

variable {s : OrderFlow} (h : s.Coherent partitionOf topic)
include h

/-- An event of the outbox is known by its id. -/
theorem Coherent.event_eq {row : OutboxRow} {e : OrderEvent} (mem : row ∈ s.db.outbox)
    (known : e ∈ s.db.events) (same : e.eventId = some row.eventId) : e = row.event := by
  obtain ⟨row', mem', rfl⟩ := List.mem_map.mp known
  have rows := List.inj_on_of_nodup_map h.eventIds mem' mem (Option.some.inj same)
  rw [rows]

/-- A generator goes on with an event that it has. -/
theorem Coherent.staged {g n : Nat} {stage : Generating}
    (held : ∀ e, stage.event = some e → e ∈ s.db.events)
    (acknowledged : ∀ e at_, stage = .acknowledged e at_ → s.Stands partitionOf topic e at_) :
    (s.setGenerator g ⟨n, stage⟩).Coherent partitionOf topic := by
  refine { h with held := fun g' generator e found => ?_, acknowledged := fun g' n' e at_ found => ?_ }
  · change Function.update s.generators g (some ⟨n, stage⟩) g' = some generator at found
    by_cases same : g' = g
    · rw [same, Function.update_self] at found
      obtain rfl := Option.some.inj found
      exact held e
    · rw [Function.update_of_ne same] at found
      exact h.held g' generator e found
  · change Function.update s.generators g (some ⟨n, stage⟩) g' = some _ at found
    by_cases same : g' = g
    · rw [same, Function.update_self] at found
      exact acknowledged e at_ (congrArg Generator.stage (Option.some.inj found))
    · rw [Function.update_of_ne same] at found
      exact h.acknowledged g' n' e at_ found

theorem Coherent.stopped (g : Nat) :
    ({ s with generators := Function.update s.generators g none } : OrderFlow).Coherent partitionOf
      topic := by
  have before : ∀ g' generator, Function.update s.generators g none g' = some generator →
      s.generators g' = some generator := by
    intro g' generator found
    by_cases same : g' = g
    · rw [same, Function.update_self] at found
      cases found
    · rwa [Function.update_of_ne same] at found
  exact { h with
    held := fun g' generator e found => h.held g' generator e (before _ _ found)
    acknowledged := fun g' n e at_ found => h.acknowledged g' n e at_ (before _ _ found) }

theorem Coherent.inserted {db : Database} {row : OutboxRow}
    (orders : db.orders = s.db.orders ++ [row.payload]) (outbox : db.outbox = s.db.outbox ++ [row])
    (orderId : row.orderId = row.payload.id) (unused : row.payload.id ∉ s.db.orders.map Order.id)
    (fresh : row.eventId ∉ s.db.outbox.map OutboxRow.eventId) (unpublished : row.publishedAt = none) :
    ({ s with db := db } : OrderFlow).Coherent partitionOf topic := by
  have grown : ∀ e ∈ s.db.events, e ∈ db.events := by
    intro e known
    rw [Database.events, outbox, List.map_append]
    exact List.mem_append_left _ known
  refine ⟨?_, ?_, ?_,
    fun g generator e running staged => grown e (h.held g generator e running staged),
    fun e sent => grown e (h.requested e sent), fun p e mem => ?_, h.acknowledged,
    fun r mem published => ?_⟩
  · rw [orders, outbox]
    exact List.rel_append h.issued (.cons ⟨orderId, rfl⟩ .nil)
  · rw [orders, List.map_append]
    exact List.nodup_append'.mpr ⟨h.orderIds, List.nodup_singleton _, by simpa using unused⟩
  · rw [outbox, List.map_append]
    exact List.nodup_append'.mpr ⟨h.eventIds, List.nodup_singleton _, by simpa using fresh⟩
  · exact ⟨grown e (h.logged p e mem).1, (h.logged p e mem).2⟩
  · change r ∈ db.outbox at mem
    rw [outbox] at mem
    obtain old | new := List.mem_append.mp mem
    · exact h.recorded r old published
    · rw [List.mem_singleton.mp new, unpublished] at published
      cases published

theorem Coherent.marked {e : OrderEvent} {eventId : String} {published : LogPosition} {now : Instant}
    (known : e ∈ s.db.events) (ident : e.eventId = some eventId)
    (stands : s.Stands partitionOf topic e published) :
    ({ s with db := s.db.markEventPublished eventId published now } : OrderFlow).Coherent partitionOf
      topic := by
  have events := s.db.events_markEventPublished eventId published now
  refine ⟨?_, h.orderIds, ?_, ?_, ?_, ?_, h.acknowledged, fun row mem at_ => ?_⟩
  · refine List.forall₂_map_right_iff.mpr (h.issued.imp fun o row issued => ?_)
    split <;> exact issued
  · change ((s.db.outbox.map _).map OutboxRow.eventId).Nodup
    rw [List.map_map, List.map_congr_left (g := OutboxRow.eventId)]
    · exact h.eventIds
    · intro row _
      rw [Function.comp_apply]
      split <;> rfl
  · rw [events]
    exact h.held
  · rw [events]
    exact h.requested
  · rw [events]
    exact h.logged
  · obtain ⟨row', mem', same, rfl⟩ | ⟨mem', -⟩ := Database.mem_markEventPublished.mp mem
    · refine ⟨published, OutboxRow.position_mark now published row', ?_⟩
      rw [OutboxRow.event_mark, ← h.event_eq mem' known (by rw [ident, same])]
      exact stands
    · exact h.recorded row mem' at_

theorem Coherent.touched (ids : List String) (updatedAt : Instant) :
    ({ s with db := s.db.setOrdersUpdatedAt ids updatedAt } : OrderFlow).Coherent partitionOf topic := by
  refine { h with issued := ?_, orderIds := ?_ }
  · refine List.forall₂_map_left_iff.mpr (h.issued.imp fun o row issued => ?_)
    split <;> exact issued
  · change ((s.db.orders.map _).map Order.id).Nodup
    rw [List.map_map, List.map_congr_left (g := Order.id)]
    · exact h.orderIds
    · intro o _
      rw [Function.comp_apply]
      split <;> rfl

theorem Coherent.landed {e : OrderEvent} (known : e ∈ s.db.events) :
    (s.append (partitionOf e.orderId) e).Coherent partitionOf topic := by
  have grown := fun q => s.log_append_prefix (partitionOf e.orderId) q e
  refine { h with
    logged := fun p a mem => ?_
    acknowledged := fun g n a at_ running => (h.acknowledged g n a at_ running).mono grown
    recorded := fun row mem published => ?_ }
  · rw [log_append] at mem
    split at mem
    · rename_i same
      obtain old | new := List.mem_append.mp mem
      · rw [same]
        exact h.logged _ a old
      · rw [List.mem_singleton.mp new]
        exact ⟨known, same.symm⟩
    · exact h.logged p a mem
  · obtain ⟨at_, recorded, stands⟩ := h.recorded row mem published
    exact ⟨at_, recorded, stands.mono grown⟩

/-- The topic and the outbox are not the indexer's. -/
theorem Coherent.indexed {t : Indexing Document} (log : t.log = s.indexing.log) :
    ({ s with indexing := t } : OrderFlow).Coherent partitionOf topic := by
  have same : ({ s with indexing := t } : OrderFlow).log = s.log := log
  refine { h with
    logged := by rw [same]; exact h.logged
    acknowledged := fun g n e at_ running => (h.acknowledged g n e at_ running).mono fun p => ?_
    recorded := fun row mem published => ?_ }
  · rw [same]
  · obtain ⟨at_, recorded, stands⟩ := h.recorded row mem published
    exact ⟨at_, recorded, stands.mono fun p => by rw [same]⟩

end Coherent

theorem starting_coherent {s : OrderFlow} (h : s.Starting) : s.Coherent partitionOf topic := by
  obtain ⟨orders, outbox, generators, requests, indexing⟩ := h
  have log : s.log = fun _ => [] := congrArg Indexing.log indexing
  refine ⟨?_, ?_, ?_, ?_, ?_, ?_, ?_, ?_⟩ <;>
    simp [orders, outbox, generators, requests, log]

theorem step_coherent {s t : OrderFlow} {m : FlowMove} (step : Step partitionOf topic s m t)
    (h : s.Coherent partitionOf topic) : t.Coherent partitionOf topic := by
  cases step with
  | generate g count free => exact h.staged nofun nofun
  | insert g n customerId status amountCents now orderId eventId createdAt db e running fresh inserted =>
    obtain ⟨row, orders, outbox, rfl, rfl, orderId, unused, unpublished⟩ :=
      Database.insertOrderWithEvent_some inserted
    refine (h.inserted orders outbox orderId unused fresh unpublished).staged ?_ nofun
    rintro _ ⟨⟩
    exact List.mem_map.mpr ⟨row, by rw [outbox]; simp, rfl⟩
  | send g n e running =>
    have known := h.held g _ e running rfl
    have sent : ({ s with requests := e :: s.requests } : OrderFlow).Coherent partitionOf topic :=
      { h with
        requested := fun a mem => by
          obtain rfl | old := List.mem_cons.mp mem
          · exact known
          · exact h.requested a old }
    refine sent.staged ?_ nofun
    rintro _ ⟨⟩
    exact known
  | land e sent => exact h.landed (h.requested e sent)
  | acknowledge g n offset e running landed =>
    refine h.staged ?_ ?_
    · rintro _ ⟨⟩
      exact h.held g _ e running rfl
    · rintro _ _ ⟨⟩
      exact ⟨rfl, rfl, offset, rfl, landed⟩
  | mark g n now e eventId published running ident =>
    exact (h.marked (h.held g _ e running rfl) ident (h.acknowledged g n e published running)).staged
      nofun nofun
  | stop g => exact h.stopped g
  | index m t own step =>
    apply h.indexed
    cases step with
    | produce e => exact absurd rfl (own e)
    | _ => rfl
  | repair o now => exact h.indexed rfl
  | touch ids updatedAt => exact h.touched ids updatedAt

theorem run_coherent {history : List FlowMove} {s : OrderFlow}
    (run : Run Starting (Step partitionOf topic) history s) : s.Coherent partitionOf topic := by
  induction run with
  | start h => exact starting_coherent h
  | next _ step ih => exact step_coherent step ih

theorem Coherent.orderIds_eq {s : OrderFlow} (h : s.Coherent partitionOf topic) :
    s.db.outbox.map OutboxRow.orderId = s.db.orders.map Order.id := by
  have issued := h.issued
  generalize s.db.orders = orders, s.db.outbox = outbox at issued
  induction issued with
  | nil => rfl
  | cons first _ ih => rw [List.map_cons, List.map_cons, ih, first.1]

theorem partner {α β : Type} {R : α → β → Prop} {l : List α} {l' : List β} (h : List.Forall₂ R l l')
    {a : α} (mem : a ∈ l) : ∃ b ∈ l', R a b := by
  induction h with
  | nil => cases mem
  | cons first _ ih =>
    obtain rfl | later := List.mem_cons.mp mem
    · exact ⟨_, List.mem_cons_self, first⟩
    · obtain ⟨b, mem', related⟩ := ih later
      exact ⟨b, List.mem_cons_of_mem _ mem', related⟩

theorem Coherent.row_order {s : OrderFlow} (h : s.Coherent partitionOf topic) {row : OutboxRow}
    (mem : row ∈ s.db.outbox) : row.orderId = row.payload.id := by
  obtain ⟨o, -, same, payload⟩ := partner h.issued.flip mem
  rw [same, payload]

theorem Coherent.position {s : OrderFlow} (h : s.Coherent partitionOf topic) {row : OutboxRow}
    (mem : row ∈ s.db.outbox) (published : row.publishedAt.isSome) : ∃ offset : Nat,
      row.position = some ⟨topic, partitionOf row.orderId, offset⟩ ∧
      (s.log (partitionOf row.orderId))[offset]? = some row.event := by
  obtain ⟨at_, position, at_topic, here, offset, same, found⟩ := h.recorded row mem published
  have names : at_ = ⟨topic, partitionOf row.orderId, offset⟩ := LogPosition.ext at_topic here same
  exact ⟨offset, by rw [position, names], found⟩

/-- Whatever generators crash or publish twice: a row that is marked names the place where
its own event stands, the topic holds events of the outbox and nothing else, and each
order is in the outbox once. -/
theorem outbox_positions_true {history : List FlowMove} {s : OrderFlow}
    (run : Run Starting (Step partitionOf topic) history s) :
    (∀ row ∈ s.db.outbox, row.publishedAt.isSome → ∃ offset : Nat,
      row.position = some ⟨topic, partitionOf row.orderId, offset⟩ ∧
      (s.log (partitionOf row.orderId))[offset]? = some row.event) ∧
    (∀ p, ∀ e ∈ s.log p, partitionOf e.orderId = p ∧ ∃ row ∈ s.db.outbox, row.event = e) ∧
    s.db.outbox.map OutboxRow.orderId = s.db.orders.map Order.id ∧
    (s.db.outbox.map OutboxRow.orderId).Nodup := by
  have h := run_coherent run
  have ids := h.orderIds_eq
  refine ⟨fun row => h.position, fun p e mem => ?_, ids, by rw [ids]; exact h.orderIds⟩
  obtain ⟨known, here⟩ := h.logged p e mem
  exact ⟨here, List.mem_map.mp known⟩

def initialised : OrderFlow := ⟨⟨[], [], 1⟩, fun _ => none, [], ⟨fun _ => [], fun _ => 0, ∅, none⟩⟩

/-- One paid order, committed and not yet published. -/
def inserted : List FlowMove :=
  [.insert 0 "customer-001" "paid" 1000 0 "o1" "e1" 0, .generate 0 1]

def insertedRow : OutboxRow := ⟨⟨1, 0, none, none, none, none⟩, "e1", "OrderPaid", "o1",
  ⟨"o1", "customer-001", "paid", 1000, "USD", 1, 0, 0⟩⟩

/-- Its event lands twice before it is acknowledged. -/
def publishedTwice : List FlowMove :=
  [.mark 0 (seconds 2), .acknowledge 0 1, .land insertedRow.event, .land insertedRow.event, .send 0] ++
    inserted

def insertedFlow : OrderFlow :=
  { initialised.setGenerator 0 { remaining := 1 } with
    db := ⟨[insertedRow.payload], [insertedRow], 2⟩ }.setGenerator 0 ⟨0, .inserted insertedRow.event⟩

theorem inserted_run :
    Run Starting (Step (fun _ => 0) "dataguard.order-events") inserted insertedFlow := by
  have started : Run Starting (Step (fun _ => 0) "dataguard.order-events") [] initialised :=
    .start ⟨rfl, rfl, rfl, rfl, rfl⟩
  exact (started.next (.generate _ 0 1 rfl)).next
    (.insert _ 0 0 "customer-001" "paid" 1000 0 "o1" "e1" 0 _ insertedRow.event rfl
      List.not_mem_nil rfl)

def secondCopy : LogPosition := ⟨"dataguard.order-events", 0, 1⟩

def publishedFlow : OrderFlow :=
  let landed := ({ insertedFlow with requests := [insertedRow.event] }.setGenerator 0
    ⟨0, .sent insertedRow.event⟩).append 0 insertedRow.event |>.append 0 insertedRow.event
  { landed.setGenerator 0 ⟨0, .acknowledged insertedRow.event secondCopy⟩ with
    db := ⟨[insertedRow.payload], [insertedRow.mark (seconds 2) secondCopy], 2⟩ }.setGenerator 0
      ⟨0, .ready⟩

theorem publishedTwice_run :
    Run Starting (Step (fun _ => 0) "dataguard.order-events") publishedTwice publishedFlow := by
  have sent := inserted_run.next (.send _ 0 0 insertedRow.event rfl)
  have landed := (sent.next (.land _ insertedRow.event (.head _))).next
    (.land _ insertedRow.event (.head _))
  have acknowledged := landed.next (.acknowledge _ 0 0 1 insertedRow.event rfl rfl)
  exact acknowledged.next (.mark _ 0 0 (seconds 2) _ "e1" _ rfl rfl)

theorem outbox_positions_true_twice : ∃ offset : Nat,
    (insertedRow.mark (seconds 2) secondCopy).position = some ⟨"dataguard.order-events", 0, offset⟩ ∧
      (publishedFlow.log 0)[offset]? = some insertedRow.event :=
  (outbox_positions_true publishedTwice_run).1 _ (.head _) rfl

end OrderFlow

end KubeDataGuard
