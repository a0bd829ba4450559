import KubeDataGuard.Worker.Indexer
import KubeDataGuard.Worker.Outbox

/-!
# Orders and their outbox rows

The transactions of `db` on the way of a generated order: it is inserted
together with its outbox row, and the row is marked once its event is published.
-/

namespace KubeDataGuard

/-- A row of `order_events_outbox` with its event. -/
structure OutboxRow extends OutboxEvent where
  eventId : String
  eventType : String
  orderId : String
  /-- `payload["order"]` -/
  payload : Order
  deriving DecidableEq

/-- The event as it is published: the payload, and the id the server gave it. -/
def OutboxRow.event (row : OutboxRow) : OrderEvent :=
  ⟨some row.eventId, row.eventType, row.orderId, row.payload⟩

def OutboxRow.mark (now : Instant) (published : LogPosition) (row : OutboxRow) : OutboxRow :=
  { row with
    publishedAt := some now
    publishedTopic := some published.topic
    publishedPartition := some published.partition
    publishedOffset := some published.offset }

@[simp] theorem OutboxRow.event_mark (now : Instant) (published : LogPosition) (row : OutboxRow) :
    (row.mark now published).event = row.event := rfl

theorem OutboxRow.position_mark (now : Instant) (published : LogPosition) (row : OutboxRow) :
    (row.mark now published).position = some published := rfl

structure Database where
  orders : List Order
  outbox : List OutboxRow
  nextId : Int

/-- The event types of `order_event_payload`; no other status passes the table's check. -/
def orderEventType : String → Option String
  | "created" => some "OrderCreated"
  | "paid" => some "OrderPaid"
  | "cancelled" => some "OrderCancelled"
  | _ => none

namespace Database

/-- `insert_order_with_event`: both rows, or none where a check or the primary key
fails. The server generates the ids and `createdAt`. -/
def insertOrderWithEvent (db : Database) (customerId status : String) (amountCents : Int)
    (currency : String) (now : Instant) (orderId eventId : String) (createdAt : Instant) :
    Option (Database × OrderEvent) :=
  if amountCents < 0 ∨ 2147483647 < amountCents ∨ orderId ∈ db.orders.map Order.id then none
  else (orderEventType status).map fun eventType =>
    let order : Order := ⟨orderId, customerId, status, amountCents, currency, 1, now, now⟩
    let row : OutboxRow :=
      { id := db.nextId
        createdAt, eventId, eventType, orderId
        publishedAt := none
        publishedTopic := none
        publishedPartition := none
        publishedOffset := none
        payload := order }
    ({ orders := db.orders ++ [order], outbox := db.outbox ++ [row], nextId := db.nextId + 1 },
      row.event)

/-- `mark_event_published` -/
def markEventPublished (db : Database) (eventId : String) (published : LogPosition)
    (now : Instant) : Database :=
  { db with
    outbox := db.outbox.map fun row => if row.eventId = eventId then row.mark now published
      else row }

/-- `set_orders_updated_at` -/
def setOrdersUpdatedAt (db : Database) (ids : List String) (updatedAt : Instant) : Database :=
  { db with orders := db.orders.map fun o => if o.id ∈ ids then { o with updatedAt } else o }

/-- The events of the outbox, published or not. -/
def events (db : Database) : List OrderEvent := db.outbox.map OutboxRow.event

theorem insertOrderWithEvent_some {db db' : Database}
    {customerId status currency orderId eventId : String}
    {amountCents : Int} {now createdAt : Instant} {e : OrderEvent}
    (h : db.insertOrderWithEvent customerId status amountCents currency now orderId eventId createdAt =
      some (db', e)) :
    ∃ row : OutboxRow, db'.orders = db.orders ++ [row.payload] ∧ db'.outbox = db.outbox ++ [row] ∧
      e = row.event ∧ row.eventId = eventId ∧ row.orderId = row.payload.id ∧
      row.payload.id ∉ db.orders.map Order.id ∧ row.publishedAt = none := by
  unfold insertOrderWithEvent at h
  split at h
  · cases h
  · rename_i passes
    obtain ⟨eventType, -, made⟩ := Option.map_eq_some_iff.mp h
    obtain ⟨rfl, rfl⟩ := Prod.mk.inj made
    refine ⟨_, rfl, rfl, rfl, rfl, rfl, ?_, rfl⟩
    intro taken
    exact passes (Or.inr (Or.inr taken))

theorem mem_markEventPublished {db : Database} {eventId : String} {published : LogPosition}
    {now : Instant} {row : OutboxRow} :
    row ∈ (db.markEventPublished eventId published now).outbox ↔
      (∃ row' ∈ db.outbox, row'.eventId = eventId ∧ row = row'.mark now published) ∨
        row ∈ db.outbox ∧ row.eventId ≠ eventId := by
  unfold markEventPublished
  rw [List.mem_map]
  constructor
  · rintro ⟨row', mem, rfl⟩
    split
    · rename_i same
      exact Or.inl ⟨row', mem, same, rfl⟩
    · rename_i other
      exact Or.inr ⟨mem, other⟩
  · rintro (⟨row', mem, same, rfl⟩ | ⟨mem, other⟩)
    · exact ⟨row', mem, if_pos same⟩
    · exact ⟨row, mem, if_neg other⟩

theorem events_markEventPublished (db : Database) (eventId : String) (published : LogPosition)
    (now : Instant) : (db.markEventPublished eventId published now).events = db.events := by
  unfold events markEventPublished
  rw [List.map_map]
  apply List.map_congr_left
  intro row _
  rw [Function.comp_apply]
  split <;> rfl

end Database

end KubeDataGuard
