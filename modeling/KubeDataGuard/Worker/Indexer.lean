import KubeDataGuard.General.Delivery
import KubeDataGuard.General.Runs
import KubeDataGuard.Worker.Orders
import KubeDataGuard.Worker.Report

/-!
# The indexers

`run_indexer` and `run_cache_indexer` over `consume_events`: one loop that
overwrites a document under its order's id and then commits. The consumer moves
a partition's position before it yields a message, and a commit stores the
positions of every partition. A process ends at any point and the next one
starts at the committed offsets.
-/

namespace KubeDataGuard

open Runs Delivery

structure OrderEvent where
  eventId : Option String
  eventType : String
  orderId : String
  order : Order
  deriving DecidableEq

/-- Where an indexer writes an event's order, and what it writes there. -/
structure IndexTarget (δ : Type) where
  key : String → String
  keysDistinct : Function.Injective key
  metadata : OrderEvent → (topic : String) → (partition offset : Nat) → EventMetadata
  document : Order → Instant → Option EventMetadata → δ

def orderIndex : IndexTarget Document where
  key := id
  keysDistinct := Function.injective_id
  metadata e topic partition offset :=
    ⟨e.eventId, some e.eventType, some topic, some partition, some offset⟩
  document := orderDocument

def orderKey (cachePrefix orderId : String) : String := cachePrefix ++ ":" ++ orderId

/-- The `dict` that `cache_order` stores as JSON. -/
def cacheDocument (o : Order) (now : Instant) (metadata : Option EventMetadata) : Fields :=
  let order : Fields := orderColumns.map fun field => (field, scalarJson (o.get field))
  let document := (order.set "cached_at" (.str (strftimeUtc now))).set "dataguard_cached_from"
    (.str (if metadata.isSome then "kafka" else "source"))
  match metadata with
  | none => document
  | some m => ((document.set "dataguard_topic" (optionalText m.topic)).set "dataguard_partition"
      (optionalInt m.partition)).set "dataguard_offset" (optionalInt m.offset)

def orderCache (cachePrefix : String) : IndexTarget Fields where
  key := orderKey cachePrefix
  keysDistinct _ _ h := (String.append_right_inj (cachePrefix ++ ":")).mp h
  metadata _ topic partition offset := ⟨none, none, some topic, some partition, some offset⟩
  document := cacheDocument

namespace IndexTarget

variable {δ : Type} (target : IndexTarget δ)

def put (store : AList fun _ : String => δ) (o : Order) (now : Instant)
    (metadata : Option EventMetadata) : AList fun _ : String => δ :=
  store.insert (target.key o.id) (target.document o now metadata)

def read (store : AList fun _ : String => δ) (id : String) : Option δ :=
  store.lookup (target.key id)

theorem read_put (store : AList fun _ : String => δ) (o : Order) (now : Instant)
    (metadata : Option EventMetadata) :
    target.read (target.put store o now metadata) o.id = some (target.document o now metadata) :=
  AList.lookup_insert store

theorem read_put_ne (store : AList fun _ : String => δ) (o : Order) (now : Instant)
    (metadata : Option EventMetadata) {id : String} (h : o.id ≠ id) :
    target.read (target.put store o now metadata) id = target.read store id :=
  AList.lookup_insert_ne fun same => h (target.keysDistinct same).symm

end IndexTarget

/-! ## The loop -/

inductive Stage
  | polling
  | delivered (partition offset : Nat) (event : OrderEvent)
  /-- Written or skipped; the commit is next. -/
  | handled (partition offset : Nat)

structure Consumer where
  maxMessages : Option Int
  position : Nat → Nat
  seen : Int := 0
  processed : Nat := 0
  indexed : Nat := 0
  skipped : Nat := 0
  paidSeen : Nat := 0
  stage : Stage := .polling

/-- `max_messages is not None and seen >= max_messages` -/
def Consumer.full (c : Consumer) : Bool := c.maxMessages.any fun limit => decide (limit ≤ c.seen)

/-- `skip_every_paid and paid_seen % skip_every_paid == 0` -/
def everyNthPaid (skipEveryPaid : Option Int) (paidSeen : Nat) : Bool :=
  skipEveryPaid.any fun n => decide (n ≠ 0) && decide ((paidSeen : Int) % n = 0)

def skipDue (skipEveryPaid : Option Int) (paidSeen : Nat) (e : OrderEvent) : Bool :=
  decide (e.eventType = "OrderPaid") && everyNthPaid skipEveryPaid paidSeen

structure Indexing (δ : Type) where
  log : Nat → List OrderEvent
  committed : Nat → Nat
  store : AList fun _ : String => δ
  consumer : Option Consumer

inductive IndexerMove
  | produce (e : OrderEvent)
  | start (maxMessages : Option Int)
  | deliver (partition : Nat)
  | skip (partition offset : Nat)
  | write (partition offset : Nat) (now : Instant)
  | commit
  /-- No message within `consumer_timeout_ms`: the loop ends and the call returns. -/
  | timeout
  | crash

/-- One step of the topic or of the group's only consumer. -/
inductive Indexing.Step {δ : Type} (partitionOf : String → Nat) (topic : String)
    (skipEveryPaid : Option Int) (target : IndexTarget δ) :
    Indexing δ → IndexerMove → Indexing δ → Prop
  | produce (s : Indexing δ) (e : OrderEvent) :
      Step partitionOf topic skipEveryPaid target s (.produce e)
        { s with log := Function.update s.log (partitionOf e.order.id)
                          (s.log (partitionOf e.order.id) ++ [e]) }
  | start (s : Indexing δ) (maxMessages : Option Int) (stopped : s.consumer = none) :
      Step partitionOf topic skipEveryPaid target s (.start maxMessages)
        { s with consumer := some { maxMessages, position := s.committed } }
  | deliver (s : Indexing δ) (c : Consumer) (p : Nat) (e : OrderEvent)
      (running : s.consumer = some c) (polling : c.stage = .polling)
      (next : (s.log p)[c.position p]? = some e) :
      Step partitionOf topic skipEveryPaid target s (.deliver p)
        { s with
          consumer := some { c with
            position := Function.update c.position p (c.position p + 1)
            processed := c.processed + 1
            paidSeen := if e.eventType = "OrderPaid" then c.paidSeen + 1 else c.paidSeen
            stage := .delivered p (c.position p) e } }
  | skip (s : Indexing δ) (c : Consumer) (p offset : Nat) (e : OrderEvent)
      (running : s.consumer = some c) (delivered : c.stage = .delivered p offset e)
      (due : skipDue skipEveryPaid c.paidSeen e = true) :
      Step partitionOf topic skipEveryPaid target s (.skip p offset)
        { s with consumer := some { c with skipped := c.skipped + 1, stage := .handled p offset } }
  | write (s : Indexing δ) (c : Consumer) (p offset : Nat) (e : OrderEvent) (now : Instant)
      (running : s.consumer = some c) (delivered : c.stage = .delivered p offset e)
      (due : skipDue skipEveryPaid c.paidSeen e = false) :
      Step partitionOf topic skipEveryPaid target s (.write p offset now)
        { s with
          store := target.put s.store e.order now (some (target.metadata e topic p offset))
          consumer := some { c with indexed := c.indexed + 1, stage := .handled p offset } }
  | commit (s : Indexing δ) (c : Consumer) (p offset : Nat)
      (running : s.consumer = some c) (handled : c.stage = .handled p offset) :
      Step partitionOf topic skipEveryPaid target s .commit
        { s with
          committed := c.position
          consumer := (some { c with seen := c.seen + 1, stage := .polling }).filter
            fun c => !c.full }
  | timeout (s : Indexing δ) (c : Consumer) (running : s.consumer = some c)
      (polling : c.stage = .polling) :
      Step partitionOf topic skipEveryPaid target s .timeout { s with consumer := none }
  | crash (s : Indexing δ) :
      Step partitionOf topic skipEveryPaid target s .crash { s with consumer := none }

/-- A new group: nothing committed, whatever the topic and the target hold. -/
def Indexing.Starting {δ : Type} (partitionOf : String → Nat) (s : Indexing δ) : Prop :=
  (∀ p, ∀ e ∈ s.log p, partitionOf e.order.id = p) ∧ (∀ p, s.committed p = 0) ∧ s.consumer = none

def runIndexer (partitionOf : String → Nat) (topic : String) (skipEveryPaid : Option Int) :
    Indexing Document → IndexerMove → Indexing Document → Prop :=
  Indexing.Step partitionOf topic skipEveryPaid orderIndex

def runCacheIndexer (partitionOf : String → Nat) (topic cachePrefix : String)
    (skipEveryPaid : Option Int) : Indexing Fields → IndexerMove → Indexing Fields → Prop :=
  Indexing.Step partitionOf topic skipEveryPaid (orderCache cachePrefix)

/-! ## What has been written -/

def wrote (history : List IndexerMove) (p offset : Nat) : Bool :=
  history.any fun
    | .write q i _ => decide (q = p) && decide (i = offset)
    | _ => false

/-- The number of leading events of a partition that have been written. -/
def leadingWritten (history : List IndexerMove) {δ : Type} (s : Indexing δ) (p : Nat) : Nat :=
  ((List.range (s.log p).length).takeWhile fun i => wrote history p i).length

theorem leadingWritten_eq {history : List IndexerMove} {δ : Type} {s : Indexing δ} {p n : Nat}
    (written : ∀ i, wrote history p i = decide (i < n)) (le : n ≤ (s.log p).length) :
    leadingWritten history s p = n := by
  obtain ⟨m, hm⟩ := Nat.exists_eq_add_of_le le
  have first : ∀ i ∈ List.range n, (fun i => wrote history p i) i = true := by
    intro i hi
    simp [written, List.mem_range.mp hi]
  have rest : ((List.range m).map (n + ·)).takeWhile (fun i => wrote history p i) = [] := by
    cases m with
    | zero => rfl
    | succ m => simp [List.range_succ_eq_map, written]
  rw [leadingWritten, hm, List.range_add, List.takeWhile_append_of_pos first, rest,
    List.append_nil, List.length_range]

section Invariant

variable {δ : Type} {target : IndexTarget δ} {partitionOf : String → Nat} {topic : String}

/-- The document is the payload of the event at the offset. -/
def IndexTarget.Renders (target : IndexTarget δ) (topic : String) (p : Nat) (e : OrderEvent)
    (offset : Nat) (d : δ) : Prop :=
  ∃ now, d = target.document e.order now (some (target.metadata e topic p offset))

/-- A document of the index has the columns of the order of the event it renders. -/
theorem orderIndex_columns {p offset : Nat} {e : OrderEvent} {d : Document}
    (rendered : orderIndex.Renders topic p e offset d) :
    ∀ field ∈ orderColumns, d.get field = e.order.get field := by
  obtain ⟨now, rfl⟩ := rendered
  intro field column
  simp only [orderColumns, List.mem_cons, List.not_mem_nil, or_false] at column
  rcases column with rfl | rfl | rfl | rfl | rfl | rfl | rfl | rfl <;> rfl

/-- No field that `cache_order` adds is a column, so the cached columns are the event's too. -/
theorem orderCache_columns {cachePrefix : String} {p offset : Nat} {e : OrderEvent} {d : Fields}
    (rendered : (orderCache cachePrefix).Renders topic p e offset d) :
    ∀ field ∈ orderColumns, d.get? field = some (scalarJson (e.order.get field)) := by
  obtain ⟨now, rfl⟩ := rendered
  intro field column
  have added : field ∉ ["cached_at", "dataguard_cached_from", "dataguard_topic",
      "dataguard_partition", "dataguard_offset"] := by
    revert field
    decide
  simp only [List.mem_cons, List.not_mem_nil, or_false, not_or] at added
  obtain ⟨cachedAt, cachedFrom, ofTopic, ofPartition, ofOffset⟩ := added
  change (cacheDocument e.order now (some _)).get? field = _
  unfold cacheDocument
  rw [Fields.get?_set_ne _ _ ofOffset, Fields.get?_set_ne _ _ ofPartition,
    Fields.get?_set_ne _ _ ofTopic, Fields.get?_set_ne _ _ cachedFrom,
    Fields.get?_set_ne _ _ cachedAt]
  exact Fields.get?_map _ column

/-- The consumer's positions are the committed offsets, up to the item it holds. -/
def Consumer.InStep (s : Indexing δ) (history : List IndexerMove) (c : Consumer) : Prop :=
  match c.stage with
  | .polling => c.position = s.committed
  | .delivered p offset e => offset = s.committed p ∧ (s.log p)[offset]? = some e ∧
      c.position = Function.update s.committed p (offset + 1)
  | .handled p offset => offset = s.committed p ∧ wrote history p offset = true ∧
      c.position = Function.update s.committed p (offset + 1)

/-- Of each partition the committed events are written, at most one more is, and
the target reflects what is written. -/
structure Applied (target : IndexTarget δ) (topic : String) (s : Indexing δ)
    (history : List IndexerMove) (p n : Nat) : Prop where
  bounds : n = s.committed p ∨ n = s.committed p + 1
  inLog : n ≤ (s.log p).length
  written : ∀ i, wrote history p i = decide (i < n)
  reflects : Reflects (fun e : OrderEvent => e.order.id) (target.read s.store)
    (target.Renders topic p) ((s.log p).take n)

structure Indexed (target : IndexTarget δ) (partitionOf : String → Nat) (topic : String)
    (history : List IndexerMove) (s : Indexing δ) : Prop where
  routed : ∀ p, ∀ e ∈ s.log p, partitionOf e.order.id = p
  applied : ∀ p, ∃ n, Applied target topic s history p n
  consumer : ∀ c, s.consumer = some c → c.InStep s history

theorem wrote_cons {m : IndexerMove} {history : List IndexerMove} {p i : Nat}
    (other : ∀ now, m ≠ .write p i now) : wrote (m :: history) p i = wrote history p i := by
  rw [wrote, List.any_cons]
  cases m with
  | write q j now =>
    have apart : ¬(q = p ∧ j = i) := by
      rintro ⟨rfl, rfl⟩
      exact other now rfl
    simp only [wrote, ← Bool.decide_and, apart, decide_false, Bool.false_or]
  | _ => rfl

theorem wrote_write {history : List IndexerMove} {p i : Nat} {now : Instant} :
    wrote (.write p i now :: history) p i = true := by
  simp [wrote]

theorem starting_indexed {s : Indexing δ} (h : s.Starting partitionOf) :
    Indexed target partitionOf topic [] s := by
  obtain ⟨routed, fresh, stopped⟩ := h
  refine ⟨routed, fun p => ⟨0, Or.inl (fresh p).symm, Nat.zero_le _, fun i => by simp [wrote], ?_⟩,
    fun c running => ?_⟩
  · intro k a i found
    simp [latest] at found
  · rw [stopped] at running
    cases running

/-- A step that neither writes nor commits keeps what is applied. -/
theorem Applied.kept {s t : Indexing δ} {history : List IndexerMove} {m : IndexerMove} {p n : Nat}
    (h : Applied target topic s history p n) (quiet : ∀ i now, m ≠ .write p i now)
    (committed : t.committed p = s.committed p) (store : t.store = s.store)
    (log : s.log p <+: t.log p) : Applied target topic t (m :: history) p n := by
  obtain ⟨more, hlog⟩ := log
  refine ⟨?_, ?_, fun i => ?_, ?_⟩
  · rw [committed]
    exact h.bounds
  · rw [← hlog, List.length_append]
    exact Nat.le_add_right_of_le h.inLog
  · rw [wrote_cons (quiet i)]
    exact h.written i
  · rw [← hlog, List.take_append_of_le_length h.inLog, store]
    exact h.reflects

/-- The write of the event after the committed ones, the first time or again. -/
theorem Applied.write {s t : Indexing δ} {history : List IndexerMove} {p n : Nat} {e : OrderEvent}
    {now : Instant} (h : Applied target topic s history p n)
    (next : (s.log p)[s.committed p]? = some e) (committed : t.committed = s.committed)
    (log : t.log = s.log)
    (store : t.store = target.put s.store e.order now
      (some (target.metadata e topic p (s.committed p)))) :
    Applied target topic t (.write p (s.committed p) now :: history) p (s.committed p + 1) := by
  have inLog := (List.getElem?_eq_some_iff.mp next).1
  refine ⟨?_, ?_, fun i => ?_, ?_⟩
  · rw [committed]
    exact Or.inr rfl
  · rw [log]
    exact inLog
  · by_cases this_one : i = s.committed p
    · rw [this_one, wrote_write]
      simp
    · have other : ∀ at_, IndexerMove.write p (s.committed p) now ≠ .write p i at_ := by
        rintro at_ same
        exact this_one (IndexerMove.write.inj same).2.1.symm
      rw [wrote_cons other, h.written i]
      have := h.bounds
      simp only [decide_eq_decide]
      omega
  · rw [log, store]
    exact h.reflects.write h.bounds next ⟨now, rfl⟩ (target.read_put _ _ _ _)
      fun k hk => target.read_put_ne _ _ _ _ hk

/-- A write to one partition leaves the orders of the others alone. -/
theorem Applied.write_elsewhere {s t : Indexing δ} {history : List IndexerMove} {p q n offset : Nat}
    {e : OrderEvent} {now : Instant} {metadata : Option EventMetadata}
    (h : Applied target topic s history q n) (apart : q ≠ p)
    (routed : ∀ q, ∀ e ∈ s.log q, partitionOf e.order.id = q)
    (mem : e ∈ s.log p) (committed : t.committed = s.committed) (log : t.log = s.log)
    (store : t.store = target.put s.store e.order now metadata) :
    Applied target topic t (.write p offset now :: history) q n := by
  refine ⟨?_, ?_, fun i => ?_, ?_⟩
  · rw [committed]
    exact h.bounds
  · rw [log]
    exact h.inLog
  · rw [wrote_cons (fun at_ same => apart (IndexerMove.write.inj same).1.symm)]
    exact h.written i
  · rw [log, store]
    apply h.reflects.congr
    intro a ha
    apply target.read_put_ne
    intro same
    have at_q := routed q a (List.mem_of_mem_take ha)
    rw [← same, routed p e mem] at at_q
    exact apart at_q.symm

theorem Applied.commit {s t : Indexing δ} {history : List IndexerMove} {p n : Nat}
    (h : Applied target topic s history p n) (written : wrote history p (s.committed p) = true)
    (committed : t.committed p = s.committed p + 1) (store : t.store = s.store)
    (log : t.log = s.log) : Applied target topic t (.commit :: history) p n := by
  have all : n = s.committed p + 1 := by
    have below := h.written (s.committed p)
    rw [written, eq_comm, decide_eq_true_eq] at below
    have := h.bounds
    omega
  refine ⟨Or.inl (all.trans committed.symm), ?_, fun i => ?_, ?_⟩
  · rw [log]
    exact h.inLog
  · rw [wrote_cons (by simp)]
    exact h.written i
  · rw [log, store]
    exact h.reflects

theorem Consumer.InStep.congr {s t : Indexing δ} {history : List IndexerMove} {m : IndexerMove}
    {c : Consumer} (h : c.InStep s history) (committed : t.committed = s.committed)
    (log : ∀ p, s.log p <+: t.log p) : c.InStep t (m :: history) := by
  unfold Consumer.InStep at h ⊢
  cases stage : c.stage with
  | polling =>
    simp only [stage] at h ⊢
    rw [committed, h]
  | delivered p offset e =>
    simp only [stage] at h ⊢
    obtain ⟨rfl, found, position⟩ := h
    obtain ⟨more, hlog⟩ := log p
    rw [committed, ← hlog, List.getElem?_append_left (List.getElem?_eq_some_iff.mp found).1]
    exact ⟨rfl, found, position⟩
  | handled p offset =>
    simp only [stage] at h ⊢
    obtain ⟨rfl, written, position⟩ := h
    have still : wrote (m :: history) p (s.committed p) = true := by
      rw [wrote, List.any_cons] at *
      rw [written, Bool.or_true]
    rw [committed]
    exact ⟨rfl, still, position⟩

/-- A step that only moves the consumer. -/
theorem Indexed.moved {history : List IndexerMove} {s t : Indexing δ} {m : IndexerMove}
    (h : Indexed target partitionOf topic history s) (quiet : ∀ p i now, m ≠ .write p i now)
    (committed : t.committed = s.committed) (store : t.store = s.store) (log : t.log = s.log)
    (consumer : ∀ c, t.consumer = some c → c.InStep t (m :: history)) :
    Indexed target partitionOf topic (m :: history) t := by
  refine ⟨?_, fun p => ?_, consumer⟩
  · rw [log]
    exact h.routed
  · obtain ⟨n, hn⟩ := h.applied p
    refine ⟨n, hn.kept (quiet p) (congrFun committed p) store ?_⟩
    rw [log]

/-- An event that is appended to its partition changes nothing before it. -/
theorem Indexed.produced {history : List IndexerMove} {s : Indexing δ}
    (h : Indexed target partitionOf topic history s) (e : OrderEvent) :
    Indexed target partitionOf topic (.produce e :: history)
      { s with log := Function.update s.log (partitionOf e.order.id)
                        (s.log (partitionOf e.order.id) ++ [e]) } := by
  have grown : ∀ p, s.log p <+:
      Function.update s.log (partitionOf e.order.id) (s.log (partitionOf e.order.id) ++ [e]) p := by
    intro p
    by_cases same : p = partitionOf e.order.id
    · rw [same, Function.update_self]
      exact List.prefix_append _ _
    · rw [Function.update_of_ne same]
  refine ⟨fun p a ha => ?_, fun p => ?_, fun c running => ?_⟩
  · simp only at ha
    by_cases same : p = partitionOf e.order.id
    · rw [same, Function.update_self] at ha
      rcases List.mem_append.mp ha with old | new
      · rw [same]
        exact h.routed _ a old
      · rw [List.mem_singleton.mp new, same]
    · rw [Function.update_of_ne same] at ha
      exact h.routed p a ha
  · obtain ⟨n, hn⟩ := h.applied p
    exact ⟨n, hn.kept (by simp) rfl rfl (grown p)⟩
  · exact (h.consumer c running).congr rfl grown

theorem step_indexed {history : List IndexerMove} {s t : Indexing δ} {m : IndexerMove}
    (h : Indexing.Step partitionOf topic none target s m t)
    (inv : Indexed target partitionOf topic history s) :
    Indexed target partitionOf topic (m :: history) t := by
  have ⟨routed, applied, consumer⟩ := inv
  cases h with
  | produce e => exact inv.produced e
  | start maxMessages stopped =>
    refine inv.moved nofun rfl rfl rfl fun c running => ?_
    cases running
    exact rfl
  | deliver c p e running polling next =>
    have position : c.position = s.committed := by
      simpa [Consumer.InStep, polling] using consumer c running
    refine inv.moved nofun rfl rfl rfl fun c' running' => ?_
    cases running'
    rw [position] at next
    exact ⟨congrFun position p, by rw [position]; exact next, by rw [position]⟩
  | skip c p offset e running delivered due => simp [skipDue, everyNthPaid] at due
  | write c p offset e now running delivered due =>
    have held : offset = s.committed p ∧ (s.log p)[offset]? = some e ∧
        c.position = Function.update s.committed p (offset + 1) := by
      simpa [Consumer.InStep, delivered] using consumer c running
    obtain ⟨rfl, found, position⟩ := held
    refine ⟨routed, fun q => ?_, fun c' running' => ?_⟩
    · obtain ⟨n, hn⟩ := applied q
      by_cases same : q = p
      · subst same
        exact ⟨_, hn.write found rfl rfl rfl⟩
      · exact ⟨n, hn.write_elsewhere same routed (List.mem_of_getElem? found) rfl rfl rfl⟩
    · cases running'
      exact ⟨rfl, wrote_write, position⟩
  | commit c p offset running handled =>
    have held : offset = s.committed p ∧ wrote history p offset = true ∧
        c.position = Function.update s.committed p (offset + 1) := by
      simpa [Consumer.InStep, handled] using consumer c running
    obtain ⟨rfl, written, position⟩ := held
    refine ⟨routed, fun q => ?_, fun c' running' => ?_⟩
    · obtain ⟨n, hn⟩ := applied q
      by_cases same : q = p
      · subst same
        exact ⟨n, hn.commit written (by simp [position]) rfl rfl⟩
      · exact ⟨n, hn.kept (by simp) (by simp [position, same]) rfl (List.prefix_refl _)⟩
    · simp only [Option.filter_eq_some_iff] at running'
      obtain ⟨rfl⟩ := running'.1
      exact rfl
  | timeout c running polling => exact inv.moved nofun rfl rfl rfl nofun
  | crash => exact inv.moved nofun rfl rfl rfl nofun

theorem run_indexed {history : List IndexerMove} {s : Indexing δ}
    (run : Run (Indexing.Starting partitionOf) (Indexing.Step partitionOf topic none target)
      history s) : Indexed target partitionOf topic history s :=
  run.invariant (fun _ h => starting_indexed h) fun _ _ _ _ _ inv h => step_indexed h inv

variable (target topic) in
/-- No committed event is lost: in every partition the committed events are
written and at most one more is, and an order with a committed event has the
document of its last committed event, or of the one written after those. -/
def NoneLost (history : List IndexerMove) (s : Indexing δ) : Prop :=
  ∀ p, s.committed p ≤ leadingWritten history s p ∧
    leadingWritten history s p ≤ s.committed p + 1 ∧
    (∀ i, wrote history p i = true → i ≤ s.committed p) ∧
    ∀ committedEvent ∈ (s.log p).take (s.committed p), ∃ e offset d,
      e.order.id = committedEvent.order.id ∧
      target.read s.store e.order.id = some d ∧ target.Renders topic p e offset d ∧
      (latest (fun e : OrderEvent => e.order.id) e.order.id ((s.log p).take (s.committed p)) =
          some (e, offset) ∨
        offset = s.committed p ∧ (s.log p)[offset]? = some e ∧ wrote history p offset = true ∧
          leadingWritten history s p = s.committed p + 1)

theorem indexed_noneLost {history : List IndexerMove} {s : Indexing δ}
    (h : Indexed target partitionOf topic history s) : NoneLost target topic history s := by
  intro p
  obtain ⟨n, hn⟩ := h.applied p
  have leading := leadingWritten_eq hn.written hn.inLog
  have bounds := hn.bounds
  refine ⟨by omega, by omega, fun i hi => ?_, fun a ha => ?_⟩
  · rw [hn.written i, decide_eq_true_eq] at hi
    omega
  · have mem : a ∈ (s.log p).take n := by
      apply List.take_subset_take_left _ _ ha
      omega
    obtain ⟨⟨e, i⟩, found⟩ := latest_isSome (fun e : OrderEvent => e.order.id) mem
    obtain ⟨at_, same⟩ := latest_mem found
    obtain ⟨d, stored, rendered⟩ := hn.reflects _ e i found
    rw [← same] at stored found
    refine ⟨e, i, d, same, stored, rendered, ?_⟩
    rcases bounds with settled | ahead
    · rw [settled] at found
      exact Or.inl found
    · rw [ahead] at found at_
      rcases latest_take_succ found with before | last
      · exact Or.inl before
      · rw [last] at at_ ⊢
        rw [List.getElem?_take_of_lt (Nat.lt_succ_self _)] at at_
        have written := hn.written (s.committed p)
        rw [ahead, decide_eq_true (Nat.lt_succ_self _)] at written
        exact Or.inr ⟨rfl, at_, written, by rw [leading, ahead]⟩

end Invariant

theorem committed_events_kept (partitionOf : String → Nat) (topic cachePrefix : String) :
    (∀ history s, Run (Indexing.Starting partitionOf) (runIndexer partitionOf topic none) history s →
      NoneLost orderIndex topic history s) ∧
    (∀ history s, Run (Indexing.Starting partitionOf)
      (runCacheIndexer partitionOf topic cachePrefix none) history s →
      NoneLost (orderCache cachePrefix) topic history s) ∧
    ∀ p e offset,
      (∀ d, orderIndex.Renders topic p e offset d →
        ∀ field ∈ orderColumns, d.get field = e.order.get field) ∧
      ∀ d, (orderCache cachePrefix).Renders topic p e offset d →
        ∀ field ∈ orderColumns, d.get? field = some (scalarJson (e.order.get field)) :=
  ⟨fun _ _ run => indexed_noneLost (run_indexed run),
    fun _ _ run => indexed_noneLost (run_indexed run),
    fun _ _ _ => ⟨fun _ => orderIndex_columns, fun _ => orderCache_columns⟩⟩

def orderPaid : OrderEvent where
  eventId := some "e1"
  eventType := "OrderPaid"
  orderId := "o1"
  order := ⟨"o1", "c1", "paid", 100, "USD", 1, 0, 0⟩

/-- A crash between the write and the commit, and a second consumer that writes again. -/
def redelivery : List IndexerMove :=
  [.commit, .write 0 0 (seconds 2), .deliver 0, .start (some 1), .crash, .write 0 0 (seconds 1),
    .deliver 0, .start none, .produce orderPaid]

theorem redelivery_run {δ : Type} (target : IndexTarget δ) : ∃ s : Indexing δ, s.committed 0 = 1 ∧
    Run (Indexing.Starting fun _ => 0) (Indexing.Step (fun _ => 0) "order-events" none target)
      redelivery s := by
  let empty : Indexing δ := ⟨fun _ => [], fun _ => 0, ∅, none⟩
  have started : Run (Indexing.Starting fun _ => 0)
      (Indexing.Step (fun _ => 0) "order-events" none target) [] empty :=
    .start (by simp [Indexing.Starting, empty])
  have produced := started.next (.produce empty orderPaid)
  have first := produced.next (.start _ none rfl)
  have written := (first.next (.deliver _ _ 0 orderPaid rfl rfl rfl)).next
    (.write _ _ 0 0 orderPaid (seconds 1) rfl rfl rfl)
  have second := (written.next (.crash _)).next (.start _ (some 1) rfl)
  have again := (second.next (.deliver _ _ 0 orderPaid rfl rfl rfl)).next
    (.write _ _ 0 0 orderPaid (seconds 2) rfl rfl rfl)
  exact ⟨_, rfl, again.next (.commit _ _ 0 0 rfl rfl)⟩

theorem committed_events_kept_redelivery :
    (∃ s : Indexing Document, s.committed 0 = 1 ∧
      NoneLost orderIndex "order-events" redelivery s) ∧
    ∃ s : Indexing Fields, s.committed 0 = 1 ∧
      NoneLost (orderCache "order") "order-events" redelivery s := by
  obtain ⟨s, committed, run⟩ := redelivery_run orderIndex
  obtain ⟨c, cacheCommitted, cacheRun⟩ := redelivery_run (orderCache "order")
  have kept := committed_events_kept (fun _ => 0) "order-events" "order"
  exact ⟨⟨s, committed, kept.1 _ _ run⟩, c, cacheCommitted, kept.2.1 _ _ cacheRun⟩

end KubeDataGuard
