import KubeDataGuard.Worker.OrderFlow
import KubeDataGuard.Worker.Query

/-!
# What a bounded frontier says of the index

The indexer of a flow makes the steps it makes on its own; only what the index
holds differs, since repairs write to it too. A document with an offset tells
that everything before that offset has been written once, and documents stay:
where the frontier of a check is bounded, every order whose outbox row is old
enough is in the index.
-/

namespace KubeDataGuard

open Runs Watermark

/-! ## What an indexer has stored -/

theorem wrote_later {moves : List IndexerMove} {p i : Nat} (written : wrote moves p i = true)
    (m : IndexerMove) : wrote (m :: moves) p i = true := by
  rw [wrote, List.any_cons, ← wrote, written, Bool.or_true]

section Stored

open Delivery

variable {δ : Type} {target : IndexTarget δ} {partitionOf : String → Nat} {topic : String}
  {history : List IndexerMove} {s : Indexing δ}

/-- A new group over a target that holds nothing. -/
def Indexing.StartingEmpty (partitionOf : String → Nat) (s : Indexing δ) : Prop :=
  s.Starting partitionOf ∧ s.store = ∅

variable (run : Run (Indexing.StartingEmpty partitionOf)
  (Indexing.Step partitionOf topic none target) history s)
include run

theorem empty_indexed : Indexed target partitionOf topic history s :=
  run_indexed (run.started fun _ h => h.1)

/-- What has been written is there, or else what a later event of its order wrote. -/
theorem read_of_wrote {p i : Nat} {e : OrderEvent} (found : (s.log p)[i]? = some e)
    (written : wrote history p i = true) : (target.read s.store e.order.id).isSome := by
  obtain ⟨n, applied⟩ := (empty_indexed run).applied p
  have before : i < n := of_decide_eq_true ((applied.written i).symm.trans written)
  have within : ((s.log p).take n)[i]? = some e := by
    rw [List.getElem?_take_of_lt before]
    exact found
  obtain ⟨⟨a, j⟩, last⟩ := latest_isSome (fun e : OrderEvent => e.order.id)
    (List.mem_of_getElem? within)
  obtain ⟨d, held, -⟩ := applied.reflects _ a j last
  rw [held, Option.isSome_some]

/-- What is there was written, and renders an event of its order. -/
theorem read_rendered {id : String} {d : δ} (held : target.read s.store id = some d) :
    ∃ p i e, (s.log p)[i]? = some e ∧ wrote history p i = true ∧ e.order.id = id ∧
      target.Renders topic p e i d := by
  induction run generalizing id d with
  | start h =>
    obtain ⟨-, store⟩ := h
    rw [store] at held
    cases held
  | @next history s m t before step ih =>
    have kept : ∀ {id d}, target.read s.store id = some d → (∀ p, s.log p <+: t.log p) →
        ∃ p i e, (t.log p)[i]? = some e ∧ wrote (m :: history) p i = true ∧ e.order.id = id ∧
          target.Renders topic p e i d := by
      intro id d held grown
      obtain ⟨p, i, e, found, written, same, rendered⟩ := ih held
      exact ⟨p, i, e, OrderFlow.stays found (grown p), wrote_later written m, same, rendered⟩
    cases step with
    | produce e =>
      refine kept held fun p => ?_
      change s.log p <+: Function.update s.log _ _ p
      rw [Function.update_apply]
      split
      · rename_i same
        rw [same]
        exact List.prefix_append _ _
      · exact List.prefix_rfl
    | write c p offset e now running delivered due =>
      change target.read (target.put s.store e.order now _) id = some d at held
      by_cases same : e.order.id = id
      · rw [← same, target.read_put] at held
        have at_stage := (empty_indexed before).consumer c running
        rw [Consumer.InStep, delivered] at at_stage
        exact ⟨p, offset, e, at_stage.2.1, wrote_write, same, now, (Option.some.inj held).symm⟩
      · rw [target.read_put_ne _ _ _ _ same] at held
        exact kept held fun _ => List.prefix_rfl
    | _ => exact kept held fun _ => List.prefix_rfl

end Stored

namespace OrderFlow

variable {partitionOf : String → Nat} {topic : String}

/-- What of a flow the indexer's own model has. -/
def indexerMove : FlowMove → Option IndexerMove
  | .land e => some (.produce e)
  | .index m => some m
  | _ => none

abbrev indexerMoves (history : List FlowMove) : List IndexerMove := history.filterMap indexerMove

/-- No step of the indexer depends on what the index holds. -/
theorem step_restored {s t : Indexing Document} {m : IndexerMove}
    (h : Indexing.Step partitionOf topic none orderIndex s m t) (store : Index) :
    ∃ store', Indexing.Step partitionOf topic none orderIndex { s with store := store } m
      { t with store := store' } := by
  cases h with
  | produce e => exact ⟨store, .produce { s with store := store } e⟩
  | start maxMessages stopped => exact ⟨store, .start { s with store := store } maxMessages stopped⟩
  | deliver c p e running polling next =>
    exact ⟨store, .deliver { s with store := store } c p e running polling next⟩
  | skip c p offset e running delivered due =>
    exact ⟨store, .skip { s with store := store } c p offset e running delivered due⟩
  | write c p offset e now running delivered due =>
    exact ⟨_, .write { s with store := store } c p offset e now running delivered due⟩
  | commit c p offset running handled =>
    exact ⟨store, .commit { s with store := store } c p offset running handled⟩
  | timeout c running polling => exact ⟨store, .timeout { s with store := store } c running polling⟩
  | crash => exact ⟨store, .crash { s with store := store }⟩

/-- A request that lands is produced to the partition of its order. -/
theorem land_produces {s : OrderFlow} (h : s.Coherent partitionOf topic) {e : OrderEvent}
    (sent : e ∈ s.requests) (store : Index) :
    Indexing.Step partitionOf topic none orderIndex { s.indexing with store := store } (.produce e)
      { (s.append (partitionOf e.orderId) e).indexing with store := store } := by
  obtain ⟨row, mem, rfl⟩ := List.mem_map.mp (h.requested e sent)
  have same : row.event.orderId = row.event.order.id := h.row_order mem
  rw [same]
  exact .produce { s.indexing with store := store } row.event

/-- The indexer of a flow runs as the indexer alone does, over an index of its own. -/
theorem run_indexer {history : List FlowMove} {s : OrderFlow}
    (run : Run Starting (Step partitionOf topic) history s) :
    ∃ store, Run (Indexing.Starting partitionOf) (Indexing.Step partitionOf topic none orderIndex)
      (indexerMoves history) { s.indexing with store := store } := by
  induction run with
  | start h =>
    obtain ⟨-, -, -, -, indexing⟩ := h
    rw [indexing]
    exact ⟨∅, .start ⟨by simp, fun _ => rfl, rfl⟩⟩
  | @next history s m t before step ih =>
    obtain ⟨store, ih⟩ := ih
    cases step with
    | land e sent => exact ⟨store, ih.next (land_produces (run_coherent before) sent store)⟩
    | index m t own step =>
      obtain ⟨store', step'⟩ := step_restored step store
      exact ⟨store', ih.next step'⟩
    | _ => exact ⟨store, ih⟩

section Progress

variable {history : List FlowMove} {s : OrderFlow}
  (run : Run Starting (Step partitionOf topic) history s)
include run

/-- Of each partition the events up to some place have been written. -/
theorem run_written (p : Nat) : ∃ n, n ≤ (s.log p).length ∧
    ∀ i, wrote (indexerMoves history) p i = decide (i < n) := by
  obtain ⟨store, indexing⟩ := run_indexer run
  obtain ⟨n, applied⟩ := (run_indexed indexing).applied p
  exact ⟨n, applied.inLog, applied.written⟩

theorem run_delivered {c : Consumer} {p offset : Nat} {e : OrderEvent}
    (running : s.indexing.consumer = some c) (delivered : c.stage = .delivered p offset e) :
    (s.log p)[offset]? = some e := by
  obtain ⟨store, indexing⟩ := run_indexer run
  have held := (run_indexed indexing).consumer c running
  rw [Consumer.InStep, delivered] at held
  exact held.2.1

end Progress

/-! ## What the index holds -/

/-- What has been written once is in the index, and an offset there was written. -/
structure Stored (topic : String) (history : List FlowMove) (s : OrderFlow) : Prop where
  kept : ∀ p i e, wrote (indexerMoves history) p i = true → (s.log p)[i]? = some e →
    (s.index.lookup e.order.id).isSome
  told : ∀ id at_, s.index.position id = some at_ → at_.topic = topic ∧
    ∃ p i : Nat, at_.partition = p ∧ at_.offset = i ∧ wrote (indexerMoves history) p i = true

theorem kept_indexOrder {index : Index} {id : String} (h : (index.lookup id).isSome) (o : Order)
    (now : Instant) (metadata : Option EventMetadata) :
    ((indexOrder index o now metadata).lookup id).isSome := by
  by_cases same : id = o.id
  · rw [same, lookup_indexOrder, Option.isSome_some]
  · rwa [lookup_indexOrder_ne _ _ _ _ same]

theorem position_written (index : Index) (o : Order) (now : Instant)
    (metadata : Option EventMetadata) (id : String) :
    (indexOrder index o now metadata).position id =
      if id = o.id then metadata.bind EventMetadata.position else index.position id := by
  unfold Index.position
  split
  · rename_i same
    rw [same, lookup_indexOrder]
    rfl
  · rename_i other
    rw [lookup_indexOrder_ne _ _ _ _ other]

/-- A step that leaves the index alone and writes nothing. -/
theorem Stored.quiet {history : List FlowMove} {s t : OrderFlow} {m : FlowMove}
    (h : s.Stored topic history) (store : t.index = s.index) (log : t.log = s.log)
    (quiet : ∀ p i, wrote (indexerMoves (m :: history)) p i = wrote (indexerMoves history) p i) :
    t.Stored topic (m :: history) := by
  constructor
  · intro p i e written found
    rw [quiet] at written
    rw [log] at found
    rw [store]
    exact h.kept p i e written found
  · intro id at_ held
    rw [store] at held
    obtain ⟨at_topic, p, i, here, same, written⟩ := h.told id at_ held
    exact ⟨at_topic, p, i, here, same, by rw [quiet, written]⟩

theorem Stored.landed {history : List FlowMove} {s : OrderFlow}
    (run : Run Starting (Step partitionOf topic) history s) (h : s.Stored topic history) (p : Nat)
    (e : OrderEvent) : (s.append p e).Stored topic (.land e :: history) := by
  have quiet : ∀ p i, wrote (indexerMoves (.land e :: history)) p i =
      wrote (indexerMoves history) p i := fun _ _ => wrote_cons (by simp)
  constructor
  · intro q i a written found
    rw [quiet] at written
    obtain ⟨n, inLog, upto⟩ := run_written run q
    have before : i < n := of_decide_eq_true ((upto i).symm.trans written)
    obtain ⟨old, there⟩ : ∃ old, (s.log q)[i]? = some old :=
      ⟨_, List.getElem?_eq_getElem (Nat.lt_of_lt_of_le before inLog)⟩
    have still := stays there (s.log_append_prefix p q e)
    rw [found] at still
    obtain rfl := Option.some.inj still
    exact h.kept q i a written there
  · intro id at_ held
    obtain ⟨at_topic, q, i, here, same, written⟩ := h.told id at_ held
    exact ⟨at_topic, q, i, here, same, by rw [quiet, written]⟩

theorem Stored.repaired {history : List FlowMove} {s : OrderFlow} (h : s.Stored topic history)
    (o : Order) (now : Instant) :
    (s.setStore (indexOrder s.index o now none)).Stored topic (.repair o now :: history) := by
  constructor
  · intro p i e written found
    exact kept_indexOrder (h.kept p i e written found) o now none
  · intro id at_ held
    change (indexOrder s.index o now none).position id = some at_ at held
    rw [position_written] at held
    split at held
    · cases held
    · exact h.told id at_ held

theorem Stored.written {history : List FlowMove} {s : OrderFlow} {t : Indexing Document}
    {p offset : Nat} {now : Instant} {e : OrderEvent} (h : s.Stored topic history)
    (found : (s.log p)[offset]? = some e) (log : t.log = s.indexing.log)
    (store : t.store = indexOrder s.index e.order now
      (some (orderIndex.metadata e topic p offset))) :
    ({ s with indexing := t } : OrderFlow).Stored topic (.index (.write p offset now) :: history) := by
  constructor
  · intro q i a written there
    change (t.log q)[i]? = some a at there
    rw [log] at there
    change (AList.lookup a.order.id t.store).isSome
    rw [store]
    by_cases this_one : q = p ∧ i = offset
    · obtain ⟨rfl, rfl⟩ := this_one
      obtain rfl := Option.some.inj (there.symm.trans found)
      rw [lookup_indexOrder, Option.isSome_some]
    · refine kept_indexOrder (h.kept q i a ?_ there) _ _ _
      refine (wrote_cons fun at_ same => this_one ?_).symm.trans written
      obtain ⟨rfl, rfl, -⟩ := IndexerMove.write.inj same
      exact ⟨rfl, rfl⟩
  · intro id at_ held
    change Index.position t.store id = some at_ at held
    rw [store, position_written] at held
    split at held
    · obtain rfl := Option.some.inj held
      exact ⟨rfl, p, offset, rfl, rfl, wrote_write⟩
    · obtain ⟨at_topic, q, i, here, same, written⟩ := h.told id at_ held
      exact ⟨at_topic, q, i, here, same, wrote_later written _⟩

theorem run_stored {history : List FlowMove} {s : OrderFlow}
    (run : Run Starting (Step partitionOf topic) history s) : s.Stored topic history := by
  induction run with
  | @start s h =>
    obtain ⟨-, -, -, -, indexing⟩ := h
    constructor
    · intro p i e written
      cases written
    · intro id at_ held
      rw [show s.index = ∅ from congrArg Indexing.store indexing] at held
      cases held
  | @next history s m t before step ih =>
    cases step with
    | land e sent => exact ih.landed before _ e
    | repair o now => exact ih.repaired o now
    | index m t own step =>
      cases step with
      | produce e => exact absurd rfl (own e)
      | write c p offset e now running delivered due =>
        exact ih.written (run_delivered before running delivered) rfl rfl
      | _ => exact ih.quiet rfl rfl fun _ _ => wrote_cons (by simp)
    | _ => exact ih.quiet rfl rfl fun _ _ => rfl

/-! ## Readings of one run -/

section Visits

variable {history : List (OrderFlow × FlowMove)} {s a b : OrderFlow}
  (run : Run Starting (Recorded (Step partitionOf topic)) history s)
include run

theorem seen_log (seen : Seen history s a) (p : Nat) : a.log p <+: s.log p :=
  run.seen_kept (I := fun t => a.log p <+: t.log p)
    (fun _ _ _ step grown => grown.trans (step_log step p)) seen List.prefix_rfl

/-- What stands at an offset in two states of a run is the same. -/
theorem seen_same (ha : Seen history s a) (hb : Seen history s b) {p i : Nat}
    {e e' : OrderEvent} (found : (a.log p)[i]? = some e) (found' : (b.log p)[i]? = some e') :
    e = e' :=
  Option.some.inj ((stays found (seen_log run ha p)).symm.trans
    (stays found' (seen_log run hb p)))

end Visits

section Reported

variable {history : List FlowMove} {s : OrderFlow} {name : String} {p i : Nat} {applied : Int}
  (run : Run Starting (Step partitionOf topic) history s)
  (reported : appliedOffset (targetOffsetFrontier name s.index) (some topic) (some (p : Int)) =
    some applied) (le : (i : Int) ≤ applied)
include run reported le

/-- An offset that the index tells of was written, and all before it. -/
theorem wrote_of_reported : wrote (indexerMoves history) p i = true := by
  obtain ⟨id, at_, held, stream, further⟩ := (reaches_iff_of_reported reported applied).mpr le_rfl
  obtain ⟨-, q, j, here, same, written⟩ := (run_stored run).told id at_ held
  obtain ⟨-, partition⟩ := Prod.mk.inj stream
  obtain rfl : q = p := by
    change at_.partition = p at partition
    omega
  obtain ⟨n, -, upto⟩ := run_written run q
  have before : j < n := of_decide_eq_true ((upto j).symm.trans written)
  rw [upto i, decide_eq_true_eq]
  omega

theorem written_of_reported :
    ∃ e, (s.log p)[i]? = some e ∧ (s.index.lookup e.order.id).isSome := by
  have written := wrote_of_reported run reported le
  obtain ⟨n, inLog, upto⟩ := run_written run p
  have before : i < n := of_decide_eq_true ((upto i).symm.trans written)
  obtain ⟨e, found⟩ : ∃ e, (s.log p)[i]? = some e :=
    ⟨_, List.getElem?_eq_getElem (Nat.lt_of_lt_of_le before inLog)⟩
  exact ⟨e, found, (run_stored run).kept p i e written found⟩

end Reported

def outboxEvents (s : OrderFlow) : List OutboxEvent := s.db.outbox.map OutboxRow.toOutboxEvent

/-- The frontiers of a check, read from two states of a flow. -/
structure ReadFrom (r : Readings) (maxLagSeconds : Int) (now : Instant) (name : String)
    (a b : OrderFlow) : Prop where
  outbox : r.outboxFrontier = .ok (outboxFrontier a.outboxEvents now maxLagSeconds)
  target : r.targetFrontier = .ok (targetOffsetFrontier name b.index)
  stream : ∀ offsets, r.streamOffsets = .ok offsets → ∃ partitions starts ends,
    offsets = topicOffsetRange partitions starts ends

theorem streamOffsets_once {call : Except Raised StreamOffsets}
    (stream : ∀ offsets, call = .ok offsets → ∃ partitions starts ends,
      offsets = topicOffsetRange partitions starts ends) :
    ((streamOffsets call).offsets.map PartitionOffsets.partition).Nodup := by
  cases call with
  | error e => exact List.nodup_nil
  | ok o =>
    obtain ⟨partitions, starts, ends, rfl⟩ := stream o rfl
    exact topicOffsetRange_once partitions starts ends

theorem ReadFrom.tabular {r : Readings} {maxLagSeconds : Int} {now : Instant} {name : String}
    {a b : OrderFlow} (read : ReadFrom r maxLagSeconds now name a b) :
    Tabular (streamOffsets r.streamOffsets) (targetOffsetFrontier name b.index) :=
  ⟨streamOffsets_once read.stream, appliedOffsets_once _⟩

theorem ReadFrom.status {r : Readings} {maxLagSeconds : Int} {now : Instant} {name : String}
    {a b : OrderFlow} (read : ReadFrom r maxLagSeconds now name a b) (watermark : Option String) :
    (r.evidence maxLagSeconds watermark none).cdcFrontier.get "status" =
      .str (frontierStatus (sourceLsnOrNone r.sourceLsn)
        (.ok (outboxFrontier a.outboxEvents now maxLagSeconds)) (streamOffsets r.streamOffsets)
        r.streamTopic (targetOffsetFrontier name b.index)) := by
  simp only [Readings.evidence, Readings.buildCheckCdcFrontier, read.outbox, read.target,
    buildCdcFrontier_status]

/-- A row that the frontier bounds: where its event stands, and that the index tells of it. -/
theorem Coherent.reported {a : OrderFlow} (h : a.Coherent partitionOf topic) {offsets : StreamOffsets}
    {streamTopic : String} {target : TargetFrontier} (tabular : Tabular offsets target)
    {row : OutboxRow} (mem : row ∈ a.db.outbox)
    (bounds : BoundsEvent offsets streamTopic target row.toOutboxEvent) :
    ∃ offset : Nat, row.position = some ⟨topic, partitionOf row.orderId, offset⟩ ∧
      (a.log (partitionOf row.orderId))[offset]? = some row.event ∧
      ∃ applied, appliedOffset target (some topic) (some (partitionOf row.orderId : Int)) =
        some applied ∧ (offset : Int) ≤ applied := by
  obtain ⟨published, of_topic, of_partition, of_offset, topics, partitions, offsets, -, -, applied⟩ :=
    bounds
  obtain ⟨i, position, found⟩ := h.position mem published
  obtain ⟨-, topics', partitions', offsets'⟩ := position_eq.mp position
  obtain rfl : topic = of_topic := Option.some.inj (topics'.symm.trans topics)
  obtain rfl : (partitionOf row.orderId : Int) = of_partition :=
    Option.some.inj (partitions'.symm.trans partitions)
  obtain rfl : (i : Int) = of_offset := Option.some.inj (offsets'.symm.trans offsets)
  obtain ⟨entry, listed, at_topic, here, applied, maximum, le⟩ := applied
  exact ⟨i, position, found, applied, (appliedOffset_eq tabular).mpr
    ⟨entry, listed, at_topic, congrArg some here, maximum⟩, le⟩

/-- What a bounded frontier tells of each row that is old enough. -/
theorem Coherent.bounded {a : OrderFlow} (h : a.Coherent partitionOf topic) {lsn : Option String}
    {offsets : StreamOffsets} {streamTopic : String} {target : TargetFrontier} {now : Instant}
    {maxLagSeconds : Int} (tabular : Tabular offsets target)
    (bounded : frontierStatus lsn (.ok (outboxFrontier a.outboxEvents now maxLagSeconds)) offsets
      streamTopic target = "bounded")
    {row : OutboxRow} (mem : row ∈ a.db.outbox) (old : row.createdAt ≤ now - seconds maxLagSeconds) :
    row.publishedAt.isSome ∧ ∃ offset : Nat,
      (a.log (partitionOf row.orderId))[offset]? = some row.event ∧
      ∃ applied, appliedOffset target (some topic) (some (partitionOf row.orderId : Int)) =
        some applied ∧ (offset : Int) ≤ applied := by
  obtain ⟨-, -, available, counts⟩ := frontierReasons_ok.mp (frontierStatus_bounded.mp bounded)
  have bounds := (eligible_bounded tabular available _ now maxLagSeconds).mp counts row.toOutboxEvent
    (List.mem_filter.mpr ⟨List.mem_map_of_mem mem, decide_eq_true old⟩)
  obtain ⟨offset, -, found, applied⟩ := h.reported tabular mem bounds
  exact ⟨bounds.1, offset, found, applied⟩

/-- Where the frontier of a check is bounded, each row that is old enough has been published
and its partition written to the index as far as its event, without a gap. -/
theorem bounded_frontier_applied {history : List (OrderFlow × FlowMove)} {s a b : OrderFlow}
    (run : Run Starting (Recorded (Step partitionOf topic)) history s)
    (ha : Seen history s a) (hb : Seen history s b) {r : Readings} {maxLagSeconds : Int}
    {now : Instant} {name : String} (read : ReadFrom r maxLagSeconds now name a b)
    (watermark : Option String)
    (bounded : (r.evidence maxLagSeconds watermark none).cdcFrontier.get "status" = .str "bounded") :
    ∀ row ∈ a.db.outbox, row.createdAt ≤ now - seconds maxLagSeconds →
      row.publishedAt.isSome ∧ (b.index.lookup row.orderId).isSome ∧
      ∃ offset : Nat, (b.log (partitionOf row.orderId))[offset]? = some row.event ∧
        ∀ i ≤ offset, ∃ e, (b.log (partitionOf row.orderId))[i]? = some e ∧
          (b.index.lookup e.order.id).isSome := by
  obtain ⟨_, -, toA⟩ := run.seen ha
  obtain ⟨_, -, toB⟩ := run.seen hb
  have coherent := run_coherent toA.moves
  rw [read.status, Json.str.injEq] at bounded
  intro row mem old
  obtain ⟨published, i, found, reached, reported, le⟩ :=
    coherent.bounded read.tabular bounded mem old
  have written : ∀ j ≤ i, ∃ e, (b.log (partitionOf row.orderId))[j]? = some e ∧
      (b.index.lookup e.order.id).isSome :=
    fun j before => written_of_reported toB.moves reported (by omega)
  obtain ⟨e, there, held⟩ := written i le_rfl
  obtain rfl := seen_same run ha hb found there
  refine ⟨published, ?_, i, there, written⟩
  rw [coherent.row_order mem]
  exact held

/-- The offsets of a topic of which the broker has expired what is before the beginnings. -/
def range (s : OrderFlow) (partitions : List Int) (beginnings : Int → Nat) : StreamOffsets :=
  topicOffsetRange partitions (fun p => some (beginnings p)) fun p => some (s.log p.toNat).length

/-- The frontiers of a check that reads everything at once. -/
def readings (s : OrderFlow) (topic lsn name : String) (partitions : List Int)
    (beginnings : Int → Nat) (maxLagSeconds : Int) (now : Instant) : Readings where
  checkedAt := now
  targetReadAt := now
  streamTopic := topic
  streamOffsets := .ok (s.range partitions beginnings)
  sourceLsn := .ok lsn
  outboxFrontier := .ok (outboxFrontier s.outboxEvents now maxLagSeconds)
  targetFrontier := .ok (targetOffsetFrontier name s.index)

theorem readings_readFrom (s : OrderFlow) (topic lsn name : String) (partitions : List Int)
    (beginnings : Int → Nat) (maxLagSeconds : Int) (now : Instant) :
    ReadFrom (s.readings topic lsn name partitions beginnings maxLagSeconds now) maxLagSeconds now
      name s s :=
  ⟨rfl, rfl, fun _ same => ⟨_, _, _, (Except.ok.inj same).symm⟩⟩

def indexedOnce : Index :=
  orderIndex.put ∅ insertedRow.payload (seconds 3)
    (some (orderIndex.metadata insertedRow.event "dataguard.order-events" 0 0))

def indexedTwice : Index :=
  orderIndex.put indexedOnce insertedRow.payload (seconds 4)
    (some (orderIndex.metadata insertedRow.event "dataguard.order-events" 0 1))

def consumedTo : Nat → Nat → Nat
  | 0 => fun _ => 0
  | n + 1 => Function.update (consumedTo n) 0 (consumedTo n 0 + 1)

/-- The published flow with its indexer at work. -/
def indexingFlow (committed : Nat) (index : Index) (consumer : Option Consumer) : OrderFlow :=
  { publishedFlow with indexing := ⟨publishedFlow.log, consumedTo committed, index, consumer⟩ }

/-- Both copies are consumed and written. -/
def consumedTwice : List FlowMove :=
  [.index .commit, .index (.write 0 1 (seconds 4)), .index (.deliver 0), .index .commit,
    .index (.write 0 0 (seconds 3)), .index (.deliver 0), .index (.start (some 2))] ++ publishedTwice

theorem consumedTwice_run : Run Starting (Step (fun _ => 0) "dataguard.order-events") consumedTwice
    (indexingFlow 2 indexedTwice none) := by
  let consumer (n : Nat) (stage : Stage) (indexed : Nat) (seen : Int) : Consumer :=
    { maxMessages := some 2
      position := consumedTo n
      seen, indexed, stage
      processed := n
      paidSeen := n }
  have started : Run Starting (Step (fun _ => 0) "dataguard.order-events") _
      (indexingFlow 0 ∅ (some (consumer 0 .polling 0 0))) :=
    publishedTwice_run.next (.index _ (.start (some 2)) _ nofun (.start _ (some 2) rfl))
  have first : Run Starting (Step (fun _ => 0) "dataguard.order-events") _
      (indexingFlow 0 ∅ (some (consumer 1 (.delivered 0 0 insertedRow.event) 0 0))) :=
    started.next (.index _ (.deliver 0) _ nofun
      (.deliver _ (consumer 0 .polling 0 0) 0 insertedRow.event rfl rfl rfl))
  have written : Run Starting (Step (fun _ => 0) "dataguard.order-events") _
      (indexingFlow 0 indexedOnce (some (consumer 1 (.handled 0 0) 1 0))) :=
    first.next (.index _ (.write 0 0 (seconds 3)) _ nofun
      (.write _ (consumer 1 (.delivered 0 0 insertedRow.event) 0 0) 0 0 insertedRow.event
        (seconds 3) rfl rfl rfl))
  have committed : Run Starting (Step (fun _ => 0) "dataguard.order-events") _
      (indexingFlow 1 indexedOnce (some (consumer 1 .polling 1 1))) :=
    written.next (.index _ .commit _ nofun (.commit _ (consumer 1 (.handled 0 0) 1 0) 0 0 rfl rfl))
  have second : Run Starting (Step (fun _ => 0) "dataguard.order-events") _
      (indexingFlow 1 indexedOnce (some (consumer 2 (.delivered 0 1 insertedRow.event) 1 1))) :=
    committed.next (.index _ (.deliver 0) _ nofun
      (.deliver _ (consumer 1 .polling 1 1) 0 insertedRow.event rfl rfl rfl))
  have rewritten : Run Starting (Step (fun _ => 0) "dataguard.order-events") _
      (indexingFlow 1 indexedTwice (some (consumer 2 (.handled 0 1) 2 1))) :=
    second.next (.index _ (.write 0 1 (seconds 4)) _ nofun
      (.write _ (consumer 2 (.delivered 0 1 insertedRow.event) 1 1) 0 1 insertedRow.event
        (seconds 4) rfl rfl rfl))
  exact rewritten.next (.index _ .commit _ nofun (.commit _ (consumer 2 (.handled 0 1) 2 1) 0 1 rfl rfl))

theorem bounded_frontier_applied_twice :
    (indexedTwice.lookup "o1").isSome ∧ ∃ offset : Nat,
      (publishedFlow.log 0)[offset]? = some insertedRow.event ∧
        ∀ i ≤ offset, ∃ e, (publishedFlow.log 0)[i]? = some e ∧
          (indexedTwice.lookup e.order.id).isSome := by
  obtain ⟨_, recorded⟩ := consumedTwice_run.recorded
  have read := readings_readFrom (indexingFlow 2 indexedTwice none) "dataguard.order-events" "0/1"
    "orders" [0] (fun _ => 0) 0 0
  have bounded := (read.status none).trans (congrArg Json.str (show _ = "bounded" by decide +kernel))
  exact (bounded_frontier_applied recorded (Or.inl rfl) (Or.inl rfl) read none bounded
    (insertedRow.mark (seconds 2) secondCopy) (.head _) (by decide)).2

/-! ## Rows that no generator will mark -/

/-- The row is not marked, and no generator has its event in hand. -/
def Adrift (s : OrderFlow) (row : OutboxRow) : Prop :=
  row ∈ s.db.outbox ∧ row.publishedAt = none ∧
    ∀ g generator e, s.generators g = some generator → generator.stage.event = some e →
      e.eventId ≠ some row.eventId

theorem Adrift.staged {s : OrderFlow} {row : OutboxRow} (h : s.Adrift row) {g n : Nat}
    {stage : Generating} (other : ∀ e, stage.event = some e → e.eventId ≠ some row.eventId) :
    (s.setGenerator g ⟨n, stage⟩).Adrift row := by
  obtain ⟨mem, unpublished, held⟩ := h
  refine ⟨mem, unpublished, fun g' generator e running staged => ?_⟩
  change Function.update s.generators g (some ⟨n, stage⟩) g' = some generator at running
  by_cases same : g' = g
  · rw [same, Function.update_self] at running
    obtain rfl := Option.some.inj running
    exact other e staged
  · rw [Function.update_of_ne same] at running
    exact held g' generator e running staged

/-- Nothing publishes the outbox but the generator that wrote the row. -/
theorem step_adrift {s t : OrderFlow} {m : FlowMove} {row : OutboxRow}
    (step : Step partitionOf topic s m t) (h : s.Adrift row) : t.Adrift row := by
  have ⟨mem, unpublished, held⟩ := h
  cases step with
  | generate g count free => exact h.staged nofun
  | insert g n customerId status amountCents now orderId eventId createdAt db e running fresh inserted =>
    obtain ⟨made, -, outbox, rfl, rfl, -⟩ := Database.insertOrderWithEvent_some inserted
    have still : ({ s with db := db } : OrderFlow).Adrift row :=
      ⟨by rw [outbox]; exact List.mem_append_left _ mem, unpublished, held⟩
    refine still.staged ?_
    rintro _ ⟨⟩ same
    exact fresh (List.mem_map.mpr ⟨row, mem, (Option.some.inj same).symm⟩)
  | send g n e running =>
    have still : ({ s with requests := e :: s.requests } : OrderFlow).Adrift row := h
    refine still.staged ?_
    rintro _ ⟨⟩
    exact held g _ e running rfl
  | acknowledge g n offset e running landed =>
    refine h.staged ?_
    rintro _ ⟨⟩
    exact held g _ e running rfl
  | mark g n now e eventId published running ident =>
    have other := held g _ e running rfl
    rw [ident] at other
    have still : ({ s with db := s.db.markEventPublished eventId published now } : OrderFlow).Adrift
        row := by
      refine ⟨Database.mem_markEventPublished.mpr (Or.inr ⟨mem, fun same => ?_⟩), unpublished, held⟩
      exact other (congrArg some same.symm)
    exact still.staged nofun
  | stop g =>
    refine ⟨mem, unpublished, fun g' generator e running => ?_⟩
    change Function.update s.generators g none g' = some generator at running
    by_cases same : g' = g
    · rw [same, Function.update_self] at running
      cases running
    · rw [Function.update_of_ne same] at running
      exact held g' generator e running
  | _ => exact h

/-- An eligible row that is not published makes the frontier partial, whatever else is known. -/
theorem partial_of_unpublished {sourceLsn : Option String} {offsets : StreamOffsets}
    {streamTopic : String} {target : TargetFrontier} {rows : List OutboxEvent} {now : Instant}
    {maxLagSeconds : Int} {e : OutboxEvent} (mem : e ∈ rows) (unpublished : e.publishedAt = none)
    (old : e.createdAt ≤ now - seconds maxLagSeconds) :
    frontierStatus sourceLsn (.ok (outboxFrontier rows now maxLagSeconds)) offsets streamTopic
      target = "partial" := by
  have counted : 0 < (outboxFrontier rows now maxLagSeconds).unpublishedCount :=
    Int.natCast_pos.mpr (List.countP_pos_iff.mpr
      ⟨e, List.mem_filter.mpr ⟨mem, decide_eq_true old⟩, by rw [unpublished, Option.isNone_none]⟩)
  unfold frontierStatus
  rw [if_neg (by simp [Except.toOption]), if_neg]
  rw [List.isEmpty_iff]
  intro nothing
  obtain ⟨-, -, -, none_left, -⟩ := frontierReasons_ok.mp nothing
  omega

/-- A generator that ends between its two transactions leaves its row adrift for good, and
every check for which the row is old enough has a partial frontier, over the index or a cache. -/
theorem stranded_row_unbounded {history : List (OrderFlow × FlowMove)} {s a : OrderFlow}
    (run : Run Starting (Recorded (Step partitionOf topic)) history s) (seen : Seen history s a)
    {row : OutboxRow} (adrift : a.Adrift row) :
    s.Adrift row ∧ ∀ (r : Readings) maxLagSeconds now watermark target,
      r.outboxFrontier = .ok (outboxFrontier s.outboxEvents now maxLagSeconds) →
        row.createdAt ≤ now - seconds maxLagSeconds →
        (r.evidence maxLagSeconds watermark target).cdcFrontier.get "status" = .str "partial" := by
  have later : s.Adrift row :=
    run.seen_kept (I := fun t => t.Adrift row) (fun _ _ _ step => step_adrift step) seen adrift
  refine ⟨later, fun r maxLagSeconds now watermark target outbox old => ?_⟩
  obtain ⟨mem, unpublished, -⟩ := later
  simp only [Readings.evidence, Readings.buildCheckCdcFrontier, outbox, buildCdcFrontier_status]
  exact congrArg Json.str
    (partial_of_unpublished (List.mem_map_of_mem mem) unpublished old)

theorem stranded_row_unbounded_stopped : ∃ history s,
    Run Starting (Recorded (Step (fun _ => 0) "dataguard.order-events")) history s ∧
    s.Adrift insertedRow ∧ ∀ (r : Readings) (target : Option TargetFrontier),
      r.outboxFrontier = .ok (outboxFrontier s.outboxEvents 0 0) →
        (r.evidence 0 none target).cdcFrontier.get "status" = .str "partial" := by
  obtain ⟨history, run⟩ := (inserted_run.next (.stop _ 0)).recorded
  have adrift : Adrift { insertedFlow with generators := Function.update insertedFlow.generators 0 none }
      insertedRow := by
    refine ⟨.head _, rfl, fun g generator e running => ?_⟩
    by_cases first : g = 0
    · simp [first] at running
    · simp [insertedFlow, setGenerator, initialised, first] at running
  obtain ⟨still, all⟩ := stranded_row_unbounded run (Or.inl rfl) adrift
  exact ⟨history, _, run, still, fun r target outbox => all r 0 0 none target outbox (by decide)⟩

end OrderFlow

end KubeDataGuard
