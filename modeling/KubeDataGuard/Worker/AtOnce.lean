import Mathlib.Algebra.BigOperators.Ring.Finset
import KubeDataGuard.Worker.Bounded
import KubeDataGuard.Worker.Checker

/-!
# Checks that read everything at once

Without repairs every document renders an event of its order that has been
written, the latest of them. A check for which nothing moves is then exact: its
frontier is bounded if and only if every row that is old enough is published
and applied, and the existence check is healthy if and only if the event of
every paid order that is old enough has been written.
-/

namespace KubeDataGuard.OrderFlow

open Runs Delivery Watermark

variable {partitionOf : String → Nat} {topic : String}

/-- No repair writes to the index. -/
def Unrepaired (m : FlowMove) : Prop := ∀ o now, m ≠ .repair o now

theorem run_unrepaired {history : List FlowMove} {s : OrderFlow}
    (run : Run Starting (Guarded (fun _ => Unrepaired) (Step partitionOf topic)) history s) :
    Run (Indexing.StartingEmpty partitionOf) (Indexing.Step partitionOf topic none orderIndex)
      (indexerMoves history) s.indexing := by
  induction run with
  | start h =>
    obtain ⟨-, -, -, -, indexing⟩ := h
    rw [indexing]
    exact .start ⟨⟨by simp, fun _ => rfl, rfl⟩, rfl⟩
  | @next history s m t before step ih =>
    obtain ⟨unrepaired, step⟩ := step
    cases step with
    | land e sent => exact ih.next (land_produces (run_coherent before.unguarded) sent _)
    | index m t own step => exact ih.next step
    | repair o now => exact absurd rfl (unrepaired o now)
    | _ => exact ih

/-- The latest value of a key stands behind every other of them. -/
theorem le_latest {α κ : Type} [DecidableEq κ] {key : α → κ} {l : List α} {a b : α} {i j : Nat}
    (found : l[i]? = some a) (h : latest key (key a) l = some (b, j)) : i ≤ j := by
  induction l using List.reverseRecOn with
  | nil => cases found
  | append_singleton l c ih =>
    have bound := (List.getElem?_eq_some_iff.mp found).1
    rw [List.length_append, List.length_singleton] at bound
    by_cases same : key c = key a
    · rw [← same, latest_concat_self] at h
      obtain ⟨-, rfl⟩ := Prod.mk.inj (Option.some.inj h)
      omega
    · rw [latest_concat_ne _ same] at h
      by_cases last : i = l.length
      · rw [last, List.getElem?_concat_length] at found
        exact absurd (congrArg key (Option.some.inj found)) same
      · rw [List.getElem?_append_left (by omega)] at found
        exact ih found h

variable (partitionOf topic) in
/-- The document of the row's order tells of the offset or of a later one. -/
def Told (s : OrderFlow) (row : OutboxRow) (offset : Nat) : Prop :=
  ∃ at_, s.index.position row.orderId = some at_ ∧
    at_.stream = (topic, (partitionOf row.orderId : Int)) ∧ (offset : Int) ≤ at_.offset

section Unrepaired

variable {history : List FlowMove} {s : OrderFlow}
  (run : Run Starting (Guarded (fun _ => Unrepaired) (Step partitionOf topic)) history s)
include run

/-- The document of an order whose event has been written renders the latest of its events
that have been. -/
theorem document_of_written {row : OutboxRow} (mem : row ∈ s.db.outbox) {offset : Nat}
    (found : (s.log (partitionOf row.orderId))[offset]? = some row.event)
    (written : wrote (indexerMoves history) (partitionOf row.orderId) offset = true) :
    ∃ e i now, offset ≤ i ∧ (s.log (partitionOf row.orderId))[i]? = some e ∧
      e.order.id = row.orderId ∧ s.index.lookup row.orderId = some (orderDocument e.order now
        (some (orderIndex.metadata e topic (partitionOf row.orderId) i))) := by
  obtain ⟨n, applied⟩ := (empty_indexed (run_unrepaired run)).applied (partitionOf row.orderId)
  have before : offset < n := of_decide_eq_true ((applied.written offset).symm.trans written)
  have within : ((s.log (partitionOf row.orderId)).take n)[offset]? = some row.event := by
    rw [List.getElem?_take_of_lt before]
    exact found
  obtain ⟨⟨e, i⟩, last⟩ := latest_isSome (fun e : OrderEvent => e.order.id)
    (List.mem_of_getElem? within)
  obtain ⟨d, held, now, rendered⟩ := applied.reflects _ e i last
  obtain ⟨at_, same⟩ := latest_mem last
  have below : i < n := by
    by_contra beyond
    rw [List.getElem?_take, if_neg beyond] at at_
    cases at_
  rw [List.getElem?_take_of_lt below] at at_
  have order := ((run_coherent run.unguarded).row_order mem).symm
  refine ⟨e, i, now, le_latest within last, at_, same.trans order, ?_⟩
  have looked : s.index.lookup row.orderId = some d := order ▸ held
  rw [looked, rendered]
  rfl

theorem told_of_written {row : OutboxRow} (mem : row ∈ s.db.outbox) {offset : Nat}
    (found : (s.log (partitionOf row.orderId))[offset]? = some row.event)
    (written : wrote (indexerMoves history) (partitionOf row.orderId) offset = true) :
    s.Told partitionOf topic row offset := by
  obtain ⟨e, i, now, le, -, -, held⟩ := document_of_written run mem found written
  refine ⟨⟨topic, partitionOf row.orderId, i⟩, ?_, rfl, Int.ofNat_le.mpr le⟩
  rw [Index.position, held]
  rfl

/-- Every document renders an event that has been written. -/
theorem document_written {id : String} {d : Document} (held : s.index.lookup id = some d) :
    ∃ p i e now, (s.log p)[i]? = some e ∧ e.order.id = id ∧
      wrote (indexerMoves history) p i = true ∧
      d = orderDocument e.order now (some (orderIndex.metadata e topic p i)) := by
  obtain ⟨p, i, e, found, written, same, now, rendered⟩ := read_rendered (run_unrepaired run) held
  exact ⟨p, i, e, now, found, same, written, rendered⟩

/-- The topic has the partitions listed, not more than the aggregation has room for. -/
structure Partitioned (partitionOf : String → Nat) (partitions : List Int) : Prop where
  all : ∀ id, (partitionOf id : Int) ∈ partitions
  few : partitions.length ≤ maxPartitions

theorem fits_of_partitioned {partitions : List Int} (h : Partitioned partitionOf partitions) :
    Fits s.index := by
  have coherent := run_coherent run.unguarded
  have told : ∀ at_ ∈ s.index.positions, at_.topic = topic ∧ at_.partition ∈ partitions := by
    intro at_ mem
    obtain ⟨id, held⟩ := mem_positions.mp mem
    obtain ⟨at_topic, p, i, here, -, written⟩ := (run_stored run.unguarded).told id at_ held
    obtain ⟨n, inLog, upto⟩ := run_written run.unguarded p
    have before : i < n := of_decide_eq_true ((upto i).symm.trans written)
    obtain ⟨-, routed⟩ := coherent.logged p _ (List.getElem_mem (Nat.lt_of_lt_of_le before inLog))
    refine ⟨at_topic, ?_⟩
    rw [here, ← routed]
    exact h.all _
  constructor
  · have one : (s.index.positions.map LogPosition.topic).dedup.length ≤ [topic].dedup.length := by
      refine length_dedup_le fun t listed => ?_
      obtain ⟨at_, mem, rfl⟩ := List.mem_map.mp listed
      exact List.mem_singleton.mpr (told at_ mem).1
    exact one.trans (by simp [maxTopics])
  · intro at_ _
    refine le_trans (length_dedup_le fun partition listed => ?_)
      ((List.dedup_sublist partitions).length_le.trans h.few)
    obtain ⟨q, mem, rfl⟩ := List.mem_map.mp listed
    exact (told q (List.mem_of_mem_filter mem)).2

theorem reported_of_told {partitions : List Int} (h : Partitioned partitionOf partitions)
    (name : String) {row : OutboxRow} {offset : Nat} (told : s.Told partitionOf topic row offset) :
    ∃ applied, appliedOffset (targetOffsetFrontier name s.index) (some topic)
      (some (partitionOf row.orderId : Int)) = some applied ∧ (offset : Int) ≤ applied := by
  obtain ⟨at_, held, stream, le⟩ := told
  have reached : Reaches LogPosition.stream LogPosition.offset s.index.position
      (topic, (partitionOf row.orderId : Int)) offset := ⟨row.orderId, at_, held, stream, le⟩
  obtain ⟨applied, reported⟩ := reported_of_reaches (fits_of_partitioned run h) name reached
  exact ⟨applied, reported, (reaches_iff_of_reported reported offset).mp reached⟩

end Unrepaired

/-! ## The offsets of the topic -/

section Range

variable {s : OrderFlow} {partitions : List Int}

/-- In the order in which the offsets are asked for. -/
def sorted (partitions : List Int) : List Int := partitions.dedup.insertionSort (· ≤ ·)

theorem mem_sorted {p : Int} : p ∈ sorted partitions ↔ p ∈ partitions := by
  rw [sorted, List.mem_insertionSort, List.mem_dedup]

variable (s partitions) in
/-- The events of the topic that the broker still has. -/
def held (beginnings : Int → Nat) : Nat :=
  ((sorted partitions).map fun p => (s.log p.toNat).length - beginnings p).sum

variable {beginnings : Int → Nat}

theorem range_of_mem {p : Int} (listed : p ∈ partitions) :
    s.range partitions beginnings =
      { offsetStart := ((sorted partitions).filterMap fun p => some (beginnings p : Int)).min?
        offsetEnd := ((sorted partitions).filterMap fun p => some ((s.log p.toNat).length : Int)).max?
        partitions := (sorted partitions).length
        eventCount := some (s.held partitions beginnings)
        offsets := (sorted partitions).map fun p => ⟨p, beginnings p, (s.log p.toNat).length,
          ((s.log p.toNat).length - beginnings p : Nat)⟩ } := by
  have row : (fun p => partitionOffsets (fun p => some (beginnings p))
      (fun p => some (s.log p.toNat).length) p) = fun p => some ⟨p, beginnings p,
        (s.log p.toNat).length, ((s.log p.toNat).length - beginnings p : Nat)⟩ := by
    funext p
    simp only [partitionOffsets, Option.some.injEq, PartitionOffsets.mk.injEq, true_and]
    omega
  have rows : ((sorted partitions).filterMap fun p => partitionOffsets
      (fun p => some (beginnings p)) (fun p => some (s.log p.toNat).length) p) =
      (sorted partitions).map fun p => ⟨p, beginnings p, (s.log p.toNat).length,
        ((s.log p.toNat).length - beginnings p : Nat)⟩ := by
    rw [row, List.filterMap_eq_map']
  have nonempty : (sorted partitions).isEmpty = false := by
    rw [List.isEmpty_eq_false_iff]
    exact List.ne_nil_of_mem (mem_sorted.mpr listed)
  have total : (((sorted partitions).map fun p => (⟨p, beginnings p, (s.log p.toNat).length,
      ((s.log p.toNat).length - beginnings p : Nat)⟩ : PartitionOffsets)).map
        PartitionOffsets.eventCount).sum = (s.held partitions beginnings : Int) := by
    rw [held, Nat.cast_list_sum, List.map_map, List.map_map]
    rfl
  unfold range topicOffsetRange
  change (if (sorted partitions).isEmpty = true then _ else _) = _
  rw [nonempty, if_neg Bool.false_ne_true]
  simp only [StreamOffsets.mk.injEq]
  refine ⟨rfl, rfl, ?_, ?_, rows⟩
  · exact congrArg (fun l : List PartitionOffsets => (l.length : Int)) rows |>.trans (by simp)
  · exact congrArg (fun l : List PartitionOffsets => some (l.map PartitionOffsets.eventCount).sum) rows
      |>.trans (congrArg some total)

theorem mem_range {p : Nat} (listed : (p : Int) ∈ partitions) :
    ∃ row ∈ (s.range partitions beginnings).offsets,
      row.partition = p ∧ row.stop = (s.log p).length := by
  rw [range_of_mem listed]
  exact ⟨_, List.mem_map_of_mem (mem_sorted.mpr listed), rfl, rfl⟩

/-- The topic shows as many events as the broker has. -/
theorem range_covers {p : Int} (listed : p ∈ partitions) (count : Nat) :
    StreamCovers (s.range partitions beginnings) count ↔ count ≤ s.held partitions beginnings := by
  have mem := mem_sorted.mpr listed
  rw [range_of_mem listed]
  have start := List.isSome_min?_of_mem (l := (sorted partitions).filterMap fun p =>
    some (beginnings p : Int)) (List.mem_filterMap.mpr ⟨p, mem, rfl⟩)
  have stop := List.isSome_max?_of_mem (l := (sorted partitions).filterMap fun p =>
    some ((s.log p.toNat).length : Int)) (List.mem_filterMap.mpr ⟨p, mem, rfl⟩)
  unfold StreamCovers
  constructor
  · rintro ⟨-, -, shown, counted, le⟩
    obtain rfl := Option.some.inj counted
    exact_mod_cast le
  · exact fun le => ⟨start, stop, _, rfl, by exact_mod_cast le⟩

/-- A broker that expires nothing has all of the logs. -/
theorem held_all : s.held partitions (fun _ => 0) =
    ((sorted partitions).flatMap fun p => s.log p.toNat).length := by
  rw [held, List.length_flatMap]
  rfl

end Range

/-! ## A check that reads everything at once -/

/-- How many of the rows that are old enough are published. -/
def publishedBy (s : OrderFlow) (cutoff : Instant) : Nat :=
  s.db.outbox.countP fun row => decide (row.createdAt ≤ cutoff) && row.publishedAt.isSome

theorem publishedCount_eq (s : OrderFlow) (now : Instant) (maxLagSeconds : Int) :
    (eligibleEvents s.outboxEvents now maxLagSeconds).countP (fun e => e.publishedAt.isSome) =
      s.publishedBy (now - seconds maxLagSeconds) := by
  rw [eligibleEvents, List.countP_filter, outboxEvents, List.countP_map, publishedBy]
  exact List.countP_congr fun row _ => by simp [and_comm]

/-- A published row's event is one of the topic's, and no two rows have the same. -/
theorem published_le {s : OrderFlow} (h : s.Coherent partitionOf topic) {partitions : List Int}
    (partitioned : Partitioned partitionOf partitions) (cutoff : Instant) :
    s.publishedBy cutoff ≤ ((sorted partitions).flatMap fun p => s.log p.toNat).length := by
  calc s.publishedBy cutoff
      ≤ (s.db.outbox.filter fun row => row.publishedAt.isSome).length := by
        rw [publishedBy, ← List.countP_eq_length_filter]
        refine List.countP_mono_left fun row _ old => ?_
        exact (Bool.and_eq_true_iff.mp old).2
    _ = ((s.db.outbox.filter fun row => row.publishedAt.isSome).map OutboxRow.event).length := by
        rw [List.length_map]
    _ ≤ ((sorted partitions).flatMap fun p => s.log p.toNat).length := by
        refine (List.subperm_of_subset ?_ fun e mem => ?_).length_le
        · have ids : (s.db.events.map OrderEvent.eventId).Nodup := by
            rw [Database.events, List.map_map]
            have known := h.eventIds.map (Option.some_injective String)
            rwa [List.map_map] at known
          exact (List.Nodup.of_map _ ids).sublist (List.filter_sublist.map _)
        · obtain ⟨row, marked, rfl⟩ := List.mem_map.mp mem
          obtain ⟨mem, at_⟩ := List.mem_filter.mp marked
          obtain ⟨offset, -, found⟩ := h.position mem at_
          exact List.mem_flatMap.mpr ⟨partitionOf row.orderId, mem_sorted.mpr (partitioned.all _),
            List.mem_of_getElem? found⟩

/-- A document that tells of a published row's event makes the frontier bound the event. -/
theorem bounds_of_told {history : List FlowMove} {s : OrderFlow}
    (run : Run Starting (Guarded (fun _ => Unrepaired) (Step partitionOf topic)) history s)
    {partitions : List Int} (partitioned : Partitioned partitionOf partitions)
    (beginnings : Int → Nat) (name : String) {row : OutboxRow} (mem : row ∈ s.db.outbox)
    {offset : Nat} (position : row.position = some ⟨topic, partitionOf row.orderId, offset⟩)
    (tells : s.Told partitionOf topic row offset) :
    BoundsEvent (s.range partitions beginnings) topic (targetOffsetFrontier name s.index)
      row.toOutboxEvent := by
  obtain ⟨published, topics, at_partition, offsets⟩ := position_eq.mp position
  obtain ⟨applied, reported, le⟩ := reported_of_told run partitioned name tells
  have read := s.readings_readFrom topic "" name partitions beginnings 0 0
  obtain ⟨entry, listed, at_topic, here, maximum⟩ := (appliedOffset_eq read.tabular).mp reported
  obtain ⟨i, position', found⟩ := (run_coherent run.unguarded).position mem published
  obtain rfl : offset = i := by
    have same := position.symm.trans position'
    simpa using same
  obtain ⟨shown, among, partition, stop⟩ := mem_range (s := s) (partitioned.all row.orderId)
  refine ⟨published, topic, partitionOf row.orderId, offset, topics, at_partition, offsets, rfl,
    ⟨shown, among, partition, ?_⟩, entry, listed, at_topic, Option.some.inj here, applied, maximum, le⟩
  rw [stop]
  exact Int.ofNat_lt.mpr (List.getElem?_eq_some_iff.mp found).1

/-- Everything read at once and no repair: the frontier is bounded exactly if each row that is old
enough is published, its order's document tells of its event or a later one, and the broker has
as many events as there are such rows, which one that expires nothing has. -/
theorem bounded_iff_told {history : List FlowMove} {s : OrderFlow}
    (run : Run Starting (Guarded (fun _ => Unrepaired) (Step partitionOf topic)) history s)
    {partitions : List Int} (partitioned : Partitioned partitionOf partitions)
    (beginnings : Int → Nat) {lsn : String} (known : lsn ≠ "") (name : String)
    (maxLagSeconds : Int) (now : Instant) (watermark : Option String) :
    (((s.readings topic lsn name partitions beginnings maxLagSeconds now).evidence maxLagSeconds
        watermark none).cdcFrontier.get "status" = .str "bounded" ↔
      s.publishedBy (now - seconds maxLagSeconds) ≤ s.held partitions beginnings ∧
      ∀ row ∈ s.db.outbox, row.createdAt ≤ now - seconds maxLagSeconds →
        ∃ offset : Nat, row.position = some ⟨topic, partitionOf row.orderId, offset⟩ ∧
          s.Told partitionOf topic row offset) ∧
    s.publishedBy (now - seconds maxLagSeconds) ≤ s.held partitions fun _ => 0 := by
  have coherent := run_coherent run.unguarded
  refine ⟨?_, held_all ▸ published_le coherent partitioned _⟩
  have read := s.readings_readFrom topic lsn name partitions beginnings maxLagSeconds now
  have covers : StreamCovers (s.range partitions beginnings)
      (s.publishedBy (now - seconds maxLagSeconds)) ↔ _ := range_covers (partitioned.all "") _
  have events : _ ↔ ∀ e ∈ eligibleEvents s.outboxEvents now maxLagSeconds,
      BoundsEvent (s.range partitions beginnings) topic (targetOffsetFrontier name s.index) e :=
    eligible_bounded read.tabular rfl s.outboxEvents now maxLagSeconds
  have counted : (outboxFrontier s.outboxEvents now maxLagSeconds).publishedCount =
      (s.publishedBy (now - seconds maxLagSeconds) : Int) :=
    congrArg Int.ofNat (s.publishedCount_eq now maxLagSeconds)
  rw [read.status, Json.str.injEq, frontierStatus_bounded, frontierReasons_ok, ← covers]
  constructor
  · rintro ⟨-, covered, -, counts⟩
    rw [counted] at covered
    refine ⟨covered, fun row mem old => ?_⟩
    have bounds := events.mp counts row.toOutboxEvent
      (List.mem_filter.mpr ⟨List.mem_map_of_mem mem, decide_eq_true old⟩)
    obtain ⟨i, position, found, applied, reported, le⟩ := coherent.reported read.tabular mem bounds
    exact ⟨i, position, told_of_written run mem found (wrote_of_reported run.unguarded reported le)⟩
  · rintro ⟨covered, told⟩
    refine ⟨⟨lsn, rfl, known⟩, by rw [counted]; exact covered, rfl, events.mpr ?_⟩
    intro e eligible
    obtain ⟨of_outbox, old⟩ := List.mem_filter.mp eligible
    obtain ⟨row, mem, rfl⟩ := List.mem_map.mp of_outbox
    obtain ⟨offset, position, tells⟩ := told row mem (of_decide_eq_true old)
    exact bounds_of_told run partitioned beginnings name mem position tells

theorem consumedTwice_unrepaired :
    Run Starting (Guarded (fun _ => Unrepaired) (Step (fun _ => 0) "dataguard.order-events"))
      consumedTwice (indexingFlow 2 indexedTwice none) := by
  refine consumedTwice_run.guarded fun m mem o now same => ?_
  simp [same, consumedTwice, publishedTwice, inserted] at mem

/-- Of the two copies the broker has expired the first. -/
theorem bounded_iff_told_twice :
    (((indexingFlow 2 indexedTwice none).readings "dataguard.order-events" "0/1" "orders" [0]
        (fun _ => 1) 0 0).evidence 0 none none).cdcFrontier.get "status" = .str "bounded" ↔
      (indexingFlow 2 indexedTwice none).publishedBy (0 - seconds 0) ≤
        (indexingFlow 2 indexedTwice none).held [0] (fun _ => 1) ∧
      ∀ row ∈ publishedFlow.db.outbox, row.createdAt ≤ 0 - seconds 0 → ∃ offset : Nat,
        row.position = some ⟨"dataguard.order-events", 0, offset⟩ ∧
          (indexingFlow 2 indexedTwice none).Told (fun _ => 0) "dataguard.order-events" row offset :=
  (bounded_iff_told consumedTwice_unrepaired ⟨fun _ => .head _, by decide⟩ (fun _ => 1) (by decide)
    "orders" 0 0 none).1

/-- What the existence check calls, all at one time. -/
def checkCalls (s : OrderFlow) (r : Readings) (now : Instant) : CheckCalls :=
  { storesOnly now with
    readings := r
    fetchPaidOrders := fun maxLagSeconds => .ok (fetchPaidOrders s.db.orders now maxLagSeconds)
    mgetOrders := fun ids => .ok (mgetOrders s.index ids) }

/-- An event of the topic is that of the row of its order. -/
theorem Coherent.event_of_order {s : OrderFlow} (h : s.Coherent partitionOf topic) {row : OutboxRow}
    (mem : row ∈ s.db.outbox) {p i : Nat} {e : OrderEvent} (found : (s.log p)[i]? = some e)
    (same : e.orderId = row.orderId ∨ e.order.id = row.orderId) :
    e = row.event ∧ p = partitionOf row.orderId := by
  obtain ⟨known, here⟩ := h.logged p e (List.mem_of_getElem? found)
  obtain ⟨row', mem', rfl⟩ := List.mem_map.mp known
  have orders : row'.orderId = row.orderId := same.elim id (h.row_order mem').trans
  have rows := List.inj_on_of_nodup_map (h.orderIds_eq ▸ h.orderIds) mem' mem orders
  rw [rows] at here ⊢
  exact ⟨rfl, here.symm⟩

end KubeDataGuard.OrderFlow
