import KubeDataGuard.General.Runs
import KubeDataGuard.General.Watermark
import KubeDataGuard.Worker.Outbox
import KubeDataGuard.Worker.Orders

/-!
# Applied offsets as evidence

`target_offset_frontier` reads the offset applied last off the documents that
are there. A document is replaced as a whole, and one that a repair writes from
the source carries no offset: the maximum of a partition can fall.
-/

namespace KubeDataGuard

open Runs Watermark

def EventMetadata.position (m : EventMetadata) : Option LogPosition :=
  match m.topic, m.partition, m.offset with
  | some topic, some partition, some offset => some ⟨topic, partition, offset⟩
  | _, _, _ => none

/-- The three fields the aggregation asks for, of a document that has them. -/
def Document.position (d : Document) : Option LogPosition := d.event.bind EventMetadata.position

def Index.position (index : Index) (id : String) : Option LogPosition :=
  (index.lookup id).bind Document.position

def Index.positions (index : Index) : List LogPosition := index.values.filterMap Document.position

/-! ## The aggregation -/

/-- The `size` of the `terms` over topics. -/
def maxTopics : Nat := 50

/-- The `size` of the `terms` over the partitions of a topic. -/
def maxPartitions : Nat := 200

def appliedRow (topic : String) (bucket : Int × List LogPosition) : AppliedOffset where
  topic := some topic
  partition := bucket.1
  eventCount := bucket.2.length
  maxAppliedOffset := (bucket.2.map LogPosition.offset).max?

def appliedOffsets (recorded : List LogPosition) : List AppliedOffset :=
  (Tally.largest maxTopics LogPosition.topic recorded).flatMap fun topic =>
    (Tally.largest maxPartitions LogPosition.partition topic.2).map (appliedRow topic.1)

def AppliedOffset.toJson (o : AppliedOffset) : Json :=
  .obj [("topic", optionalText o.topic), ("partition", .int o.partition),
    ("event_count", .int o.eventCount), ("max_applied_offset", optionalInt o.maxAppliedOffset)]

/-- `target_offset_frontier` of the index `name`, which has one shard. -/
def targetOffsetFrontier (name : String) (index : Index) : TargetFrontier where
  appliedOffsets := appliedOffsets index.positions
  dict := .obj [("system", .str "opensearch"), ("index", .str name),
    ("offset_recorded_count", .int (min index.positions.length maxTotalHits : Nat)),
    ("applied_offsets", .arr ((appliedOffsets index.positions).map AppliedOffset.toJson))]

/-- The aggregation has room for every topic and every partition there is. -/
def Fits (index : Index) : Prop :=
  (index.positions.map LogPosition.topic).dedup.length ≤ maxTopics ∧
    ∀ p ∈ index.positions, ((index.positions.filter fun q => q.topic = p.topic).map
      LogPosition.partition).dedup.length ≤ maxPartitions

instance (index : Index) : Decidable (Fits index) := inferInstanceAs (Decidable (_ ∧ _))

section Aggregation

variable {recorded : List LogPosition} {row : AppliedOffset}

theorem bucket_of_bucket (recorded : List LogPosition) (topic : String) (partition : Int) :
    (recorded.filter fun p => p.topic = topic).filter (fun p => p.partition = partition) =
      recorded.filter fun p => decide (p.stream = (topic, partition)) := by
  rw [List.filter_filter]
  apply List.filter_congr
  intro p _
  simp [LogPosition.stream, and_comm]

/-- A row is one of the topics and partitions listed, with the maximum of its documents. -/
theorem mem_appliedOffsets : row ∈ appliedOffsets recorded ↔
    ∃ topic ∈ (Tally.largest maxTopics LogPosition.topic recorded).map Prod.fst,
      ∃ partition ∈ (Tally.largest maxPartitions LogPosition.partition
          (recorded.filter fun p => p.topic = topic)).map Prod.fst,
        row = appliedRow topic (partition, recorded.filter fun p =>
          decide (p.stream = (topic, partition))) := by
  constructor
  · intro h
    obtain ⟨⟨topic, ofTopic⟩, htopic, hrow⟩ := List.mem_flatMap.mp h
    obtain ⟨⟨partition, ofPartition⟩, hpartition, rfl⟩ := List.mem_map.mp hrow
    obtain ⟨listed, rfl⟩ := Tally.mem_largest.mp htopic
    obtain ⟨listed', rfl⟩ := Tally.mem_largest.mp hpartition
    refine ⟨topic, listed, partition, listed', ?_⟩
    rw [bucket_of_bucket]
  · rintro ⟨topic, listed, partition, listed', rfl⟩
    have grouped := Tally.mem_largest.mpr ⟨listed', rfl⟩
    rw [bucket_of_bucket] at grouped
    exact List.mem_flatMap.mpr ⟨_, Tally.mem_largest.mpr ⟨listed, rfl⟩, List.mem_map_of_mem grouped⟩

theorem appliedOffsets_once (recorded : List LogPosition) :
    ((appliedOffsets recorded).map fun a => (a.topic, a.partition)).Nodup := by
  have topics := Tally.largest_nodup maxTopics LogPosition.topic recorded
  unfold appliedOffsets
  rw [List.map_flatMap, List.nodup_flatMap]
  constructor
  · intro topic _
    rw [List.map_map]
    have once := Tally.largest_nodup maxPartitions LogPosition.partition topic.2
    have keyed : (fun a : AppliedOffset => (a.topic, a.partition)) ∘ appliedRow topic.1 =
        (fun partition => (some topic.1, partition)) ∘ Prod.fst := rfl
    rw [keyed, ← List.map_map]
    exact once.map fun _ _ same => (Prod.mk.inj same).2
  · refine (List.pairwise_map.mp topics).imp ?_
    intro topic topic' differs
    apply List.disjoint_left.mpr
    intro key here there
    obtain ⟨_, hrow, rfl⟩ := List.mem_map.mp here
    obtain ⟨bucket, -, rfl⟩ := List.mem_map.mp hrow
    obtain ⟨_, hrow', same⟩ := List.mem_map.mp there
    obtain ⟨bucket', -, rfl⟩ := List.mem_map.mp hrow'
    exact differs (Option.some.inj (Prod.mk.inj same).1).symm

end Aggregation

theorem mem_positions {index : Index} {p : LogPosition} :
    p ∈ index.positions ↔ ∃ id, index.position id = some p := by
  simp only [Index.positions, List.mem_filterMap, Index.mem_values, Index.position,
    Option.bind_eq_some_iff]
  constructor
  · rintro ⟨d, ⟨id, found⟩, at_⟩
    exact ⟨id, d, found, at_⟩
  · rintro ⟨id, d, found, at_⟩
    exact ⟨d, ⟨id, found⟩, at_⟩

theorem appliedOffset_once (name : String) (index : Index) :
    Tabular {} (targetOffsetFrontier name index) :=
  ⟨List.nodup_nil, appliedOffsets_once index.positions⟩

/-- An offset that is reported is the furthest that the documents tell of. -/
theorem reaches_iff_of_reported {name : String} {index : Index} {topic : String}
    {partition offset : Int}
    (h : appliedOffset (targetOffsetFrontier name index) (some topic) (some partition) = some offset)
    (m : Int) :
    Reaches LogPosition.stream LogPosition.offset index.position (topic, partition) m ↔
      m ≤ offset := by
  obtain ⟨row, hrow, at_topic, here, maximum⟩ := (appliedOffset_eq (appliedOffset_once ..)).mp h
  obtain ⟨topic', -, partition', -, rfl⟩ := mem_appliedOffsets.mp hrow
  cases at_topic
  cases here
  rw [appliedRow, List.max?_eq_some_iff] at maximum
  obtain ⟨mem, above⟩ := maximum
  constructor
  · rintro ⟨id, p, held, stream, le⟩
    have own : p ∈ index.positions.filter fun p => decide (p.stream = (topic, partition')) :=
      List.mem_filter.mpr ⟨mem_positions.mpr ⟨id, held⟩, decide_eq_true stream⟩
    exact le_trans le (above _ (List.mem_map_of_mem own))
  · intro le
    obtain ⟨p, hp, rfl⟩ := List.mem_map.mp mem
    obtain ⟨hp, stream⟩ := List.mem_filter.mp hp
    obtain ⟨id, held⟩ := mem_positions.mp hp
    exact ⟨id, p, held, of_decide_eq_true stream, le⟩

/-- The partitions of the documents are all reported if the aggregation has room
for them, and only then. -/
theorem fits_iff (name : String) (index : Index) :
    Fits index ↔ ∀ p ∈ index.positions,
      (appliedOffset (targetOffsetFrontier name index) (some p.topic) (some p.partition)).isSome := by
  constructor
  · rintro ⟨topics, partitions⟩ p hp
    have own : p ∈ index.positions.filter fun q => q.topic = p.topic :=
      List.mem_filter.mpr ⟨hp, decide_eq_true rfl⟩
    have row := mem_appliedOffsets.mpr ⟨p.topic, Tally.few_iff_largest.mp topics p hp, p.partition,
      Tally.few_iff_largest.mp (partitions p hp) p own, rfl⟩
    have held : p ∈ index.positions.filter fun q => decide (q.stream = p.stream) :=
      List.mem_filter.mpr ⟨hp, decide_eq_true rfl⟩
    obtain ⟨offset, maximum⟩ := Option.isSome_iff_exists.mp
      (List.isSome_max?_of_mem (List.mem_map_of_mem (f := LogPosition.offset) held))
    rw [Option.isSome_iff_exists]
    exact ⟨offset, (appliedOffset_eq (appliedOffset_once ..)).mpr ⟨_, row, rfl, rfl, maximum⟩⟩
  · intro all
    have listed : ∀ p ∈ index.positions,
        p.topic ∈ (Tally.largest maxTopics LogPosition.topic index.positions).map Prod.fst ∧
        p.partition ∈ (Tally.largest maxPartitions LogPosition.partition
          (index.positions.filter fun q => q.topic = p.topic)).map Prod.fst := by
      intro p hp
      obtain ⟨offset, reported⟩ := Option.isSome_iff_exists.mp (all p hp)
      obtain ⟨row, hrow, at_topic, here, -⟩ := (appliedOffset_eq (appliedOffset_once ..)).mp reported
      obtain ⟨topic, htopic, partition, hpartition, rfl⟩ := mem_appliedOffsets.mp hrow
      cases at_topic
      cases here
      exact ⟨htopic, hpartition⟩
    constructor
    · exact Tally.few_iff_largest.mpr fun p hp => (listed p hp).1
    · intro p hp
      apply Tally.few_iff_largest.mpr
      intro q hq
      obtain ⟨hq, same⟩ := List.mem_filter.mp hq
      have := (listed q hq).2
      rw [of_decide_eq_true same] at this
      exact this

theorem reported_of_reaches {index : Index} (fits : Fits index) (name : String) {topic : String}
    {partition m : Int}
    (h : Reaches LogPosition.stream LogPosition.offset index.position (topic, partition) m) :
    ∃ offset, appliedOffset (targetOffsetFrontier name index) (some topic) (some partition) =
      some offset := by
  obtain ⟨id, p, held, stream, -⟩ := h
  obtain ⟨rfl, rfl⟩ := Prod.mk.inj stream
  exact Option.isSome_iff_exists.mp ((fits_iff name index).mp fits p (mem_positions.mpr ⟨id, held⟩))

theorem length_dedup_le {α : Type} [DecidableEq α] {l l' : List α} (h : l ⊆ l') :
    l.dedup.length ≤ l'.dedup.length := by
  apply List.Subperm.length_le
  apply List.subperm_of_subset (List.nodup_dedup _)
  intro a ha
  exact List.mem_dedup.mpr (h (List.mem_dedup.mp ha))

theorem Fits.of_subset {index index' : Index} (fits : Fits index)
    (sub : index'.positions ⊆ index.positions) : Fits index' := by
  constructor
  · exact le_trans (length_dedup_le (List.map_subset _ sub)) fits.1
  · intro p hp
    refine le_trans (length_dedup_le (List.map_subset _ ?_)) (fits.2 p (sub hp))
    intro q hq
    obtain ⟨hq, same⟩ := List.mem_filter.mp hq
    exact List.mem_filter.mpr ⟨sub hq, same⟩

/-! ## Frontiers that follow one another -/

/-- A maximum that one frontier reports is smaller or gone in the other. -/
def Lowered (before after : TargetFrontier) : Prop :=
  ∃ topic partition offset, appliedOffset before (some topic) (some partition) = some offset ∧
    ∀ later, appliedOffset after (some topic) (some partition) = some later → later < offset

/-- No document's position is lost without one of its partition that is as far. -/
abbrev KeepsOffsets (before after : Index) : Prop :=
  Keeps LogPosition.stream LogPosition.offset before.position after.position

theorem not_lowered {before after : Index} (fits : Fits after) (name : String)
    (keeps : KeepsOffsets before after) :
    ¬Lowered (targetOffsetFrontier name before) (targetOffsetFrontier name after) := by
  rintro ⟨topic, partition, offset, reported, below⟩
  have reached := keeps _ _ ((reaches_iff_of_reported reported offset).mpr le_rfl)
  obtain ⟨later, reported'⟩ := reported_of_reaches fits name reached
  have le := (reaches_iff_of_reported reported' offset).mp reached
  have lt := below later reported'
  omega

theorem lowered_iff {before after : Index} (fits : Fits before) (fits' : Fits after)
    (name : String) :
    Lowered (targetOffsetFrontier name before) (targetOffsetFrontier name after) ↔
      ¬KeepsOffsets before after := by
  constructor
  · intro lowered keeps
    exact not_lowered fits' name keeps lowered
  · intro lost
    simp only [Keeps, not_forall] at lost
    obtain ⟨⟨topic, partition⟩, m, reached, unreached⟩ := lost
    obtain ⟨offset, reported⟩ := reported_of_reaches fits name reached
    refine ⟨topic, partition, offset, reported, ?_⟩
    intro later reported'
    by_contra le
    apply unreached
    apply (reaches_iff_of_reported reported' m).mpr
    have := (reaches_iff_of_reported reported m).mp reached
    omega

section Status

variable {sourceLsn : Option String} {outbox : Except Raised OutboxFrontier}
  {offsets : StreamOffsets} {streamTopic : String} {target target' : TargetFrontier}

/-- Nothing stands against a partition only if all of it is known. -/
theorem publishedReasons_known {p : PublishedOffset}
    (h : publishedReasons offsets streamTopic target p = []) :
    ∃ topic partition maximum, p = ⟨some topic, some partition, p.eventCount, some maximum⟩ := by
  unfold publishedReasons at h
  by_cases topic : p.topic = some streamTopic
  · rw [if_neg (not_not_intro topic)] at h
    cases maximum : p.maxPublishedOffset with
    | none => simp [maximum] at h
    | some maximum' =>
      cases partition : p.partition with
      | none =>
        have unknown : partitionEnd offsets none = none := by
          rw [partitionEnd, List.find?_eq_none.mpr (fun _ _ => by simp), Option.map_none]
        simp [partition, unknown] at h
      | some partition' =>
        refine ⟨streamTopic, partition', maximum', ?_⟩
        rw [← topic, ← partition, ← maximum]
  · simp [topic] at h

/-- A frontier that bounds a check bounds it with any target that is as far. -/
theorem frontierStatus_kept (available : target.available = true)
    (available' : target'.available = true) (kept : ¬Lowered target target')
    (h : frontierStatus sourceLsn outbox offsets streamTopic target = "bounded") :
    frontierStatus sourceLsn outbox offsets streamTopic target' = "bounded" := by
  rw [frontierStatus_bounded] at h ⊢
  cases outbox with
  | error e => exact absurd h frontierReasons_error
  | ok o =>
    obtain ⟨lsn, stream, -, unpublished, recorded, covered⟩ := frontierReasons_ok.mp h
    refine frontierReasons_ok.mpr ⟨lsn, stream, available', unpublished, recorded, ?_⟩
    intro p hp
    have nothing := covered p hp
    obtain ⟨topic, partition, maximum, known⟩ := publishedReasons_known nothing
    rw [known, publishedReasons_nil available] at nothing
    obtain ⟨topics, ends, offset, reported, le⟩ := nothing
    rw [known, publishedReasons_nil available']
    refine ⟨topics, ends, ?_⟩
    by_contra behind
    apply kept
    refine ⟨topic, partition, offset, reported, ?_⟩
    intro later reported'
    by_contra further
    exact behind ⟨later, reported', by omega⟩

end Status

/-! ## Events and repairs -/

/-- What writes a document: an event from its place in the log, or a repair. -/
inductive AppliedMove
  | event (o : Order) (now : Instant) (eventId eventType : Option String) (at_ : LogPosition)
  | repair (o : Order) (now : Instant)

namespace AppliedMove

def order : AppliedMove → Order
  | event o .. | repair o _ => o

def now : AppliedMove → Instant
  | event _ now .. | repair _ now => now

def metadata : AppliedMove → Option EventMetadata
  | event _ _ eventId eventType p =>
    some ⟨eventId, eventType, some p.topic, some p.partition, some p.offset⟩
  | repair .. => none

def position : AppliedMove → Option LogPosition
  | event _ _ _ _ p => some p
  | repair .. => none

end AppliedMove

theorem position_indexOrder (index : Index) (move : AppliedMove) :
    (indexOrder index move.order move.now move.metadata).position =
      Function.update index.position move.order.id move.position := by
  funext id
  by_cases own : id = move.order.id
  · rw [own, Function.update_self, Index.position, lookup_indexOrder]
    cases move <;> rfl
  · rw [Function.update_of_ne own, Index.position, lookup_indexOrder_ne _ _ _ _ own]
    rfl

/-- The index and what was applied to it; its documents tell of nothing else. -/
structure AppliedIndex where
  index : Index
  applied : List LogPosition
  recorded : ∀ id p, index.position id = some p → p ∈ applied

def AppliedIndex.empty : AppliedIndex := ⟨∅, [], fun _ _ h => nomatch h⟩

def AppliedIndex.write (s : AppliedIndex) (move : AppliedMove) : AppliedIndex where
  index := indexOrder s.index move.order move.now move.metadata
  applied := move.position.toList ++ s.applied
  recorded := by
    intro id p held
    rw [position_indexOrder] at held
    by_cases own : id = move.order.id
    · rw [own, Function.update_self] at held
      rw [held]
      exact List.mem_cons_self
    · rw [Function.update_of_ne own] at held
      exact List.mem_append_right _ (s.recorded id p held)

/-- The events of a partition are applied in the order of their offsets. -/
def InOrder (s : AppliedIndex) (move : AppliedMove) : Prop :=
  ∀ p, move.position = some p → ∀ r ∈ s.applied, r.stream = p.stream → r.offset ≤ p.offset

theorem inOrder_event {s : AppliedIndex} {o : Order} {now : Instant}
    {eventId eventType : Option String} {p : LogPosition} :
    InOrder s (.event o now eventId eventType p) ↔
      ∀ r ∈ s.applied, r.stream = p.stream → r.offset ≤ p.offset := by
  constructor
  · intro h
    exact h p rfl
  · rintro h _ ⟨⟩
    exact h

theorem inOrder_repair {s : AppliedIndex} {o : Order} {now : Instant} :
    InOrder s (.repair o now) := by
  intro p none
  cases none

def ApplyStep (s : AppliedIndex) (move : AppliedMove) (t : AppliedIndex) : Prop :=
  InOrder s move ∧ t = s.write move

/-- No other document has come as far in the partition of this one. -/
abbrev SoleHolder (index : Index) (id : String) : Prop :=
  Sole LogPosition.stream LogPosition.offset index.position id

/-- A document that is the only one so far is replaced by an event of its partition. -/
def Spares (s : AppliedIndex) (move : AppliedMove) : Prop :=
  SoleHolder s.index move.order.id → ∃ p q, s.index.position move.order.id = some p ∧
    move.position = some q ∧ q.stream = p.stream

theorem spares_repair {s : AppliedIndex} {o : Order} {now : Instant} :
    Spares s (.repair o now) ↔ ¬SoleHolder s.index o.id := by
  constructor
  · intro spares sole
    obtain ⟨_, _, -, none, -⟩ := spares sole
    cases none
  · intro others sole
    exact absurd sole others

/-- An event of an order whose events share a partition spares what is there. -/
theorem spares_event {s : AppliedIndex} {o : Order} {now : Instant}
    {eventId eventType : Option String} {q : LogPosition}
    (same : ∀ p, s.index.position o.id = some p → p.stream = q.stream) :
    Spares s (.event o now eventId eventType q) := by
  rintro ⟨p, held, -⟩
  exact ⟨p, q, held, rfl, (same p held).symm⟩

theorem applyStep_keeps {s t : AppliedIndex} {move : AppliedMove} (h : ApplyStep s move t) :
    KeepsOffsets s.index t.index ↔ Spares s move := by
  obtain ⟨inOrder, rfl⟩ := h
  rw [KeepsOffsets, AppliedIndex.write, position_indexOrder, keeps_update_iff]
  constructor
  · intro replaced sole
    obtain ⟨p, q, held, written, same, -⟩ := replaced sole
    exact ⟨p, q, held, written, same⟩
  · intro spares sole
    obtain ⟨p, q, held, written, same⟩ := spares sole
    exact ⟨p, q, held, written, same, inOrder q written p (s.recorded _ _ held) same.symm⟩

theorem applied_run_keeps {s t : AppliedIndex} {moves : List AppliedMove}
    (run : Run (fun u => u = s) (Guarded Spares ApplyStep) moves t) :
    KeepsOffsets s.index t.index := by
  induction run with
  | start h =>
    subst h
    exact Keeps.refl _
  | next _ step ih => exact ih.trans ((applyStep_keeps step.2).mpr step.1)

theorem fits_repair {s : AppliedIndex} (fits : Fits s.index) (o : Order) (now : Instant) :
    Fits (s.write (.repair o now)).index := by
  apply fits.of_subset
  intro p hp
  obtain ⟨id, held⟩ := mem_positions.mp hp
  rw [AppliedIndex.write, position_indexOrder] at held
  by_cases own : id = o.id
  · rw [own, AppliedMove.order, Function.update_self] at held
    cases held
  · rw [AppliedMove.order, Function.update_of_ne own] at held
    exact mem_positions.mpr ⟨id, held⟩

/-- Along writes that spare what is there no maximum falls behind, and with room
for the partitions none is lost and a bounded frontier stays bounded. The other
writes are the ones that lower a maximum: a repair does exactly where it
replaces the only document that came as far. -/
theorem applied_offsets_kept {s t : AppliedIndex} {moves : List AppliedMove}
    (run : Run (fun u => u = s) (Guarded Spares ApplyStep) moves t) (name : String) :
    (∀ topic partition offset later,
      appliedOffset (targetOffsetFrontier name s.index) (some topic) (some partition) = some offset →
      appliedOffset (targetOffsetFrontier name t.index) (some topic) (some partition) = some later →
      offset ≤ later) ∧
    (Fits t.index ↔ ∀ p ∈ t.index.positions,
      (appliedOffset (targetOffsetFrontier name t.index) (some p.topic) (some p.partition)).isSome) ∧
    (Fits t.index →
      ¬Lowered (targetOffsetFrontier name s.index) (targetOffsetFrontier name t.index) ∧
      ∀ sourceLsn outbox offsets streamTopic,
        frontierStatus sourceLsn outbox offsets streamTopic
          (targetOffsetFrontier name s.index) = "bounded" →
        frontierStatus sourceLsn outbox offsets streamTopic
          (targetOffsetFrontier name t.index) = "bounded") ∧
    (∀ move u, ApplyStep t move u → Fits t.index → Fits u.index →
      (Lowered (targetOffsetFrontier name t.index) (targetOffsetFrontier name u.index) ↔
        ¬Spares t move)) ∧
    (∀ o now eventId eventType q, (∀ p, t.index.position o.id = some p → p.stream = q.stream) →
      Spares t (.event o now eventId eventType q)) ∧
    ∀ o now, Fits t.index →
      (Lowered (targetOffsetFrontier name t.index)
          (targetOffsetFrontier name (t.write (.repair o now)).index) ↔
        SoleHolder t.index o.id) := by
  have keeps := applied_run_keeps run
  refine ⟨?_, fits_iff name t.index, ?_, ?_, ?_, ?_⟩
  · intro topic partition offset later before after
    have reached := (reaches_iff_of_reported before offset).mpr le_rfl
    exact (reaches_iff_of_reported after offset).mp (keeps _ _ reached)
  · intro fits
    have kept := not_lowered fits name keeps
    exact ⟨kept, fun _ _ _ _ => frontierStatus_kept rfl rfl kept⟩
  · intro move u step fits fits'
    rw [lowered_iff fits fits' name, not_iff_not]
    exact applyStep_keeps step
  · intro o now eventId eventType q same
    exact spares_event same
  · intro o now fits
    have step : ApplyStep t (.repair o now) (t.write (.repair o now)) := ⟨inOrder_repair, rfl⟩
    rw [lowered_iff fits (fits_repair fits o now) name, applyStep_keeps step, spares_repair, not_not]

/-! ## Two orders -/

def evidenceOrder (id : String) : Order where
  id := id
  customerId := "customer-1"
  status := "paid"
  amountCents := 1000
  currency := "USD"
  version := 1
  createdAt := 0
  updatedAt := 0

def paidEvent (id : String) (partition offset : Int) : AppliedMove :=
  .event (evidenceOrder id) 0 none (some "OrderPaid") ⟨"order-events", partition, offset⟩

/-- The events of two orders, applied in this order. -/
def twoApplied : AppliedIndex :=
  (AppliedIndex.empty.write (paidEvent "4b0f" 0 0)).write (paidEvent "77aa" 0 1)

def publishedTwo : OutboxFrontier where
  eventCount := 2
  publishedCount := 2
  unpublishedCount := 0
  maxId := some 2
  maxCreatedAt := none
  maxPublishedAt := none
  offsetRecordedCount := 2
  publishedOffsets := [⟨some "order-events", some 0, 2, some 1⟩]

def exposedTwo : StreamOffsets where
  offsetStart := some 0
  offsetEnd := some 2
  partitions := 1
  eventCount := some 2
  offsets := [⟨0, 0, 2, 2⟩]

def statusOfTwo (s : AppliedIndex) : String :=
  frontierStatus (some "0/1") (.ok publishedTwo) exposedTwo "order-events"
    (targetOffsetFrontier "orders" s.index)

/-- The last event of a partition is forgotten when its order is repaired, or when an
event from another partition replaces it. -/
theorem repair_lowers_applied_offset :
    Run (fun u => u = AppliedIndex.empty) ApplyStep [paidEvent "77aa" 0 1, paidEvent "4b0f" 0 0]
      twoApplied ∧
    (ApplyStep twoApplied (.repair (evidenceOrder "77aa") 0)
        (twoApplied.write (.repair (evidenceOrder "77aa") 0)) ∧
      appliedOffset (targetOffsetFrontier "orders" twoApplied.index) (some "order-events") (some 0) =
        some 1 ∧
      appliedOffset (targetOffsetFrontier "orders"
        (twoApplied.write (.repair (evidenceOrder "77aa") 0)).index) (some "order-events") (some 0) =
        some 0 ∧
      statusOfTwo twoApplied = "bounded" ∧
      statusOfTwo (twoApplied.write (.repair (evidenceOrder "77aa") 0)) = "partial") ∧
    ApplyStep twoApplied (paidEvent "77aa" 1 0) (twoApplied.write (paidEvent "77aa" 1 0)) ∧
      appliedOffset (targetOffsetFrontier "orders"
        (twoApplied.write (paidEvent "77aa" 1 0)).index) (some "order-events") (some 0) = some 0 := by
  have first : ApplyStep AppliedIndex.empty (paidEvent "4b0f" 0 0) _ :=
    ⟨inOrder_event.mpr (by decide), rfl⟩
  have second : ApplyStep _ (paidEvent "77aa" 0 1) twoApplied :=
    ⟨inOrder_event.mpr (by decide +kernel), rfl⟩
  have nothing : Run (fun u => u = AppliedIndex.empty) ApplyStep [] AppliedIndex.empty := .start rfl
  refine ⟨(nothing.next first).next second, ⟨⟨inOrder_repair, rfl⟩, ?_⟩, ?_, ?_⟩
  · decide +kernel
  · exact ⟨inOrder_event.mpr (by decide +kernel), rfl⟩
  · decide +kernel

theorem twoApplied_sole : ¬SoleHolder twoApplied.index "4b0f" := by
  rintro ⟨p, held, others⟩
  have own : twoApplied.index.position "4b0f" = some ⟨"order-events", 0, 0⟩ := by decide +kernel
  have other : twoApplied.index.position "77aa" = some ⟨"order-events", 0, 1⟩ := by decide +kernel
  rw [own] at held
  cases held
  exact absurd (others "77aa" _ (by decide) other rfl) (by decide)

theorem applied_offsets_kept_two :
    statusOfTwo (twoApplied.write (.repair (evidenceOrder "4b0f") 0)) = "bounded" := by
  have step : Guarded Spares ApplyStep twoApplied (.repair (evidenceOrder "4b0f") 0) _ :=
    ⟨spares_repair.mpr twoApplied_sole, inOrder_repair, rfl⟩
  have nothing : Run (fun u => u = twoApplied) (Guarded Spares ApplyStep) [] twoApplied := .start rfl
  obtain ⟨-, -, kept, -⟩ := applied_offsets_kept (nothing.next step) "orders"
  exact (kept (by decide +kernel)).2 _ _ _ _ (show statusOfTwo twoApplied = "bounded" by decide +kernel)

end KubeDataGuard
