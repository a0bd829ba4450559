import Mathlib.Data.List.Dedup
import Mathlib.Data.List.Sort
import Mathlib.Data.Prod.Lex
import Mathlib.Data.String.Basic
import Mathlib.Order.Lattice
import Mathlib.Algebra.Order.Ring.Int
import KubeDataGuard.Worker.Frontier

/-!
# The outbox and what a bounded frontier says of it

`outbox_frontier` counts the events that are old enough and keeps one maximum a
topic and partition; `topic_offset_range` reads one row a partition. A bounded
frontier is a statement about each single event all the same.
-/

namespace KubeDataGuard

/-- A row of `order_events_outbox`. -/
structure OutboxEvent where
  id : Int
  createdAt : Instant
  publishedAt : Option Instant
  publishedTopic : Option String
  publishedPartition : Option Int
  publishedOffset : Option Int
  deriving DecidableEq, Repr

@[ext] structure LogPosition where
  topic : String
  partition : Int
  offset : Int
  deriving DecidableEq, Repr

/-- Where a published event went, when that was recorded in full. -/
def OutboxEvent.position (e : OutboxEvent) : Option LogPosition :=
  match e.publishedAt, e.publishedTopic, e.publishedPartition, e.publishedOffset with
  | some _, some topic, some partition, some offset => some ⟨topic, partition, offset⟩
  | _, _, _, _ => none

/-- `created_at <= now() - make_interval(secs => max_lag_seconds)` -/
def eligibleEvents (rows : List OutboxEvent) (now : Instant) (maxLagSeconds : Int) :
    List OutboxEvent :=
  rows.filter fun e => decide (e.createdAt ≤ now - seconds maxLagSeconds)

/-- The topic and partition an event is grouped by. -/
def LogPosition.stream (r : LogPosition) : String × Int := (r.topic, r.partition)

def partitionRow (recorded : List LogPosition) (group : String × Int) : PublishedOffset :=
  let events := recorded.filter fun r => decide (r.stream = group)
  { topic := some group.1
    partition := some group.2
    eventCount := events.length
    maxPublishedOffset := (events.map LogPosition.offset).max? }

/-- `group by published_topic, published_partition`, in that order -/
def partitionFrontier (eligible : List OutboxEvent) : List PublishedOffset :=
  let recorded := eligible.filterMap OutboxEvent.position
  let groups := (recorded.map LogPosition.stream).dedup.insertionSort fun a b => toLex a ≤ toLex b
  groups.map (partitionRow recorded)

def outboxFrontier (rows : List OutboxEvent) (now : Instant) (maxLagSeconds : Int) :
    OutboxFrontier :=
  let eligible := eligibleEvents rows now maxLagSeconds
  { eventCount := eligible.length
    publishedCount := eligible.countP fun e => e.publishedAt.isSome
    unpublishedCount := eligible.countP fun e => e.publishedAt.isNone
    maxId := (eligible.map OutboxEvent.id).max?
    maxCreatedAt := (eligible.map OutboxEvent.createdAt).max?.map iso
    maxPublishedAt := (eligible.filterMap OutboxEvent.publishedAt).max?.map iso
    offsetRecordedCount := (eligible.filterMap OutboxEvent.position).length
    publishedOffsets := partitionFrontier eligible }

def partitionOffsets (starts ends : Int → Option Int) (p : Int) : Option PartitionOffsets :=
  match starts p, ends p with
  | some start, some stop => some ⟨p, start, stop, max 0 (stop - start)⟩
  | _, _ => none

/-- `topic_offset_range`, from the partitions of the topic and their offsets. -/
def topicOffsetRange (partitions : List Int) (starts ends : Int → Option Int) : StreamOffsets :=
  let sorted := partitions.dedup.insertionSort (· ≤ ·)
  if sorted.isEmpty then {}
  else
    let offsets := sorted.filterMap (partitionOffsets starts ends)
    { offsetStart := (sorted.filterMap starts).min?
      offsetEnd := (sorted.filterMap ends).max?
      partitions := offsets.length
      eventCount := some (offsets.map PartitionOffsets.eventCount).sum
      offsets }

/-- One row a partition, and one a topic and partition at the target. -/
structure Tabular (offsets : StreamOffsets) (target : TargetFrontier) : Prop where
  partitions : (offsets.offsets.map PartitionOffsets.partition).Nodup
  applied : (target.appliedOffsets.map fun a => (a.topic, a.partition)).Nodup

theorem partitionOffsets_partition {starts ends : Int → Option Int} {p : Int}
    {row : PartitionOffsets} (h : partitionOffsets starts ends p = some row) : row.partition = p := by
  unfold partitionOffsets at h
  split at h <;> simp at h
  rw [← h]

theorem topicOffsetRange_once (partitions : List Int) (starts ends : Int → Option Int) :
    ((topicOffsetRange partitions starts ends).offsets.map PartitionOffsets.partition).Nodup := by
  unfold topicOffsetRange
  dsimp only
  split
  · exact List.nodup_nil
  · have nodup : (partitions.dedup.insertionSort (· ≤ ·)).Nodup :=
      (List.perm_insertionSort _ _).nodup_iff.mpr (List.nodup_dedup _)
    rw [List.map_filterMap]
    apply nodup.filterMap
    intro p q row hp hq
    obtain ⟨a, ha, rfl⟩ := Option.map_eq_some_iff.mp hp
    obtain ⟨b, hb, same⟩ := Option.map_eq_some_iff.mp hq
    rw [← partitionOffsets_partition ha, ← partitionOffsets_partition hb, same]

section Bounded

variable {sourceLsn : Option String} {offsets : StreamOffsets} {streamTopic : String}
  {target : TargetFrontier}

theorem partitionEnd_eq (tabular : Tabular offsets target) {partition : Option Int} {stop : Int} :
    partitionEnd offsets partition = some stop ↔
      ∃ row ∈ offsets.offsets, some row.partition = partition ∧ row.stop = stop := by
  simp only [partitionEnd, Option.map_eq_some_iff]
  have found := fun row => find?_reverse_eq_some (a := row) tabular.partitions
    (p := fun o => some o.partition == partition) (by
      intro a b ha hb
      exact Option.some.inj ((beq_iff_eq.mp ha).trans (beq_iff_eq.mp hb).symm))
  simp only [found, beq_iff_eq, and_assoc]

theorem appliedOffset_eq (tabular : Tabular offsets target) {topic : Option String}
    {partition : Option Int} {applied : Int} :
    appliedOffset target topic partition = some applied ↔
      ∃ row ∈ target.appliedOffsets, row.topic = topic ∧ some row.partition = partition ∧
        row.maxAppliedOffset = some applied := by
  simp only [appliedOffset, Option.bind_eq_some_iff]
  have found := fun row => find?_reverse_eq_some (a := row) tabular.applied
    (p := fun o => o.topic == topic && some o.partition == partition) (by
      intro a b ha hb
      simp only [Bool.and_eq_true, beq_iff_eq] at ha hb
      exact Prod.ext (ha.1.trans hb.1.symm) (Option.some.inj (ha.2.trans hb.2.symm)))
  simp only [found, Bool.and_eq_true, beq_iff_eq, and_assoc]

/-- A partition that the outbox published to is covered by topic and target. -/
def Covers (offsets : StreamOffsets) (streamTopic : String) (target : TargetFrontier)
    (topic : String) (partition offset : Int) : Prop :=
  topic = streamTopic ∧
    (∃ row ∈ offsets.offsets, row.partition = partition ∧ offset < row.stop) ∧
    ∃ row ∈ target.appliedOffsets, row.topic = some topic ∧ row.partition = partition ∧
      ∃ applied, row.maxAppliedOffset = some applied ∧ offset ≤ applied

theorem publishedReasons_nil (available : target.available = true) {topic : String}
    {partition maximum eventCount : Int} :
    publishedReasons offsets streamTopic target
        ⟨some topic, some partition, eventCount, some maximum⟩ = [] ↔
      topic = streamTopic ∧
      (∃ stop, partitionEnd offsets (some partition) = some stop ∧ maximum < stop) ∧
      ∃ applied, appliedOffset target (some topic) (some partition) = some applied ∧
        maximum ≤ applied := by
  unfold publishedReasons
  by_cases same : topic = streamTopic
  · subst same
    simp only [ne_eq, not_true_eq_false, if_false, true_and, available, if_true]
    cases stop : partitionEnd offsets (some partition) with
    | none => simp
    | some stop =>
      cases applied : appliedOffset target (some topic) (some partition) with
      | none => simp
      | some applied => simp
  · simp [same]

theorem covers_iff (tabular : Tabular offsets target) {topic : String} {partition offset : Int} :
    Covers offsets streamTopic target topic partition offset ↔
      topic = streamTopic ∧
      (∃ stop, partitionEnd offsets (some partition) = some stop ∧ offset < stop) ∧
      ∃ applied, appliedOffset target (some topic) (some partition) = some applied ∧
        offset ≤ applied := by
  simp only [Covers, partitionEnd_eq tabular, appliedOffset_eq tabular, Option.some.injEq]
  apply and_congr_right
  intro _
  apply and_congr
  · constructor
    · rintro ⟨row, mem, here, below⟩
      exact ⟨_, ⟨row, mem, here, rfl⟩, below⟩
    · rintro ⟨_, ⟨row, mem, here, rfl⟩, below⟩
      exact ⟨row, mem, here, below⟩
  · constructor
    · rintro ⟨row, mem, at_topic, here, applied, found, le⟩
      exact ⟨applied, ⟨row, mem, at_topic, here, found⟩, le⟩
    · rintro ⟨applied, ⟨row, mem, at_topic, here, found⟩, le⟩
      exact ⟨row, mem, at_topic, here, applied, found, le⟩

/-- What covers an offset covers the ones below it. -/
theorem Covers.below {topic : String} {partition offset maximum : Int} (le : offset ≤ maximum)
    (h : Covers offsets streamTopic target topic partition maximum) :
    Covers offsets streamTopic target topic partition offset := by
  obtain ⟨same, ⟨row, mem, here, below⟩, row', mem', at_topic, here', applied, found, le'⟩ := h
  exact ⟨same, ⟨row, mem, here, by omega⟩, row', mem', at_topic, here', applied, found, by omega⟩

theorem mem_partitionFrontier {eligible : List OutboxEvent} {p : PublishedOffset} :
    p ∈ partitionFrontier eligible ↔ ∃ r ∈ eligible.filterMap OutboxEvent.position,
      p = partitionRow (eligible.filterMap OutboxEvent.position) r.stream := by
  simp only [partitionFrontier, List.mem_map, List.mem_insertionSort, List.mem_dedup]
  constructor
  · rintro ⟨_, ⟨r, hr, rfl⟩, rfl⟩
    exact ⟨r, hr, rfl⟩
  · rintro ⟨r, hr, rfl⟩
    exact ⟨_, ⟨r, hr, rfl⟩, rfl⟩

/-- A group's maximum is the offset of one of its events and bounds the others. -/
theorem partitionRow_maximum {recorded : List LogPosition} {r : LogPosition} (hr : r ∈ recorded) :
    ∃ r' ∈ recorded, r'.stream = r.stream ∧ r.offset ≤ r'.offset ∧
      (partitionRow recorded r.stream).maxPublishedOffset = some r'.offset := by
  have own : r ∈ recorded.filter fun r' => decide (r'.stream = r.stream) :=
    List.mem_filter.mpr ⟨hr, decide_eq_true rfl⟩
  cases maximum : (partitionRow recorded r.stream).maxPublishedOffset with
  | none =>
    rw [partitionRow, List.max?_eq_none_iff, List.map_eq_nil_iff] at maximum
    rw [maximum] at own
    cases own
  | some m =>
    obtain ⟨r', hr', rfl⟩ := List.mem_map.mp (List.max?_mem maximum)
    obtain ⟨mem, same⟩ := List.mem_filter.mp hr'
    exact ⟨r', mem, of_decide_eq_true same,
      (List.max?_le_iff maximum).mp le_rfl _ (List.mem_map_of_mem own), rfl⟩

/-- Nothing stands against the partitions exactly if each recorded event is covered. -/
theorem partitionFrontier_covered (tabular : Tabular offsets target)
    (available : target.available = true) (eligible : List OutboxEvent) :
    (∀ p ∈ partitionFrontier eligible, publishedReasons offsets streamTopic target p = []) ↔
      ∀ r ∈ eligible.filterMap OutboxEvent.position,
        Covers offsets streamTopic target r.topic r.partition r.offset := by
  generalize hrec : eligible.filterMap OutboxEvent.position = recorded
  have row : ∀ r ∈ recorded, ∃ r' ∈ recorded, r.offset ≤ r'.offset ∧ r'.stream = r.stream ∧
      (publishedReasons offsets streamTopic target (partitionRow recorded r.stream) = [] ↔
        Covers offsets streamTopic target r.topic r.partition r'.offset) := by
    intro r hr
    obtain ⟨r', hr', same, le, maximum⟩ := partitionRow_maximum hr
    refine ⟨r', hr', le, same, ?_⟩
    rw [covers_iff tabular, ← publishedReasons_nil available, ← maximum]
    rfl
  constructor
  · intro nothing r hr
    obtain ⟨r', -, le, -, covered⟩ := row r hr
    have mem := mem_partitionFrontier.mpr ⟨r, hrec ▸ hr, rfl⟩
    rw [hrec] at mem
    exact (covered.mp (nothing _ mem)).below le
  · intro all p hp
    obtain ⟨r, hr, rfl⟩ := mem_partitionFrontier.mp hp
    rw [hrec] at hr ⊢
    obtain ⟨r', hr', -, same, covered⟩ := row r hr
    obtain ⟨topic, partition⟩ := Prod.mk.inj same
    have := all r' hr'
    rw [topic, partition] at this
    exact covered.mpr this

/-- An event that the frontier bounds: published, recorded in full and covered. -/
def BoundsEvent (offsets : StreamOffsets) (streamTopic : String) (target : TargetFrontier)
    (e : OutboxEvent) : Prop :=
  e.publishedAt.isSome ∧ ∃ topic partition offset, e.publishedTopic = some topic ∧
    e.publishedPartition = some partition ∧ e.publishedOffset = some offset ∧
    Covers offsets streamTopic target topic partition offset

theorem position_eq {e : OutboxEvent} {r : LogPosition} :
    e.position = some r ↔ e.publishedAt.isSome ∧ e.publishedTopic = some r.topic ∧
      e.publishedPartition = some r.partition ∧ e.publishedOffset = some r.offset := by
  unfold OutboxEvent.position
  split
  · rename_i published topic partition offset
    simp [published, topic, partition, offset, LogPosition.ext_iff]
  · rename_i incomplete
    constructor
    · intro h
      cases h
    · rintro ⟨published, topic, partition, offset⟩
      obtain ⟨at_, published⟩ := Option.isSome_iff_exists.mp published
      exact absurd offset (incomplete _ _ _ _ published topic partition)

/-- A count over a wider condition is no larger only if it counts nothing more. -/
theorem countP_le_countP_iff {α : Type} {p q : α → Bool} (sub : ∀ a, q a = true → p a = true)
    (l : List α) : l.countP p ≤ l.countP q ↔ ∀ a ∈ l, p a = true → q a = true := by
  induction l with
  | nil => simp
  | cons a l ih =>
    have smaller : l.countP q ≤ l.countP p := List.countP_mono_left fun a _ => sub a
    by_cases hq : q a = true
    · simp [hq, sub a hq, ih]
    · by_cases hp : p a = true
      · simp only [List.countP_cons, hp, hq, List.forall_mem_cons, if_true, Bool.false_eq_true,
          if_false, forall_const, false_and, iff_false]
        omega
      · simp [hp, hq, ih]

/-- The counts and the groups together speak of each eligible event. -/
theorem eligible_bounded (tabular : Tabular offsets target) (available : target.available = true)
    (rows : List OutboxEvent) (now : Instant) (maxLagSeconds : Int) :
    ((outboxFrontier rows now maxLagSeconds).unpublishedCount ≤ 0 ∧
      (outboxFrontier rows now maxLagSeconds).publishedCount ≤
        (outboxFrontier rows now maxLagSeconds).offsetRecordedCount ∧
      ∀ p ∈ (outboxFrontier rows now maxLagSeconds).publishedOffsets,
        publishedReasons offsets streamTopic target p = []) ↔
      ∀ e ∈ eligibleEvents rows now maxLagSeconds, BoundsEvent offsets streamTopic target e := by
  simp only [outboxFrontier]
  generalize eligibleEvents rows now maxLagSeconds = eligible
  have recorded_published : ∀ e : OutboxEvent, e.position.isSome = true → e.publishedAt.isSome := by
    intro e h
    obtain ⟨r, hr⟩ := Option.isSome_iff_exists.mp h
    exact (position_eq.mp hr).1
  rw [partitionFrontier_covered tabular available, List.length_filterMap_eq_countP, Nat.cast_le,
    countP_le_countP_iff recorded_published, ← Nat.cast_zero, Nat.cast_le, Nat.le_zero,
    List.countP_eq_zero]
  constructor
  · rintro ⟨published, recorded, covered⟩ e he
    have at_ : e.publishedAt.isSome = true := by
      simpa [Option.isSome_iff_ne_none] using published e he
    obtain ⟨r, hr⟩ := Option.isSome_iff_exists.mp (recorded e he at_)
    obtain ⟨-, topic, partition, offset⟩ := position_eq.mp hr
    exact ⟨at_, _, _, _, topic, partition, offset, covered r (List.mem_filterMap.mpr ⟨e, he, hr⟩)⟩
  · intro bounded
    refine ⟨fun e he => ?_, fun e he _ => ?_, fun r hr => ?_⟩
    · simpa [Option.isSome_iff_ne_none] using (bounded e he).1
    · obtain ⟨at_, topic, partition, offset, ht, hp, ho, -⟩ := bounded e he
      exact Option.isSome_iff_exists.mpr ⟨⟨topic, partition, offset⟩, position_eq.mpr ⟨at_, ht, hp, ho⟩⟩
    · obtain ⟨e, he, hr⟩ := List.mem_filterMap.mp hr
      obtain ⟨-, ht, hp, ho⟩ := position_eq.mp hr
      obtain ⟨-, topic, partition, offset, ht', hp', ho', covers⟩ := bounded e he
      rw [ht] at ht'
      rw [hp] at hp'
      rw [ho] at ho'
      cases ht'
      cases hp'
      cases ho'
      exact covers

/-! ## The status -/

/-- Start and end of the topic are known and it shows as many events as were published. -/
def StreamCovers (offsets : StreamOffsets) (publishedCount : Int) : Prop :=
  offsets.offsetStart.isSome ∧ offsets.offsetEnd.isSome ∧
    ∃ count, offsets.eventCount = some count ∧ publishedCount ≤ count

theorem streamReasons_nil {o : OutboxFrontier} :
    streamReasons (.ok o) offsets = [] ↔ StreamCovers offsets o.publishedCount := by
  unfold streamReasons StreamCovers
  cases offsets.offsetStart <;> cases offsets.offsetEnd <;> cases offsets.eventCount <;> simp

theorem sourceReasons_nil : sourceReasons sourceLsn = [] ↔ ∃ lsn, sourceLsn = some lsn ∧ lsn ≠ "" := by
  cases sourceLsn <;> simp [sourceReasons]

theorem outboxReasons_nil {o : OutboxFrontier} :
    outboxReasons (.ok o) = [] ↔ o.unpublishedCount ≤ 0 ∧ o.publishedCount ≤ o.offsetRecordedCount := by
  simp [outboxReasons]

theorem frontierReasons_ok {o : OutboxFrontier} :
    frontierReasons sourceLsn (.ok o) offsets streamTopic target = [] ↔
      (∃ lsn, sourceLsn = some lsn ∧ lsn ≠ "") ∧ StreamCovers offsets o.publishedCount ∧
      target.available = true ∧ o.unpublishedCount ≤ 0 ∧ o.publishedCount ≤ o.offsetRecordedCount ∧
      ∀ p ∈ o.publishedOffsets, publishedReasons offsets streamTopic target p = [] := by
  simp only [frontierReasons, List.append_eq_nil_iff, sourceReasons_nil, outboxReasons_nil,
    streamReasons_nil, List.flatMap_eq_nil_iff]
  have available : targetReasons target = [] ↔ target.available = true := by
    simp [targetReasons]
  rw [available]
  tauto

theorem frontierReasons_error {e : Raised} :
    frontierReasons sourceLsn (.error e) offsets streamTopic target ≠ [] := by
  simp [frontierReasons, outboxReasons]

theorem frontierStatus_bounded {outbox : Except Raised OutboxFrontier} :
    frontierStatus sourceLsn outbox offsets streamTopic target = "bounded" ↔
      frontierReasons sourceLsn outbox offsets streamTopic target = [] := by
  unfold frontierStatus
  split
  · rename_i missing
    constructor
    · intro h
      exact absurd h (by decide)
    · intro none_stand
      cases outbox with
      | ok o => exact absurd missing.2.1 (by simp [Except.toOption])
      | error e => exact absurd none_stand frontierReasons_error
  · split
    · rename_i none_stand
      exact ⟨fun _ => List.isEmpty_iff.mp none_stand, fun _ => rfl⟩
    · rename_i some_stand
      constructor
      · intro h
        exact absurd h (by decide)
      · intro none_stand
        exact absurd (List.isEmpty_iff.mpr none_stand) some_stand

theorem frontierStatus_unavailable {outbox : Except Raised OutboxFrontier} :
    frontierStatus sourceLsn outbox offsets streamTopic target = "unavailable" ↔
      (∀ lsn, sourceLsn = some lsn → lsn = "") ∧ (∃ e, outbox = .error e) ∧
        offsets.eventCount = none := by
  have missing : (sourceLsn.all (· == "") = true ∧ outbox.toOption.isNone = true ∧
      offsets.eventCount.isNone = true) ↔ (∀ lsn, sourceLsn = some lsn → lsn = "") ∧
        (∃ e, outbox = .error e) ∧ offsets.eventCount = none := by
    cases outbox <;> simp [Except.toOption, Option.all_eq_true]
  rw [← missing]
  unfold frontierStatus
  split
  · rename_i h
    exact ⟨fun _ => h, fun _ => rfl⟩
  · rename_i h
    constructor
    · split <;> intro same <;> exact absurd same (by decide)
    · intro h'
      exact absurd h' h

theorem buildCdcFrontier_status {sourceWatermark : Option String}
    {outbox : Except Raised OutboxFrontier} {targetReadAt : Instant} :
    (buildCdcFrontier sourceLsn sourceWatermark outbox offsets streamTopic targetReadAt target).get
      "status" = .str (frontierStatus sourceLsn outbox offsets streamTopic target) := rfl

end Bounded

/-! ## Orders of the rows -/

section Reordered

variable {offsets : StreamOffsets} {target : TargetFrontier} {rows : List PartitionOffsets}
  {applied : List AppliedOffset}

theorem Tabular.reordered (tabular : Tabular offsets target) (hr : rows.Perm offsets.offsets)
    (ha : applied.Perm target.appliedOffsets) :
    Tabular { offsets with offsets := rows } { target with appliedOffsets := applied } :=
  ⟨(hr.map _).nodup_iff.mpr tabular.partitions, (ha.map _).nodup_iff.mpr tabular.applied⟩

theorem partitionEnd_reordered (tabular : Tabular offsets target) (hr : rows.Perm offsets.offsets)
    (ha : applied.Perm target.appliedOffsets) (partition : Option Int) :
    partitionEnd { offsets with offsets := rows } partition = partitionEnd offsets partition := by
  apply Option.ext
  intro stop
  rw [partitionEnd_eq (tabular.reordered hr ha), partitionEnd_eq tabular]
  simp only [hr.mem_iff]

theorem appliedOffset_reordered (tabular : Tabular offsets target) (hr : rows.Perm offsets.offsets)
    (ha : applied.Perm target.appliedOffsets) (topic : Option String) (partition : Option Int) :
    appliedOffset { target with appliedOffsets := applied } topic partition =
      appliedOffset target topic partition := by
  apply Option.ext
  intro n
  rw [appliedOffset_eq (tabular.reordered hr ha), appliedOffset_eq tabular]
  simp only [ha.mem_iff]

theorem frontierStatus_reordered {sourceLsn : Option String} {streamTopic : String}
    {outbox : Except Raised OutboxFrontier} {published : List PublishedOffset}
    (tabular : Tabular offsets target) (hr : rows.Perm offsets.offsets)
    (ha : applied.Perm target.appliedOffsets)
    (hp : ∀ o, outbox = .ok o → published.Perm o.publishedOffsets) :
    frontierStatus sourceLsn (outbox.map fun o => { o with publishedOffsets := published })
        { offsets with offsets := rows } streamTopic { target with appliedOffsets := applied } =
      frontierStatus sourceLsn outbox offsets streamTopic target := by
  have each : publishedReasons { offsets with offsets := rows } streamTopic
      { target with appliedOffsets := applied } = publishedReasons offsets streamTopic target := by
    funext p
    simp only [publishedReasons, partitionEnd_reordered tabular hr ha,
      appliedOffset_reordered tabular hr ha]
  cases outbox with
  | error e => rfl
  | ok o =>
    have perm := ((hp o rfl).flatMap_right (publishedReasons offsets streamTopic target))
    have stream : streamReasons (.ok { o with publishedOffsets := published })
        { offsets with offsets := rows } = streamReasons (.ok o) offsets := by
      unfold streamReasons
      cases offsets.eventCount <;> cases offsets.offsetStart <;> cases offsets.offsetEnd <;> rfl
    simp only [frontierStatus, frontierReasons, Except.map, each, stream]
    rw [(perm.append_left _).isEmpty_eq]
    rfl

end Reordered

theorem cdc_frontier_bounded_iff {offsets : StreamOffsets} {target : TargetFrontier}
    (tabular : Tabular offsets target) (sourceLsn sourceWatermark : Option String)
    (outbox : Except Raised (List OutboxEvent)) (now : Instant) (maxLagSeconds : Int)
    (streamTopic : String) (targetReadAt : Instant) :
    let frontier := outbox.map fun rows => outboxFrontier rows now maxLagSeconds
    let status := (buildCdcFrontier sourceLsn sourceWatermark frontier offsets streamTopic
      targetReadAt target).get "status"
    (status = .str "bounded" ↔
      (∃ lsn, sourceLsn = some lsn ∧ lsn ≠ "") ∧ target.available = true ∧
      ∃ rows, outbox = .ok rows ∧
        StreamCovers offsets ((eligibleEvents rows now maxLagSeconds).countP
          fun e => e.publishedAt.isSome) ∧
        ∀ e ∈ eligibleEvents rows now maxLagSeconds, BoundsEvent offsets streamTopic target e) ∧
    (status = .str "unavailable" ↔
      (∀ lsn, sourceLsn = some lsn → lsn = "") ∧ (∃ e, outbox = .error e) ∧
        offsets.eventCount = none) ∧
    ∀ published rows applied, rows.Perm offsets.offsets → applied.Perm target.appliedOffsets →
      (∀ o, frontier = .ok o → published.Perm o.publishedOffsets) →
      (buildCdcFrontier sourceLsn sourceWatermark
        (frontier.map fun o => { o with publishedOffsets := published })
        { offsets with offsets := rows } streamTopic targetReadAt
        { target with appliedOffsets := applied }).get "status" = status := by
  intro frontier status
  have shown : status = .str (frontierStatus sourceLsn frontier offsets streamTopic target) := rfl
  rw [shown]
  simp only [buildCdcFrontier_status, Json.str.injEq]
  refine ⟨?_, ?_, ?_⟩
  · rw [frontierStatus_bounded]
    cases outbox with
    | error e =>
      constructor
      · intro none_stand
        exact absurd none_stand frontierReasons_error
      · rintro ⟨-, -, rows, h, -⟩
        cases h
    | ok rows =>
      rw [show frontier = .ok (outboxFrontier rows now maxLagSeconds) from rfl, frontierReasons_ok]
      constructor
      · rintro ⟨present, covers, available, counts⟩
        exact ⟨present, available, rows, rfl, covers, (eligible_bounded tabular available rows now
          maxLagSeconds).mp counts⟩
      · rintro ⟨present, available, rows', same, covers, events⟩
        cases same
        exact ⟨present, covers, available, (eligible_bounded tabular available rows now
          maxLagSeconds).mpr events⟩
  · rw [frontierStatus_unavailable]
    cases outbox <;> simp [frontier, Except.map]
  · intro published rows applied hr ha hp
    exact frontierStatus_reordered tabular hr ha hp

def publishedEvent : OutboxEvent := ⟨1, 0, some 0, some "orders.events", some 0, some 0⟩

def oneEventTopic : StreamOffsets := topicOffsetRange [0] (fun _ => some 0) fun _ => some 1

def appliedTarget : TargetFrontier where
  appliedOffsets := [⟨some "orders.events", 0, 1, some 0⟩]
  dict := .null

theorem cdc_frontier_bounded_iff_one_event :
    (buildCdcFrontier (some "0/16B6C50") none (.ok (outboxFrontier [publishedEvent] 0 0))
      oneEventTopic "orders.events" 0 appliedTarget).get "status" = .str "bounded" := by
  have tabular : Tabular oneEventTopic appliedTarget :=
    ⟨topicOffsetRange_once _ _ _, List.nodup_singleton _⟩
  have bounded := (cdc_frontier_bounded_iff tabular (some "0/16B6C50") none (.ok [publishedEvent])
    0 0 "orders.events" 0).1
  refine bounded.mpr ⟨⟨_, rfl, by decide⟩, rfl, _, rfl, ⟨rfl, rfl, 1, rfl, by decide⟩, ?_⟩
  intro e he
  obtain rfl := List.mem_singleton.mp (List.mem_of_mem_filter he)
  exact ⟨rfl, _, _, _, rfl, rfl, rfl, rfl, ⟨⟨0, 0, 1, 1⟩, by decide, rfl, by decide⟩,
    ⟨some "orders.events", 0, 1, some 0⟩, by decide, rfl, rfl, 0, rfl, by decide⟩

end KubeDataGuard
