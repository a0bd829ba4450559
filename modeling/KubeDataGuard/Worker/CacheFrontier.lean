import KubeDataGuard.Worker.Bounded
import KubeDataGuard.Worker.Checker

/-!
# The frontier of the cache

A second indexer writes the topic's events to Redis. Its frontier is counted off
the documents that a scan of the keys finds, one `get` after another while the
indexer goes on writing: where it bounds a check, every order whose outbox row
is old enough is in the cache all the same.
-/

namespace KubeDataGuard

open Runs Delivery

/-! ## The scan -/

/-- Where a cached document was consumed from, unless one of the three is `None`. -/
def cachedPosition (document : Fields) : Option LogPosition :=
  match document.get? "dataguard_topic", document.get? "dataguard_partition",
    document.get? "dataguard_offset" with
  | some (.str topic), some (.int partition), some (.int offset) => some ⟨topic, partition, offset⟩
  | _, _, _ => none

def AppliedOffset.key (row : AppliedOffset) : Option String × Int := (row.topic, row.partition)

/-- `offsets.setdefault(frontier_key, ...)` -/
def setDefault (rows : List AppliedOffset) (p : LogPosition) : List AppliedOffset :=
  if (some p.topic, p.partition) ∈ rows.map AppliedOffset.key then rows
  else rows ++ [{ topic := some p.topic, partition := p.partition, eventCount := 0,
                  maxAppliedOffset := none }]

def AppliedOffset.count (row : AppliedOffset) (offset : Int) : AppliedOffset :=
  { row with
    eventCount := row.eventCount + 1
    maxAppliedOffset := if row.maxAppliedOffset.all fun max => decide (max < offset) then some offset
      else row.maxAppliedOffset }

def addApplied (rows : List AppliedOffset) (p : LogPosition) : List AppliedOffset :=
  (setDefault rows p).map fun row =>
    if row.key = (some p.topic, p.partition) then row.count p.offset else row

/-- `cache.target_offset_frontier`, for what each key of the scan was read as. -/
def cacheTargetOffsetFrontier (keyPrefix : String) (raws : List (Option Fields)) : TargetFrontier :=
  let positions := raws.filterMap fun raw => raw.bind cachedPosition
  let rows := positions.foldl addApplied []
  { appliedOffsets := rows
    dict := .obj [("system", .str "redis"), ("key_prefix", .str keyPrefix),
      ("offset_recorded_count", .int positions.length),
      ("applied_offsets", .arr (rows.map AppliedOffset.toJson))] }

/-- One row for each stream, with the number of its documents and the furthest of them. -/
structure Counted (positions : List LogPosition) (rows : List AppliedOffset) : Prop where
  once : (rows.map AppliedOffset.key).Nodup
  furthest : ∀ row ∈ rows, ∃ p ∈ positions, row.key = (some p.topic, p.partition) ∧
    row.maxAppliedOffset = some p.offset ∧ ∀ q ∈ positions, q.stream = p.stream → q.offset ≤ p.offset
  listed : ∀ p ∈ positions, (some p.topic, p.partition) ∈ rows.map AppliedOffset.key

section Scan

variable {rows : List AppliedOffset} {positions : List LogPosition} {p : LogPosition}

theorem keys_addApplied (rows : List AppliedOffset) (p : LogPosition) :
    (addApplied rows p).map AppliedOffset.key = (setDefault rows p).map AppliedOffset.key := by
  unfold addApplied
  rw [List.map_map]
  apply List.map_congr_left
  intro row _
  rw [Function.comp_apply]
  split <;> rfl

theorem keys_setDefault (rows : List AppliedOffset) (p : LogPosition) :
    (setDefault rows p).map AppliedOffset.key =
      if (some p.topic, p.partition) ∈ rows.map AppliedOffset.key then rows.map AppliedOffset.key
      else rows.map AppliedOffset.key ++ [(some p.topic, p.partition)] := by
  unfold setDefault
  split
  · rfl
  · rw [List.map_append]
    rfl

theorem stream_eq_iff {p q : LogPosition} : q.stream = p.stream ↔
    (some q.topic, q.partition) = (some p.topic, p.partition) := by
  simp [LogPosition.stream]

/-- The row that a document is counted in is there, or is new and empty. -/
theorem mem_setDefault {row : AppliedOffset} (mem : row ∈ setDefault rows p) :
    row ∈ rows ∨ row.key = (some p.topic, p.partition) ∧ row.maxAppliedOffset = none ∧
      (some p.topic, p.partition) ∉ rows.map AppliedOffset.key := by
  unfold setDefault at mem
  split at mem
  · exact Or.inl mem
  · rename_i new
    obtain old | last := List.mem_append.mp mem
    · exact Or.inl old
    · rw [List.mem_singleton.mp last]
      exact Or.inr ⟨rfl, rfl, new⟩

/-- The document that is counted is the furthest of its row, or the one before remains so. -/
theorem Counted.furthest_count (counted : Counted positions rows) {row : AppliedOffset}
    (mem : row ∈ setDefault rows p) (own : row.key = (some p.topic, p.partition)) :
    ∃ q ∈ positions ++ [p], (row.count p.offset).key = (some q.topic, q.partition) ∧
      (row.count p.offset).maxAppliedOffset = some q.offset ∧
      ∀ q' ∈ positions ++ [p], q'.stream = q.stream → q'.offset ≤ q.offset := by
  obtain known | ⟨-, fresh, new⟩ := mem_setDefault mem
  · obtain ⟨q, held, here, maximum, above⟩ := counted.furthest row known
    have same : q.stream = p.stream := stream_eq_iff.mpr (here.symm.trans own)
    by_cases further : q.offset < p.offset
    · refine ⟨p, by simp, own, by simp [AppliedOffset.count, maximum, further], ?_⟩
      intro q' mem' same'
      obtain old | last := List.mem_append.mp mem'
      · exact (above q' old (same'.trans same.symm)).trans (le_of_lt further)
      · rw [List.mem_singleton.mp last]
    · refine ⟨q, List.mem_append_left _ held, here,
        by simp [AppliedOffset.count, maximum, further], ?_⟩
      intro q' mem' same'
      obtain old | last := List.mem_append.mp mem'
      · exact above q' old same'
      · rw [List.mem_singleton.mp last]
        omega
  · refine ⟨p, by simp, own, by simp [AppliedOffset.count, fresh], ?_⟩
    intro q mem' same
    obtain old | last := List.mem_append.mp mem'
    · exact absurd (stream_eq_iff.mp same ▸ counted.listed q old) new
    · rw [List.mem_singleton.mp last]

/-- A document of another row leaves the furthest of this one. -/
theorem Counted.furthest_other (counted : Counted positions rows) {row : AppliedOffset}
    (mem : row ∈ setDefault rows p) (other : row.key ≠ (some p.topic, p.partition)) :
    ∃ q ∈ positions ++ [p], row.key = (some q.topic, q.partition) ∧
      row.maxAppliedOffset = some q.offset ∧
      ∀ q' ∈ positions ++ [p], q'.stream = q.stream → q'.offset ≤ q.offset := by
  have known : row ∈ rows := (mem_setDefault mem).resolve_right fun new => other new.1
  obtain ⟨q, held, here, maximum, above⟩ := counted.furthest row known
  refine ⟨q, List.mem_append_left _ held, here, maximum, ?_⟩
  intro q' mem' same
  obtain old | last := List.mem_append.mp mem'
  · exact above q' old same
  · rw [List.mem_singleton.mp last] at same
    exact absurd (here.trans (stream_eq_iff.mp same).symm) other

theorem Counted.add (counted : Counted positions rows) (p : LogPosition) :
    Counted (positions ++ [p]) (addApplied rows p) := by
  have keys := (keys_addApplied rows p).trans (keys_setDefault rows p)
  refine ⟨?_, ?_, ?_⟩
  · rw [keys]
    split
    · exact counted.once
    · rename_i new
      exact List.nodup_append'.mpr ⟨counted.once, List.nodup_singleton _, by simpa using new⟩
  · intro row mem
    obtain ⟨row, old, rfl⟩ := List.mem_map.mp mem
    split
    · rename_i own
      exact counted.furthest_count old own
    · rename_i other
      exact counted.furthest_other old other
  · intro q mem
    rw [keys]
    obtain old | last := List.mem_append.mp mem
    · have listed := counted.listed q old
      split
      · exact listed
      · exact List.mem_append_left _ listed
    · rw [List.mem_singleton.mp last]
      split
      · assumption
      · simp

theorem counted_scan (positions : List LogPosition) :
    Counted positions (positions.foldl addApplied []) := by
  induction positions using List.reverseRecOn with
  | nil => exact ⟨List.nodup_nil, nofun, nofun⟩
  | append_singleton positions p ih =>
    rw [List.foldl_append]
    exact ih.add p

end Scan

/-! ## The cache beside the index -/

structure CachedFlow where
  flow : OrderFlow
  cache : Indexing Fields

inductive CachedMove
  | flow (m : FlowMove)
  | cache (m : IndexerMove)

namespace CachedFlow

/-- The cache's indexer is another group over the same topic; it skips no paid order either. -/
inductive Step (partitionOf : String → Nat) (topic cachePrefix : String) :
    CachedFlow → CachedMove → CachedFlow → Prop
  | flow (s : CachedFlow) (m : FlowMove) (t : OrderFlow)
      (step : OrderFlow.Step partitionOf topic s.flow m t) :
      Step partitionOf topic cachePrefix s (.flow m) ⟨t, { s.cache with log := t.log }⟩
  | cache (s : CachedFlow) (m : IndexerMove) (t : Indexing Fields) (own : ∀ e, m ≠ .produce e)
      (step : runCacheIndexer partitionOf topic cachePrefix none s.cache m t) :
      Step partitionOf topic cachePrefix s (.cache m) { s with cache := t }

def Starting (s : CachedFlow) : Prop :=
  s.flow.Starting ∧ s.cache = ⟨fun _ => [], fun _ => 0, ∅, none⟩

def flowMove : CachedMove → Option FlowMove
  | .flow m => some m
  | .cache _ => none

def cacheMove : CachedMove → Option IndexerMove
  | .flow (.land e) => some (.produce e)
  | .flow _ => none
  | .cache m => some m

abbrev cacheMoves (history : List CachedMove) : List IndexerMove := history.filterMap cacheMove

variable {partitionOf : String → Nat} {topic cachePrefix : String}

theorem run_flow {history : List CachedMove} {s : CachedFlow}
    (run : Run Starting (Step partitionOf topic cachePrefix) history s) :
    Run OrderFlow.Starting (OrderFlow.Step partitionOf topic) (history.filterMap flowMove) s.flow := by
  refine run.viewed (fun _ starting => starting.1) ?_
  intro s m t step
  cases step with
  | flow m t step => exact step
  | cache => rfl

/-- Only a request that lands changes the topic. -/
theorem log_unmoved {s t : OrderFlow} {m : FlowMove} (step : OrderFlow.Step partitionOf topic s m t)
    (other : ∀ e, m ≠ .land e) : t.log = s.log := by
  cases step with
  | land e sent => exact absurd rfl (other e)
  | index m t own step =>
    cases step with
    | produce e => exact absurd rfl (own e)
    | _ => rfl
  | _ => rfl

theorem step_log {s t : CachedFlow} {m : CachedMove}
    (step : Step partitionOf topic cachePrefix s m t) (p : Nat) : s.flow.log p <+: t.flow.log p := by
  cases step with
  | flow m t step => exact OrderFlow.step_log step p
  | cache => exact List.prefix_rfl

theorem run_cache {history : List CachedMove} {s : CachedFlow}
    (run : Run Starting (Step partitionOf topic cachePrefix) history s) :
    Run (Indexing.StartingEmpty partitionOf)
      (Indexing.Step partitionOf topic none (orderCache cachePrefix)) (cacheMoves history) s.cache ∧
    s.cache.log = s.flow.log := by
  induction run with
  | start starting =>
    obtain ⟨⟨-, -, -, -, indexing⟩, cache⟩ := starting
    rw [cache]
    refine ⟨.start ⟨⟨by simp, fun _ => rfl, rfl⟩, rfl⟩, ?_⟩
    unfold OrderFlow.log
    rw [indexing]
  | @next history s m t before step ih =>
    obtain ⟨cache, same⟩ := ih
    cases step with
    | flow m t step =>
      refine ⟨?_, rfl⟩
      by_cases landed : ∃ e, m = .land e
      · obtain ⟨e, rfl⟩ := landed
        cases step with
        | land e sent =>
          have coherent := OrderFlow.run_coherent (run_flow before)
          obtain ⟨row, mem, rfl⟩ := List.mem_map.mp (coherent.requested e sent)
          have order : row.event.orderId = row.event.order.id := coherent.row_order mem
          have produced : Indexing.Step partitionOf topic none (orderCache cachePrefix) s.cache
              (.produce row.event) _ := .produce s.cache row.event
          rw [same, ← order] at produced
          exact cache.next produced
      · have quiet : cacheMove (.flow m) = none := by
          cases m with
          | land e => exact absurd ⟨e, rfl⟩ landed
          | _ => rfl
        rw [cacheMoves, List.filterMap_cons_none quiet, log_unmoved step fun e at_ => landed ⟨e, at_⟩,
          ← same]
        exact cache
    | cache m t own step =>
      refine ⟨cache.next step, ?_⟩
      cases step with
      | produce e => exact absurd rfl (own e)
      | _ => exact same

variable (cachePrefix) in
/-- The cache's document of an order. -/
def cached (s : CachedFlow) (id : String) : Option Fields :=
  (orderCache cachePrefix).read s.cache.store id

theorem cachedPosition_rendered {p offset : Nat} {e : OrderEvent} {d : Fields}
    (rendered : (orderCache cachePrefix).Renders topic p e offset d) :
    cachedPosition d = some ⟨topic, p, offset⟩ := by
  obtain ⟨now, rfl⟩ := rendered
  have told : ∀ fields : Fields, cachedPosition (((fields.set "dataguard_topic" (.str topic)).set
      "dataguard_partition" (.int p)).set "dataguard_offset" (.int offset)) =
        some ⟨topic, p, offset⟩ := by
    intro fields
    unfold cachedPosition
    rw [Fields.get?_set_ne _ _ (by decide), Fields.get?_set_ne _ _ (by decide), Fields.get?_set_self,
      Fields.get?_set_ne _ _ (by decide), Fields.get?_set_self, Fields.get?_set_self]
  exact told _

theorem wrote_mono {moves moves' : List IndexerMove} (earlier : moves <:+ moves') {p i : Nat}
    (written : wrote moves p i = true) : wrote moves' p i = true := by
  obtain ⟨later, rfl⟩ := earlier
  unfold wrote at written ⊢
  rw [List.any_append, written, Bool.or_true]

section Reported

variable {history : List (CachedFlow × CachedMove)} {s a : CachedFlow}
  (run : Run Starting (Recorded (Step partitionOf topic cachePrefix)) history s)
include run

theorem seen_log (seen : Seen history s a) (p : Nat) : a.flow.log p <+: s.flow.log p :=
  run.seen_kept (I := fun t => a.flow.log p <+: t.flow.log p)
    (fun _ _ _ step grown => grown.trans (step_log step p)) seen List.prefix_rfl

/-- A document read from the cache at any time: all up to its offset has been written. -/
theorem wrote_of_read (seen : Seen history s a) {id : String} {d : Fields} {at_ : LogPosition}
    (held : a.cached cachePrefix id = some d) (told : cachedPosition d = some at_) :
    at_.topic = topic ∧ ∃ p offset : Nat, at_.partition = p ∧ at_.offset = offset ∧
      ∀ i ≤ offset, ∃ e, (s.flow.log p)[i]? = some e ∧
        wrote (cacheMoves (history.map Prod.snd)) p i = true := by
  obtain ⟨_, earlier, before⟩ := run.seen seen
  obtain ⟨cache, log⟩ := run_cache before.moves
  obtain ⟨p, offset, e, found, written, -, rendered⟩ := read_rendered cache held
  obtain rfl := Option.some.inj (told.symm.trans (cachedPosition_rendered rendered))
  refine ⟨rfl, p, offset, rfl, rfl, fun i le => ?_⟩
  obtain ⟨n, applied⟩ := (empty_indexed cache).applied p
  have upto : offset < n := of_decide_eq_true ((applied.written offset).symm.trans written)
  have before_n : i < n := by omega
  have inLog := applied.inLog
  rw [log] at inLog
  have within : i < (a.flow.log p).length := by omega
  refine ⟨_, OrderFlow.stays (List.getElem?_eq_getElem within) (seen_log run seen p), ?_⟩
  refine wrote_mono ((earlier.map Prod.snd).filterMap _) ((applied.written i).trans ?_)
  exact decide_eq_true before_n

end Reported

/-- Each key of the scan was read once the indexer had got so far, one after the other. -/
def Scanned (cachePrefix : String) (history : List (CachedFlow × CachedMove)) (s : CachedFlow)
    (raws : List (Option Fields)) : Prop :=
  ∀ raw ∈ raws, ∃ b id, Seen history s b ∧ raw = b.cached cachePrefix id

/-- Up to an offset that a scan counts off, the events of its partition have been written. -/
theorem cached_of_reported {history : List (CachedFlow × CachedMove)} {s : CachedFlow}
    (run : Run Starting (Recorded (Step partitionOf topic cachePrefix)) history s)
    {raws : List (Option Fields)} (scanned : Scanned cachePrefix history s raws)
    {offsets : StreamOffsets} (tabular : Tabular offsets (cacheTargetOffsetFrontier cachePrefix raws))
    {partition : Nat} {reached : Int}
    (reported : appliedOffset (cacheTargetOffsetFrontier cachePrefix raws) (some topic)
      (some (partition : Int)) = some reached) {j : Nat} (within : (j : Int) ≤ reached) :
    ∃ e, (s.flow.log partition)[j]? = some e ∧ (s.cached cachePrefix e.order.id).isSome := by
  obtain ⟨cache, log⟩ := run_cache run.moves
  have counted := counted_scan (raws.filterMap fun raw => raw.bind cachedPosition)
  obtain ⟨entry, listed, at_topic, here, maximum⟩ := (appliedOffset_eq tabular).mp reported
  obtain ⟨at_, position, key, furthest, -⟩ := counted.furthest entry listed
  obtain ⟨raw, read, told⟩ := List.mem_filterMap.mp position
  obtain ⟨b, id, seen_b, rfl⟩ := scanned raw read
  obtain ⟨d, held, told⟩ := Option.bind_eq_some_iff.mp told
  obtain ⟨-, p, offset, at_partition, same, upto⟩ := wrote_of_read run seen_b held told
  obtain rfl : p = partition := by
    have streams := (Prod.mk.inj key).2
    have theirs := Option.some.inj here
    omega
  have far : (offset : Int) = reached := by
    rw [← same]
    exact Option.some.inj (furthest.symm.trans maximum)
  obtain ⟨e, there, wrote⟩ := upto j (by omega)
  exact ⟨e, there, read_of_wrote cache (log ▸ there) wrote⟩

/-- Where the frontier of a cache check is bounded, each row that is old enough has been
published and its partition written to the cache as far as its event, without a gap, however
the scan went. -/
theorem bounded_cache_applied {history : List (CachedFlow × CachedMove)} {s a : CachedFlow}
    (run : Run Starting (Recorded (Step partitionOf topic cachePrefix)) history s)
    (seen : Seen history s a) {raws : List (Option Fields)}
    (scanned : Scanned cachePrefix history s raws) {r : Readings} {maxLagSeconds : Int} {now : Instant}
    (outbox : r.outboxFrontier = .ok (outboxFrontier a.flow.outboxEvents now maxLagSeconds))
    (stream : ∀ offsets, r.streamOffsets = .ok offsets → ∃ partitions starts ends,
      offsets = topicOffsetRange partitions starts ends)
    (watermark : Option String)
    (bounded : (r.evidence maxLagSeconds watermark
      (some (cacheTargetOffsetFrontier cachePrefix raws))).cdcFrontier.get "status" = .str "bounded") :
    ∀ row ∈ a.flow.db.outbox, row.createdAt ≤ now - seconds maxLagSeconds →
      row.publishedAt.isSome ∧ (s.cached cachePrefix row.orderId).isSome ∧
      ∃ offset : Nat, (s.flow.log (partitionOf row.orderId))[offset]? = some row.event ∧
        ∀ i ≤ offset, ∃ e, (s.flow.log (partitionOf row.orderId))[i]? = some e ∧
          (s.cached cachePrefix e.order.id).isSome := by
  obtain ⟨_, -, before⟩ := run.seen seen
  have coherent := OrderFlow.run_coherent (run_flow before.moves)
  have counted := counted_scan (raws.filterMap fun raw => raw.bind cachedPosition)
  have tabular : Tabular (streamOffsets r.streamOffsets)
      (cacheTargetOffsetFrontier cachePrefix raws) := ⟨OrderFlow.streamOffsets_once stream, counted.once⟩
  simp only [Readings.evidence, Readings.buildCheckCdcFrontier, outbox, buildCdcFrontier_status,
    Json.str.injEq] at bounded
  intro row mem old
  obtain ⟨published, i, found, reached, reported, le⟩ := coherent.bounded tabular bounded mem old
  have written : ∀ j ≤ i, ∃ e, (s.flow.log (partitionOf row.orderId))[j]? = some e ∧
      (s.cached cachePrefix e.order.id).isSome := fun j before =>
    cached_of_reported run scanned tabular reported ((Int.ofNat_le.mpr before).trans le)
  obtain ⟨e, there, held⟩ := written i le_rfl
  have event := OrderFlow.stays found (seen_log run seen _)
  obtain rfl := Option.some.inj (event.symm.trans there)
  refine ⟨published, ?_, i, event, written⟩
  rw [coherent.row_order mem]
  exact held

/-! ## A scan while the indexer writes -/

theorem run_beside {moves : List FlowMove} {t : OrderFlow}
    (run : Run OrderFlow.Starting (OrderFlow.Step partitionOf topic) moves t) :
    ∃ history, Run Starting (Step partitionOf topic cachePrefix) history
      ⟨t, ⟨t.log, fun _ => 0, ∅, none⟩⟩ := by
  induction run with
  | @start s starting =>
    refine ⟨[], .start ⟨starting, ?_⟩⟩
    obtain ⟨-, -, -, -, indexing⟩ := starting
    unfold OrderFlow.log
    rw [indexing]
  | next _ step ih =>
    obtain ⟨history, before⟩ := ih
    exact ⟨_, before.next (.flow _ _ _ step)⟩

def cachingFlow (committed : Nat) (cache : AList fun _ : String => Fields)
    (consumer : Option Consumer) : CachedFlow :=
  ⟨OrderFlow.publishedFlow,
    ⟨OrderFlow.publishedFlow.log, OrderFlow.consumedTo committed, cache, consumer⟩⟩

def cachedCopies : Nat → AList fun _ : String => Fields
  | 0 => ∅
  | n + 1 => (orderCache "order").put (cachedCopies n) OrderFlow.insertedRow.payload (seconds 3)
      (some ((orderCache "order").metadata OrderFlow.insertedRow.event "dataguard.order-events" 0 n))

def cacheConsumer (n : Nat) (stage : Stage) (indexed : Nat) (seen : Int) : Consumer where
  maxMessages := none
  position := OrderFlow.consumedTo n
  seen := seen
  processed := n
  indexed := indexed
  paidSeen := n
  stage := stage

def cachedTwice : CachedFlow :=
  cachingFlow 1 (cachedCopies 2) (some (cacheConsumer 2 (.handled 0 1) 2 1))

/-- A run through the moments before either copy is written and between the two. -/
theorem cachedTwice_run : ∃ history,
    Run Starting (Recorded (Step (fun _ => 0) "dataguard.order-events" "order")) history cachedTwice ∧
    Seen history cachedTwice (cachingFlow 0 ∅ none) ∧
    Seen history cachedTwice (cachingFlow 1 (cachedCopies 1) (some (cacheConsumer 1 .polling 1 1))) := by
  obtain ⟨_, moves⟩ : ∃ history, Run Starting (Step (fun _ => 0) "dataguard.order-events" "order")
    history (cachingFlow 0 ∅ none) := run_beside OrderFlow.publishedTwice_run
  obtain ⟨_, published⟩ := moves.recorded
  have polling := published.record (.cache _ (.start none)
    (cachingFlow 0 ∅ (some (cacheConsumer 0 .polling 0 0))).cache nofun (.start _ none rfl))
  have delivered := polling.record (.cache _ (.deliver 0)
    (cachingFlow 0 ∅ (some (cacheConsumer 1 (.delivered 0 0 OrderFlow.insertedRow.event) 0 0))).cache
    nofun (.deliver _ (cacheConsumer 0 .polling 0 0) 0 OrderFlow.insertedRow.event rfl rfl rfl))
  have written := delivered.record (.cache _ (.write 0 0 (seconds 3))
    (cachingFlow 0 (cachedCopies 1) (some (cacheConsumer 1 (.handled 0 0) 1 0))).cache nofun
    (.write _ (cacheConsumer 1 (.delivered 0 0 OrderFlow.insertedRow.event) 0 0) 0 0
      OrderFlow.insertedRow.event (seconds 3) rfl rfl rfl))
  have committed := written.record (.cache _ .commit
    (cachingFlow 1 (cachedCopies 1) (some (cacheConsumer 1 .polling 1 1))).cache nofun
    (.commit _ (cacheConsumer 1 (.handled 0 0) 1 0) 0 0 rfl rfl))
  have second := committed.record (.cache _ (.deliver 0)
    (cachingFlow 1 (cachedCopies 1)
      (some (cacheConsumer 2 (.delivered 0 1 OrderFlow.insertedRow.event) 1 1))).cache
    nofun (.deliver _ (cacheConsumer 1 .polling 1 1) 0 OrderFlow.insertedRow.event rfl rfl rfl))
  have rewritten := second.record (.cache _ (.write 0 1 (seconds 3)) cachedTwice.cache nofun
    (.write _ (cacheConsumer 2 (.delivered 0 1 OrderFlow.insertedRow.event) 1 1) 0 1
      OrderFlow.insertedRow.event (seconds 3) rfl rfl rfl))
  refine ⟨_, rewritten, Or.inr ⟨.cache (.start none), ?_⟩, Or.inr ⟨.cache (.deliver 0), ?_⟩⟩
  · simp [cachingFlow]
  · exact List.mem_cons_of_mem _ List.mem_cons_self

/-- The key is read before it is written, between the copies and twice afterwards. -/
def scannedRaws : List (Option Fields) :=
  [(cachingFlow 0 ∅ none).cached "order" "o1",
    (cachingFlow 1 (cachedCopies 1) (some (cacheConsumer 1 .polling 1 1))).cached "order" "o1",
    cachedTwice.cached "order" "o1", cachedTwice.cached "order" "o1"]

def cacheReadings : Readings :=
  OrderFlow.publishedFlow.readings "dataguard.order-events" "0/1" "orders" [0] (fun _ => 0) 0 0

theorem bounded_cache_applied_twice :
    (cachedTwice.cached "order" "o1").isSome ∧ ∃ offset : Nat,
      (OrderFlow.publishedFlow.log 0)[offset]? = some OrderFlow.insertedRow.event ∧
        ∀ i ≤ offset, ∃ e, (OrderFlow.publishedFlow.log 0)[i]? = some e ∧
          (cachedTwice.cached "order" e.order.id).isSome := by
  obtain ⟨history, run, before, between⟩ := cachedTwice_run
  have scanned : Scanned "order" history cachedTwice scannedRaws := by
    intro raw mem
    simp only [scannedRaws, List.mem_cons, List.not_mem_nil, or_false] at mem
    obtain rfl | rfl | rfl | rfl := mem
    · exact ⟨_, "o1", before, rfl⟩
    · exact ⟨_, "o1", between, rfl⟩
    · exact ⟨_, "o1", Or.inl rfl, rfl⟩
    · exact ⟨_, "o1", Or.inl rfl, rfl⟩
  have bounded : (cacheReadings.evidence 0 none
      (some (cacheTargetOffsetFrontier "order" scannedRaws))).cdcFrontier.get "status" =
        .str "bounded" := by
    simp only [Readings.evidence, Readings.buildCheckCdcFrontier, buildCdcFrontier_status]
    exact congrArg Json.str (by decide +kernel)
  exact (bounded_cache_applied run (Or.inl rfl) scanned rfl
    (fun _ same => ⟨_, _, _, (Except.ok.inj same).symm⟩) none bounded
    (OrderFlow.insertedRow.mark (seconds 2) OrderFlow.secondCopy) (.head _) (by decide)).2

end CachedFlow

end KubeDataGuard
