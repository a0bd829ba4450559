import KubeDataGuard.General.Runs
import KubeDataGuard.Worker.Checksum

/-!
# The indexer and a direct reindex

Commits, the indexer and one direct-reindex repair over the same documents.
Both writers overwrite a document with `index_order` whatever it holds: the
indexer from the event, the repair from a row it read before. What counts for
an order is whether it was committed after the repair read it, and whether one
of its events was applied after the repair wrote it.
-/

namespace KubeDataGuard

open Runs

/-- The `orders` table by id. -/
structure Table where
  rows : AList fun _ : String => Order
  keyed : ∀ id o, rows.lookup id = some o → o.id = id

namespace Table

def orders (t : Table) : List Order := t.rows.entries.map Sigma.snd

def commit (t : Table) (o : Order) : Table where
  rows := t.rows.insert o.id o
  keyed := by
    intro id row h
    by_cases same : id = o.id
    · rw [same, AList.lookup_insert] at h
      rw [← Option.some.inj h, same]
    · rw [AList.lookup_insert_ne same] at h
      exact t.keyed id row h

theorem lookup_commit_self (t : Table) (o : Order) : (t.commit o).rows.lookup o.id = some o :=
  AList.lookup_insert t.rows

theorem lookup_commit_ne (t : Table) {o : Order} {id : String} (h : id ≠ o.id) :
    (t.commit o).rows.lookup id = t.rows.lookup id :=
  AList.lookup_insert_ne h

theorem mem_orders {t : Table} {o : Order} : o ∈ t.orders ↔ t.rows.lookup o.id = some o := by
  constructor
  · intro h
    obtain ⟨⟨id, row⟩, hmem, rfl⟩ := List.mem_map.mp h
    have found := AList.mem_lookup_iff.mpr hmem
    rw [t.keyed id row found]
    exact found
  · intro h
    exact List.mem_map.mpr ⟨⟨o.id, o⟩, AList.mem_lookup_iff.mp h, rfl⟩

theorem ids_nodup (t : Table) : (t.orders.map Order.id).Nodup := by
  have keys : t.orders.map Order.id = t.rows.keys := by
    rw [orders, AList.keys, List.keys, List.map_map]
    apply List.map_congr_left
    intro e he
    exact t.keyed e.1 e.2 (AList.mem_lookup_iff.mpr he)
  rw [keys]
  exact t.rows.keys_nodup

end Table

/-! ## Moves -/

/-- The events of each partition not yet committed by the indexer, and the rows
the repair has still to write, once it has read them. -/
structure Pipeline where
  source : Table
  queue : Nat → List Order
  index : Index
  repair : Option (List Order)

inductive Move
  | commit (o : Order)
  | apply (o : Order) (now : Instant) (metadata : EventMetadata) (committed : Bool)
  | read (ids : List String)
  | write (o : Order) (now : Instant)

namespace Move

def commits (id : String) : Move → Bool
  | .commit o => o.id == id
  | _ => false

def applies (id : String) : Move → Bool
  | .apply o _ _ _ => o.id == id
  | _ => false

def writes (id : String) : Move → Bool
  | .write o _ => o.id == id
  | _ => false

def reads : Move → Bool
  | .read _ => true
  | _ => false

end Move

variable (partitionOf : String → Nat)

/-- An event is published under its order's id and applied from the head of its
partition; an indexer that stops before it commits the offset applies it again. -/
inductive Pipeline.Step : Pipeline → Move → Pipeline → Prop
  | commit (s : Pipeline) (o : Order)
      (bump : ∀ row, s.source.rows.lookup o.id = some row → row.version < o.version) :
      Step s (.commit o)
        { s with
          source := s.source.commit o
          queue := Function.update s.queue (partitionOf o.id) (s.queue (partitionOf o.id) ++ [o]) }
  | apply (s : Pipeline) (o : Order) (rest : List Order) (now : Instant) (metadata : EventMetadata)
      (committed : Bool) (head : s.queue (partitionOf o.id) = o :: rest) :
      Step s (.apply o now metadata committed)
        { s with
          index := indexOrder s.index o now (some metadata)
          queue := if committed then Function.update s.queue (partitionOf o.id) rest else s.queue }
  | read (s : Pipeline) (ids : List String) (idle : s.repair = none) :
      Step s (.read ids) { s with repair := some (fetchOrdersByIds s.source.orders ids) }
  | write (s : Pipeline) (o : Order) (rest : List Order) (now : Instant)
      (next : s.repair = some (o :: rest)) :
      Step s (.write o now)
        { s with
          index := indexOrder s.index o now none
          repair := some rest }

/-- The events of an order still to be applied, in commit order. -/
def pending (queue : Nat → List Order) (id : String) : List Order :=
  (queue (partitionOf id)).filter fun o => o.id == id

/-- The last event of an order that is still to be applied carries its current row. -/
def Pipeline.Coherent (s : Pipeline) : Prop :=
  ∀ id o, (pending partitionOf s.queue id).getLast? = some o → s.source.rows.lookup id = some o

/-- Any contents of the index, and no repair under way. -/
def Pipeline.Starting (s : Pipeline) : Prop := s.Coherent partitionOf ∧ s.repair = none

/-- Once no event of the order is in flight, its document agrees with its row. -/
def Settled (s : Pipeline) (id : String) : Prop :=
  pending partitionOf s.queue id = [] →
    ∀ row, s.source.rows.lookup id = some row → Agrees row (s.index.lookup id)

/-- What happened since the latest move of a kind, in a history newest first. -/
def since (kind : Move → Bool) (history : List Move) : List Move :=
  history.takeWhile fun m => !kind m

def committedAgain (id : String) (history : List Move) : Bool :=
  (since Move.reads history).any (Move.commits id)

def writtenBack (id : String) (history : List Move) : Bool :=
  (since Move.reads history).any (Move.writes id)

def appliedSince (id : String) (history : List Move) : Bool :=
  (since (Move.writes id) history).any (Move.applies id)

/-- The repair wrote the order over a newer version: it was committed after the
repair read it, and none of its events was applied after the repair wrote it. -/
def Overtaken (id : String) (history : List Move) : Bool :=
  writtenBack id history && committedAgain id history && !appliedSince id history

theorem since_cons (kind : Move → Bool) (m : Move) (history : List Move) :
    since kind (m :: history) = if kind m then [] else m :: since kind history := by
  cases h : kind m <;> simp [since, h]

/-! ## Events in flight -/

section Queue

variable {partitionOf}

theorem pending_commit_self (queue : Nat → List Order) (o : Order) :
    pending partitionOf (Function.update queue (partitionOf o.id)
      (queue (partitionOf o.id) ++ [o])) o.id = pending partitionOf queue o.id ++ [o] := by
  simp [pending]

theorem pending_commit_ne (queue : Nat → List Order) {o : Order} {id : String} (ne : id ≠ o.id) :
    pending partitionOf (Function.update queue (partitionOf o.id)
      (queue (partitionOf o.id) ++ [o])) id = pending partitionOf queue id := by
  unfold pending
  by_cases same : partitionOf id = partitionOf o.id
  · rw [same, Function.update_self, List.filter_append]
    simp [Ne.symm ne]
  · rw [Function.update_of_ne same]

theorem pending_apply_self {queue : Nat → List Order} {o : Order} {rest : List Order}
    (head : queue (partitionOf o.id) = o :: rest) :
    pending partitionOf queue o.id =
      o :: pending partitionOf (Function.update queue (partitionOf o.id) rest) o.id := by
  simp [pending, head]

theorem pending_apply_ne {queue : Nat → List Order} {o : Order} {rest : List Order} {id : String}
    (ne : id ≠ o.id) (head : queue (partitionOf o.id) = o :: rest) :
    pending partitionOf (Function.update queue (partitionOf o.id) rest) id =
      pending partitionOf queue id := by
  unfold pending
  by_cases same : partitionOf id = partitionOf o.id
  · rw [same, Function.update_self, head]
    simp [Ne.symm ne]
  · rw [Function.update_of_ne same]

theorem step_coherent {s t : Pipeline} {m : Move} (h : s.Step partitionOf m t)
    (coherent : s.Coherent partitionOf) : t.Coherent partitionOf := by
  cases h with
  | commit o bump =>
    intro id last hlast
    by_cases same : id = o.id
    · subst same
      rw [pending_commit_self, List.getLast?_concat] at hlast
      rw [← Option.some.inj hlast]
      exact s.source.lookup_commit_self o
    · rw [pending_commit_ne _ same] at hlast
      exact (s.source.lookup_commit_ne same).trans (coherent id last hlast)
  | apply o rest now metadata committed head =>
    intro id last hlast
    cases committed with
    | false => exact coherent id last hlast
    | true =>
      refine coherent id last ?_
      rw [if_pos rfl] at hlast
      by_cases same : id = o.id
      · subst same
        rw [pending_apply_self head, List.getLast?_cons, hlast]
        rfl
      · rw [← hlast, pending_apply_ne same head]
  | read ids idle => exact coherent
  | write o rest now next => exact coherent

/-- An applied event settles its order; only a write of the repair unsettles it. -/
theorem settled_step {s t : Pipeline} {m : Move} {id : String} (h : s.Step partitionOf m t)
    (coherent : s.Coherent partitionOf) (unwritten : m.writes id = false)
    (settled : m.applies id = false → Settled partitionOf s id) :
    Settled partitionOf t id := by
  intro quiet row hrow
  cases h with
  | commit o bump =>
    by_cases same : id = o.id
    · subst same
      rw [pending_commit_self] at quiet
      exact absurd quiet (by simp)
    · rw [pending_commit_ne _ same] at quiet
      exact settled rfl quiet row ((s.source.lookup_commit_ne same).symm.trans hrow)
  | apply o rest now metadata committed head =>
    by_cases same : id = o.id
    · subst same
      cases committed with
      | false =>
        -- the event is still in flight
        rw [if_neg Bool.false_ne_true, pending_apply_self head] at quiet
        cases quiet
      | true =>
        rw [if_pos rfl] at quiet
        have last := coherent o.id o (by rw [pending_apply_self head, quiet]; rfl)
        rw [Option.some.inj (hrow.symm.trans last), lookup_indexOrder]
        exact agrees_orderDocument.mpr ⟨rfl, rfl, rfl, rfl⟩
    · have other : (Move.apply o now metadata committed).applies id = false :=
        beq_eq_false_iff_ne.mpr (Ne.symm same)
      rw [lookup_indexOrder_ne _ _ _ _ same]
      refine settled other ?_ row hrow
      cases committed with
      | false => exact quiet
      | true =>
        rw [← quiet, if_pos rfl, pending_apply_ne same head]
  | read ids idle => exact settled rfl quiet row hrow
  | write o rest now next =>
    have other : id ≠ o.id := Ne.symm (beq_eq_false_iff_ne.mp unwritten)
    rw [lookup_indexOrder_ne _ _ _ _ other]
    exact settled rfl quiet row hrow

end Queue

/-- A row read before, and whether its order was committed since. -/
def Held (s : Pipeline) (id : String) (o : Order) (moved : Bool) : Prop :=
  ∃ row, s.source.rows.lookup id = some row ∧ if moved then o.version < row.version else row = o

theorem held_step {s t : Pipeline} {m : Move} {id : String} {o : Order} {moved : Bool}
    (h : s.Step partitionOf m t) (held : Held s id o moved) :
    Held t id o (m.commits id || moved) := by
  cases h with
  | commit o' bump =>
    obtain ⟨row, hrow, hmoved⟩ := held
    by_cases same : id = o'.id
    · subst same
      refine ⟨o', s.source.lookup_commit_self o', ?_⟩
      have newer := bump row hrow
      rw [Move.commits, beq_self_eq_true, Bool.true_or, if_pos rfl]
      cases moved with
      | false =>
        rw [if_neg Bool.false_ne_true] at hmoved
        rw [← hmoved]
        exact newer
      | true => exact lt_trans hmoved newer
    · refine ⟨row, (s.source.lookup_commit_ne same).trans hrow, ?_⟩
      rw [Move.commits, beq_eq_false_iff_ne.mpr (Ne.symm same), Bool.false_or]
      exact hmoved
  | apply => exact held
  | read => exact held
  | write => exact held

/-! ## Where a candidate stands -/

section Since

variable {m : Move} {id : String} {history : List Move}

theorem committedAgain_cons (h : m.reads = false) :
    committedAgain id (m :: history) = (m.commits id || committedAgain id history) := by
  simp [committedAgain, since_cons, h]

theorem writtenBack_cons (h : m.reads = false) :
    writtenBack id (m :: history) = (m.writes id || writtenBack id history) := by
  simp [writtenBack, since_cons, h]

theorem appliedSince_cons (h : m.writes id = false) :
    appliedSince id (m :: history) = (m.applies id || appliedSince id history) := by
  simp [appliedSince, since_cons, h]

theorem appliedSince_write (h : m.writes id = true) : appliedSince id (m :: history) = false := by
  simp [appliedSince, since_cons, h]

end Since

/-- After the read an order is still to be written, or its document follows its
events, or the document is the row the repair wrote. -/
inductive Standing (id : String) (history : List Move) (s : Pipeline) : Prop
  | held (o : Order) (rest : List Order) (left : s.repair = some rest) (mem : o ∈ rest)
      (ident : o.id = id) (unwritten : writtenBack id history = false)
      (row : Held s id o (committedAgain id history))
  | settled (rest : List Order) (left : s.repair = some rest) (done : ∀ o ∈ rest, o.id ≠ id)
      (current : Settled partitionOf s id)
      (kept : writtenBack id history = false ∨ appliedSince id history = true)
  | behind (o : Order) (now : Instant) (rest : List Order) (left : s.repair = some rest)
      (done : ∀ o ∈ rest, o.id ≠ id) (wrote : Move.write o now ∈ history)
      (written : writtenBack id history = true) (unapplied : appliedSince id history = false)
      (document : s.index.lookup id = some (orderDocument o now none))
      (row : Held s id o (committedAgain id history))

section Steps

variable {partitionOf} {s t : Pipeline} {m : Move} {id : String} {history : List Move}

theorem held_after (h : s.Step partitionOf m t) (noRead : m.reads = false) {o : Order}
    (held : Held s id o (committedAgain id history)) :
    Held t id o (committedAgain id (m :: history)) := by
  rw [committedAgain_cons noRead]
  exact held_step partitionOf h held

/-- The repair writes the order: the document is now the row it read. -/
theorem standing_write_self {o : Order} {rest : List Order} {now : Instant}
    (next : s.repair = some (o :: rest)) (same : o.id = id)
    (nodup : ((o :: rest).map Order.id).Nodup) (standing : Standing partitionOf id history s) :
    Standing partitionOf id (.write o now :: history)
      { s with
        index := indexOrder s.index o now none
        repair := some rest } := by
  have fresh := (List.nodup_cons.mp nodup).1
  cases standing with
  | held o' rest' left mem ident unwritten row =>
    rw [next] at left
    cases left
    have own : o' = o := by
      cases mem with
      | head => rfl
      | tail _ mem => exact absurd (List.mem_map.mpr ⟨o', mem, ident.trans same.symm⟩) fresh
    subst own
    refine .behind o' now rest rfl ?_ List.mem_cons_self ?_ ?_ ?_ ?_
    · intro o₂ ho₂ hid
      exact fresh (List.mem_map.mpr ⟨o₂, ho₂, hid.trans same.symm⟩)
    · rw [writtenBack_cons rfl, Move.writes, beq_iff_eq.mpr same, Bool.true_or]
    · exact appliedSince_write (beq_iff_eq.mpr same)
    · rw [← same]
      exact lookup_indexOrder _ _ _ _
    · have step : s.Step partitionOf (.write o' now) _ := .write s o' rest now next
      exact held_after step rfl row
  | settled rest' left done =>
    rw [next] at left
    cases left
    exact absurd same (done o List.mem_cons_self)
  | behind o' now' rest' left done =>
    rw [next] at left
    cases left
    exact absurd same (done o List.mem_cons_self)

/-- The repair writes another order. -/
theorem standing_write_other {o : Order} {rest : List Order} {now : Instant}
    (next : s.repair = some (o :: rest)) (other : o.id ≠ id) (coherent : s.Coherent partitionOf)
    (standing : Standing partitionOf id history s) :
    Standing partitionOf id (.write o now :: history)
      { s with
        index := indexOrder s.index o now none
        repair := some rest } := by
  have unwrites : (Move.write o now).writes id = false := beq_eq_false_iff_ne.mpr other
  have written : writtenBack id (.write o now :: history) = writtenBack id history := by
    rw [writtenBack_cons rfl, unwrites, Bool.false_or]
  have applied : appliedSince id (.write o now :: history) = appliedSince id history := by
    rw [appliedSince_cons unwrites]
    rfl
  have step : s.Step partitionOf (.write o now) _ := .write s o rest now next
  cases standing with
  | held o' rest' left mem ident unwritten row =>
    rw [next] at left
    cases left
    refine .held o' rest rfl ?_ ident (written.trans unwritten) (held_after step rfl row)
    cases mem with
    | head => exact absurd ident other
    | tail _ mem => exact mem
  | settled rest' left done current kept =>
    rw [next] at left
    cases left
    refine .settled rest rfl (fun o₂ ho₂ => done o₂ (List.mem_cons_of_mem o ho₂)) ?_ ?_
    · exact settled_step step coherent unwrites fun _ => current
    · rw [written, applied]
      exact kept
  | behind o' now' rest' left done wrote hwritten unapplied document row =>
    rw [next] at left
    cases left
    refine .behind o' now' rest rfl (fun o₂ ho₂ => done o₂ (List.mem_cons_of_mem o ho₂))
      (List.mem_cons_of_mem _ wrote) (written.trans hwritten) (applied.trans unapplied) ?_
      (held_after step rfl row)
    rw [← document]
    exact lookup_indexOrder_ne _ _ _ _ (Ne.symm other)

/-- A commit or an applied event. -/
theorem standing_kept (h : s.Step partitionOf m t) (coherent : s.Coherent partitionOf)
    (noRead : m.reads = false) (noWrite : ∀ id, m.writes id = false) (kept : t.repair = s.repair)
    (standing : Standing partitionOf id history s) : Standing partitionOf id (m :: history) t := by
  have written : writtenBack id (m :: history) = writtenBack id history := by
    rw [writtenBack_cons noRead, noWrite, Bool.false_or]
  cases standing with
  | held o rest left mem ident unwritten row =>
    exact .held o rest (kept.trans left) mem ident (written.trans unwritten)
      (held_after h noRead row)
  | settled rest left done current follows =>
    refine .settled rest (kept.trans left) done ?_ ?_
    · exact settled_step h coherent (noWrite id) fun _ => current
    · rw [written, appliedSince_cons (noWrite id)]
      exact follows.imp_right fun applied => by rw [applied, Bool.or_true]
  | behind o now rest left done wrote hwritten unapplied document row =>
    cases happlies : m.applies id with
    | true =>
      refine .settled rest (kept.trans left) done ?_ (Or.inr ?_)
      · refine settled_step h coherent (noWrite id) fun none => ?_
        rw [happlies] at none
        cases none
      · rw [appliedSince_cons (noWrite id), happlies, Bool.true_or]
    | false =>
      refine .behind o now rest (kept.trans left) done (List.mem_cons_of_mem m wrote)
        (written.trans hwritten) ?_ ?_ (held_after h noRead row)
      · rw [appliedSince_cons (noWrite id), happlies, unapplied]
        rfl
      · rw [← document]
        cases h with
        | commit => rfl
        | apply o' =>
          exact lookup_indexOrder_ne _ _ _ _ (Ne.symm (beq_eq_false_iff_ne.mp happlies))
        | read => cases noRead
        | write o' => exact absurd (noWrite o'.id) (by simp [Move.writes])

variable (partitionOf) in
/-- What holds of a candidate along every run. -/
structure Tracked (ids : List String) (id : String) (history : List Move) (s : Pipeline) : Prop where
  coherent : s.Coherent partitionOf
  unread : s.repair = none → ∀ ids, Move.read ids ∉ history
  nodup : ∀ rest, s.repair = some rest → (rest.map Order.id).Nodup
  standing : Move.read ids ∈ history → id ∈ ids → Standing partitionOf id history s

/-- The read takes the candidate's row, if the source has one. -/
theorem standing_read {ids : List String} (mem : id ∈ ids) :
    Standing partitionOf id (.read ids :: history)
      { s with repair := some (fetchOrdersByIds s.source.orders ids) } := by
  have unwritten : writtenBack id (.read ids :: history) = false := by
    simp [writtenBack, since_cons, Move.reads]
  have uncommitted : committedAgain id (.read ids :: history) = false := by
    simp [committedAgain, since_cons, Move.reads]
  cases hrow : s.source.rows.lookup id with
  | some row =>
    have ident := s.source.keyed id row hrow
    refine .held row _ rfl ?_ ident unwritten ⟨row, hrow, ?_⟩
    · exact mem_fetchOrdersByIds.mpr ⟨Table.mem_orders.mpr (ident ▸ hrow), ident ▸ mem⟩
    · rw [uncommitted, if_neg Bool.false_ne_true]
  | none =>
    refine .settled _ rfl ?_ ?_ (Or.inl unwritten)
    · intro o ho same
      have := Table.mem_orders.mp (mem_fetchOrdersByIds.mp ho).1
      rw [same, hrow] at this
      cases this
    · intro _ row hrow'
      exact absurd (hrow.symm.trans hrow') (by simp)

theorem step_tracked {ids : List String} (h : s.Step partitionOf m t)
    (tracked : Tracked partitionOf ids id history s) :
    Tracked partitionOf ids id (m :: history) t := by
  have coherent := step_coherent h tracked.coherent
  cases h with
  | commit o bump =>
    refine ⟨coherent, ?_, tracked.nodup, ?_⟩
    · intro idle ids hread
      exact tracked.unread idle ids (List.mem_of_ne_of_mem (by simp) hread)
    · intro hread hid
      have standing := tracked.standing (List.mem_of_ne_of_mem (by simp) hread) hid
      exact standing_kept (.commit s o bump) tracked.coherent rfl (fun _ => rfl) rfl standing
  | apply o rest now metadata committed head =>
    refine ⟨coherent, ?_, tracked.nodup, ?_⟩
    · intro idle ids hread
      exact tracked.unread idle ids (List.mem_of_ne_of_mem (by simp) hread)
    · intro hread hid
      have standing := tracked.standing (List.mem_of_ne_of_mem (by simp) hread) hid
      exact standing_kept (.apply s o rest now metadata committed head) tracked.coherent rfl
        (fun _ => rfl) rfl standing
  | read ids' idle =>
    refine ⟨coherent, by simp, ?_, ?_⟩
    · rintro rest left
      cases left
      exact fetchOrdersByIds_nodup s.source.ids_nodup ids'
    · intro hread hid
      cases hread with
      | head => exact standing_read hid
      | tail _ hread => exact absurd hread (tracked.unread idle ids)
  | write o rest now next =>
    refine ⟨coherent, by simp, ?_, ?_⟩
    · rintro rest' left
      cases left
      exact (List.nodup_cons.mp (tracked.nodup _ next)).2
    · intro hread hid
      have standing := tracked.standing (List.mem_of_ne_of_mem (by simp) hread) hid
      by_cases same : o.id = id
      · exact standing_write_self next same (tracked.nodup _ next) standing
      · exact standing_write_other next same tracked.coherent standing

end Steps

/-- Once the repair has finished and all events are applied, a candidate's
document agrees with its row unless the repair overtook a newer version; then
it is the older row that the repair read. -/
theorem repaired_document_current_iff {history : List Move} {s : Pipeline}
    (run : Run (Pipeline.Starting partitionOf) (Pipeline.Step partitionOf) history s)
    {ids : List String} (read : Move.read ids ∈ history) (finished : s.repair = some [])
    (drained : ∀ p, s.queue p = []) {id : String} (candidate : id ∈ ids) {row : Order}
    (hrow : s.source.rows.lookup id = some row) :
    (Agrees row (s.index.lookup id) ↔ Overtaken id history = false) ∧
      (Overtaken id history = true → ∃ o now, Move.write o now ∈ history ∧
        s.index.lookup id = some (orderDocument o now none) ∧ o.version < row.version) := by
  have tracked : Tracked partitionOf ids id history s := by
    refine run.invariant (I := Tracked partitionOf ids id) ?_ ?_
    · rintro s ⟨coherent, idle⟩
      exact ⟨coherent, fun _ _ => List.not_mem_nil, by simp [idle], by simp⟩
    · intro history s m t _ tracked h
      exact step_tracked h tracked
  have quiet : pending partitionOf s.queue id = [] := by rw [pending, drained, List.filter_nil]
  cases tracked.standing read candidate with
  | held o rest left mem =>
    rw [finished] at left
    cases left
    cases mem
  | settled rest left done current kept =>
    have kept : Overtaken id history = false := by
      cases kept with
      | inl unwritten => rw [Overtaken, unwritten]; rfl
      | inr applied => rw [Overtaken, applied, Bool.not_true, Bool.and_false]
    refine ⟨iff_of_true (current quiet row hrow) kept, ?_⟩
    rw [kept]
    intro h
    cases h
  | behind o now rest left done wrote written unapplied document held =>
    obtain ⟨row', hrow', moved⟩ := held
    cases Option.some.inj (hrow.symm.trans hrow')
    have overtaken : Overtaken id history = committedAgain id history := by
      simp [Overtaken, written, unapplied]
    rw [overtaken, document]
    cases again : committedAgain id history with
    | false =>
      rw [again, if_neg Bool.false_ne_true] at moved
      subst moved
      exact ⟨iff_of_true (agrees_orderDocument.mpr ⟨rfl, rfl, rfl, rfl⟩) rfl, nofun⟩
    | true =>
      rw [again, if_pos rfl] at moved
      refine ⟨iff_of_false ?_ nofun, fun _ => ⟨o, now, wrote, rfl, moved⟩⟩
      intro agree
      exact absurd (agrees_orderDocument.mp agree).2.2.2 (ne_of_lt moved)

/-! A repair that reads, an order that is committed and indexed, and the write
of the row that was read. -/

def repricedOrder : Order := { paidOrder with version := 2, amountCents := 1200 }

def driftedPipeline : Pipeline where
  source := Table.commit ⟨∅, by simp⟩ paidOrder
  queue _ := []
  index := AList.insert "7c1d" driftedCurrency ∅
  repair := none

def repricedEvent : EventMetadata := ⟨none, some "OrderPaid", some "order-events", some 0, some 7⟩

def overtakingHistory : List Move :=
  [.write paidOrder (seconds 3), .apply repricedOrder (seconds 2) repricedEvent true,
    .commit repricedOrder, .read ["7c1d"]]

def overtakenPipeline : Pipeline where
  source := driftedPipeline.source.commit repricedOrder
  queue := Function.update (Function.update (fun _ => []) 0 [repricedOrder]) 0 []
  index := indexOrder (indexOrder driftedPipeline.index repricedOrder (seconds 2)
    (some repricedEvent)) paidOrder (seconds 3) none
  repair := some []

theorem overtaking_run : Run (Pipeline.Starting fun _ => 0) (Pipeline.Step fun _ => 0)
    overtakingHistory overtakenPipeline := by
  have read : fetchOrdersByIds driftedPipeline.source.orders ["7c1d"] = [paidOrder] := by
    decide +kernel
  have started : Pipeline.Starting (fun _ => 0) driftedPipeline := ⟨by simp [Pipeline.Coherent,
    pending, driftedPipeline], rfl⟩
  have bump : ∀ row, driftedPipeline.source.rows.lookup "7c1d" = some row → row.version < 2 := by
    decide +kernel
  exact .next (.next (.next (.next (.start started) (.read _ _ rfl)) (.commit _ repricedOrder bump))
    (.apply _ repricedOrder [] (seconds 2) repricedEvent true rfl))
    (.write _ paidOrder [] (seconds 3) (congrArg some read))

theorem overtaken_drained (p : Nat) : overtakenPipeline.queue p = [] := by
  by_cases h : p = 0 <;> simp [overtakenPipeline, h]

/-- The repair has finished, every event is applied, and the document is the old row. -/
theorem repair_loses_an_update :
    ∃ history s row, Run (Pipeline.Starting fun _ => 0) (Pipeline.Step fun _ => 0) history s ∧
      Move.read ["7c1d"] ∈ history ∧ s.repair = some [] ∧ (∀ p, s.queue p = []) ∧
      s.source.rows.lookup "7c1d" = some row ∧ ¬Agrees row (s.index.lookup "7c1d") := by
  refine ⟨overtakingHistory, overtakenPipeline, repricedOrder, overtaking_run, by simp
    [overtakingHistory], rfl, overtaken_drained, rfl, ?_⟩
  rintro ⟨d, hd, agree⟩
  have document : overtakenPipeline.index.lookup "7c1d" =
    some (orderDocument paidOrder (seconds 3) none) := rfl
  rw [document] at hd
  cases hd
  exact absurd (agree "version" (by simp [comparedOrderFields])) (by decide)

theorem repaired_document_current_iff_overtaken :
    (Agrees repricedOrder (overtakenPipeline.index.lookup "7c1d") ↔
        Overtaken "7c1d" overtakingHistory = false) ∧
      (Overtaken "7c1d" overtakingHistory = true → ∃ o now, Move.write o now ∈ overtakingHistory ∧
        overtakenPipeline.index.lookup "7c1d" = some (orderDocument o now none) ∧
        o.version < repricedOrder.version) :=
  repaired_document_current_iff (fun _ => 0) overtaking_run
    (show Move.read ["7c1d"] ∈ overtakingHistory by simp [overtakingHistory]) rfl overtaken_drained
    (by simp) rfl

end KubeDataGuard
