import KubeDataGuard.Operator.Settled

/-!
# The slots of a schedule

A slot lasts one interval, counted from the epoch. A run is named after its
slot; whether it asks for the next pass in the following slot depends on the
time left: its nanoseconds are multiplied out in an `int64`.
-/

namespace KubeDataGuard

/-- The slot of a time. -/
def slotAt (interval now : Int) : Int := now / (interval * 1000000000)

/-- The first nanosecond of a slot. -/
def slotStart (interval slot : Int) : Int := slot * (interval * 1000000000)

section Slot

variable {interval now : Int}

theorem slotAt_iff (positive : 0 < interval) (slot : Int) :
    slotAt interval now = slot ↔
      slotStart interval slot ≤ now ∧ now < slotStart interval (slot + 1) := by
  have length : 0 < interval * 1000000000 := by omega
  have low := Int.le_ediv_iff_mul_le (a := slot) (b := now) length
  have high := Int.ediv_lt_iff_lt_mul (a := now) (b := slot + 1) length
  unfold slotAt slotStart
  rw [← low, ← high]
  omega

/-- The operator's division of whole seconds finds the slot. -/
theorem tdiv_slotAt (interval : Int) {now : Int} (clock : 0 ≤ now) :
    (unix now).tdiv interval = slotAt interval now := by
  have seconds : unix now = now / 1000000000 := Int.fdiv_eq_ediv_of_nonneg _ (by decide)
  rw [Int.tdiv_eq_ediv_of_nonneg (unix_nonneg clock), seconds,
    Int.ediv_ediv_of_nonneg (by decide), Int.mul_comm]
  rfl

/-- The second a slot ends at begins with the following slot. -/
theorem slotEnd_start (interval : Int) {now : Int} (clock : 0 ≤ now) :
    slotEnd interval now * 1000000000 = slotStart interval (slotAt interval now + 1) := by
  unfold slotEnd slotStart
  rw [tdiv_slotAt interval clock, Int.mul_assoc]

theorem currentCheckRun_slot {invariant : Unstructured}
    (read : checkInterval invariant.toResource = .ok (some interval)) (positive : 0 < interval)
    (clock : 0 ≤ now) :
    ∃ run, currentCheckRun invariant now = .ok run ∧
      run.id = slotId invariant.generation (slotAt interval now) ∧
      run.nextRequeue = requeueAt interval now := by
  refine ⟨_, currentCheckRun_runAt read now, ?_⟩
  rw [Option.getD_some, runAt, if_neg (by omega), tdiv_slotAt interval clock]
  exact ⟨rfl, rfl⟩

end Slot

/-- A run of a schedule keeps to the slots: it asks for the next pass in the following one. -/
structure KeepsSlots (invariant : Unstructured) (interval now : Int) (run : CheckRun) : Prop where
  ahead : 0 < run.nextRequeue
  within : run.nextRequeue ≤ interval * 1000000000
  following : ∃ next, currentCheckRun invariant (now + run.nextRequeue) = .ok next ∧
    next.id = slotId invariant.generation (slotAt interval now + 1) ∧
    slotAt interval (now + run.nextRequeue) = slotAt interval now + 1
  same : ∀ t, now ≤ t → t < slotStart interval (slotAt interval now + 1) →
    ∃ later, currentCheckRun invariant t = .ok later ∧ later.id = run.id
  ids : ∀ t t', 0 ≤ t → 0 ≤ t' → ∃ first second, currentCheckRun invariant t = .ok first ∧
    currentCheckRun invariant t' = .ok second ∧
    (first.id = second.id ↔ slotAt interval t = slotAt interval t')

/-- The nanoseconds from the clock's second to the end of the slot fit a `Duration`, or those of
the whole interval, which the operator falls back to, happen to wrap to a time that long. -/
def LeftFits (interval now : Int) : Prop :=
  slotStart interval (slotAt interval now + 1) - unix now * 1000000000 < 2 ^ 63 ∨
    slotStart interval (slotAt interval now + 1) - unix now * 1000000000 ≤
      wrap64 (interval * 1000000000) + now % 1000000000

theorem leftFits_iff (interval : Int) {now : Int} (clock : 0 ≤ now) : LeftFits interval now ↔
    (slotEnd interval now - unix now) * 1000000000 < 2 ^ 63 ∨
      (slotEnd interval now - unix now) * 1000000000 ≤
        durationSeconds interval + now % 1000000000 := by
  unfold LeftFits durationSeconds
  rw [← slotEnd_start interval clock, Int.sub_mul]

section Requeue

variable {interval now : Int}

theorem now_split (now : Int) : now = unix now * 1000000000 + now % 1000000000 := by
  have seconds : unix now = now / 1000000000 := Int.fdiv_eq_ediv_of_nonneg _ (by decide)
  omega

/-- One second past the range of a `Duration`, the operator falls back to the interval. -/
theorem requeueAt_falls_back (left : slotEnd interval now - unix now = 9223372037) :
    requeueAt interval now = durationSeconds interval := by
  unfold requeueAt
  simp only [left]
  exact if_pos (by decide)

/-- A requeue reaches the end of its slot exactly when the time left fits. -/
theorem requeueAt_reaches_iff (positive : 0 < interval) (clock : 0 ≤ now) :
    slotEnd interval now * 1000000000 ≤ now + requeueAt interval now ↔ LeftFits interval now := by
  have split := now_split now
  have low := durationSeconds_lt (slotEnd interval now - unix now)
  have fallback := durationSeconds_lt interval
  rw [leftFits_iff interval clock]
  by_cases fits : (slotEnd interval now - unix now) * 1000000000 < 2 ^ 63
  · rw [requeueAt_fits positive fits]
    omega
  constructor
  · intro reaches
    -- no `Duration` is longer, so what is left is one second too much
    have bound : requeueAt interval now < 2 ^ 63 := by
      unfold requeueAt
      simp only
      split <;> assumption
    have left : slotEnd interval now - unix now = 9223372037 := by omega
    rw [requeueAt_falls_back left] at reaches
    omega
  · intro reaches
    have left : slotEnd interval now - unix now = 9223372037 := by omega
    rw [requeueAt_falls_back left]
    omega

/-- Then it waits no longer than into the second after. -/
theorem requeueAt_bounds (positive : 0 < interval) (clock : 0 ≤ now) (fits : LeftFits interval now) :
    0 < requeueAt interval now ∧ requeueAt interval now ≤ interval * 1000000000 ∧
      now + requeueAt interval now < (slotEnd interval now + 1) * 1000000000 := by
  have split := now_split now
  have ahead := slot_ahead positive now
  have within := slot_within interval clock
  rw [leftFits_iff interval clock] at fits
  by_cases whole : (slotEnd interval now - unix now) * 1000000000 < 2 ^ 63
  · rw [requeueAt_fits positive whole]
    omega
  · have fallback := durationSeconds_lt interval
    have reaches := fits.resolve_left whole
    have left : slotEnd interval now - unix now = 9223372037 := by omega
    rw [requeueAt_falls_back left]
    omega

end Requeue

section Results

variable {invariant : Unstructured} {interval now : Int}

/-- Two times of a schedule are in one run exactly when they are in one slot. -/
theorem ids_iff_slots (read : checkInterval invariant.toResource = .ok (some interval))
    (positive : 0 < interval) {t t' : Int} (clock : 0 ≤ t) (clock' : 0 ≤ t') :
    ∃ first second, currentCheckRun invariant t = .ok first ∧
      currentCheckRun invariant t' = .ok second ∧
      (first.id = second.id ↔ slotAt interval t = slotAt interval t') := by
  obtain ⟨first, hfirst, id, -⟩ := currentCheckRun_slot read positive clock
  obtain ⟨second, hsecond, id', -⟩ := currentCheckRun_slot read positive clock'
  refine ⟨first, second, hfirst, hsecond, ?_⟩
  rw [id, id']
  constructor
  · intro same
    exact (slotId_injective same).2
  · intro same
    rw [same]

/-- A run keeps to the slots exactly when the time left in its own fits. -/
theorem keeps_slots_iff (read : checkInterval invariant.toResource = .ok (some interval))
    (positive : 0 < interval) (clock : 0 ≤ now) {run : CheckRun}
    (hrun : currentCheckRun invariant now = .ok run) :
    KeepsSlots invariant interval now run ↔ LeftFits interval now := by
  obtain ⟨run', hrun', id, requeue⟩ := currentCheckRun_slot read positive clock
  obtain rfl := Except.ok.inj (hrun.symm.trans hrun')
  have reaches := requeueAt_reaches_iff positive clock
  have boundary := slotEnd_start interval clock
  constructor
  · rintro ⟨-, -, ⟨next, -, -, slot⟩, -, -⟩
    rw [requeue] at slot
    have inside := ((slotAt_iff positive _).mp slot).1
    rw [← boundary] at inside
    exact reaches.mp inside
  intro fits
  obtain ⟨ahead, within, soon⟩ := requeueAt_bounds positive clock fits
  have begun := reaches.mpr fits
  have slot : slotAt interval (now + requeueAt interval now) = slotAt interval now + 1 := by
    rw [slotAt_iff positive]
    have length : slotStart interval (slotAt interval now + 1 + 1) =
        slotStart interval (slotAt interval now + 1) + interval * 1000000000 := by
      unfold slotStart
      ring
    omega
  rw [← requeue] at ahead within slot
  refine ⟨ahead, within, ?_, ?_, fun t t' => ids_iff_slots read positive⟩
  · obtain ⟨next, hnext, named, -⟩ :=
      currentCheckRun_slot read positive (show 0 ≤ now + run.nextRequeue by omega)
    rw [slot] at named
    exact ⟨next, hnext, named, slot⟩
  · intro t after before
    obtain ⟨later, hlater, named, -⟩ :=
      currentCheckRun_slot read positive (show 0 ≤ t by omega)
    have begun := ((slotAt_iff positive _).mp (rfl : slotAt interval now = _)).1
    have slot : slotAt interval t = slotAt interval now := by
      rw [slotAt_iff positive]
      omega
    exact ⟨later, hlater, by rw [named, id, slot]⟩

theorem keeps_slots_iff_minute : ∃ run,
    currentCheckRun (ordersInvariant none) 1750000000123456789 = .ok run ∧
    KeepsSlots (ordersInvariant none) 60 1750000000123456789 run := by
  have read : checkInterval (ordersInvariant none).toResource = .ok (some 60) := rfl
  have hrun := currentCheckRun_runAt read 1750000000123456789
  refine ⟨_, hrun, (keeps_slots_iff read (by decide) (by decide) hrun).mpr (Or.inl ?_)⟩
  decide

/-- A check of a slot of more than five hundred years is next run in forty-nine, in its slot. -/
theorem rare_check_repeats : ∃ run,
    checkInterval rareInvariant.toResource = .ok (some 20000000000) ∧
    currentCheckRun rareInvariant 1750000000000000000 = .ok run ∧
    slotAt 20000000000 (1750000000000000000 + run.nextRequeue) =
      slotAt 20000000000 1750000000000000000 ∧
    ¬KeepsSlots rareInvariant 20000000000 1750000000000000000 run := by
  have read : checkInterval rareInvariant.toResource = .ok (some 20000000000) := rfl
  refine ⟨rareRun, read, currentCheckRun_runAt read 1750000000000000000, by decide, ?_⟩
  rintro ⟨-, -, ⟨next, -, -, slot⟩, -, -⟩
  exact absurd slot (by decide)

end Results

end KubeDataGuard
