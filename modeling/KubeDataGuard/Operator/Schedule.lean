import Mathlib.Data.Int.Basic
import KubeDataGuard.General.Texts
import KubeDataGuard.Operator.Objects

/-!
# Check runs

The run an Invariant is in: one per generation, or one per interval slot of the
clock. Times of the operator count nanoseconds from the epoch.
-/

namespace KubeDataGuard

/-- `Unix()` -/
def unix (now : Int) : Int := now.fdiv 1000000000

/-- `time.Duration(n) * time.Second` -/
def durationSeconds (n : Int) : Int := wrap64 (n * 1000000000)

structure CheckRun where
  id : String
  intervalSeconds : Int := 0
  nextRequeue : Int := 0
  scheduled : Bool := false
  deriving DecidableEq, Repr

def generationId (generation : Int) : String := "g" ++ toString generation

def slotId (generation slot : Int) : String := "g" ++ toString generation ++ "-t" ++ toString slot

def currentCheckRun (invariant : Unstructured) (now : Int) : Except Error CheckRun :=
  match readError "spec.checkIntervalSeconds"
      (nestedInt64 invariant.object ["spec", "checkIntervalSeconds"]) with
  | .error e => .error e
  | .ok interval =>
    let intervalSeconds := interval.getD 0
    if intervalSeconds ≤ 0 then .ok { id := generationId invariant.generation }
    else
      let slot := (unix now).tdiv intervalSeconds
      let nextUnix := wrap64 ((slot + 1) * intervalSeconds)
      let next := durationSeconds (wrap64 (nextUnix - unix now))
      .ok
        { id := slotId invariant.generation slot
          intervalSeconds := intervalSeconds
          nextRequeue := if next ≤ 0 then durationSeconds intervalSeconds else next
          scheduled := true }

/-- The id of the run at a time: that of its slot, or of the generation if there is no schedule. -/
def runId (generation interval now : Int) : String :=
  if interval ≤ 0 then generationId generation
  else slotId generation ((unix now).tdiv interval)

/-- The interval a run is read from; a spec that does not change keeps it. -/
def checkInterval (r : Resource) : Except Error (Option Int) :=
  nestedInt64 r.object ["spec", "checkIntervalSeconds"]

theorem currentCheckRun_ok {invariant : Unstructured} {interval : Option Int}
    (h : checkInterval invariant.toResource = .ok interval) (now : Int) :
    ∃ run, currentCheckRun invariant now = .ok run ∧
      run.id = runId invariant.generation (interval.getD 0) now := by
  unfold checkInterval at h
  unfold currentCheckRun runId
  rw [h]
  simp only [readError]
  split
  · exact ⟨_, rfl, rfl⟩
  · exact ⟨_, rfl, rfl⟩

theorem currentCheckRun_id {invariant : Unstructured} {now : Int} {run : CheckRun}
    (h : currentCheckRun invariant now = .ok run) :
    ∃ interval, checkInterval invariant.toResource = .ok interval ∧
      run.id = runId invariant.generation (interval.getD 0) now := by
  cases hread : checkInterval invariant.toResource with
  | error e =>
    unfold checkInterval at hread
    unfold currentCheckRun at h
    rw [hread] at h
    cases h
  | ok interval =>
    obtain ⟨run', hrun, id⟩ := currentCheckRun_ok hread now
    rw [h] at hrun
    rw [Except.ok.inj hrun]
    exact ⟨interval, rfl, id⟩

/-! ## Run ids -/

theorem generationId_chars (g : Int) : (generationId g).toList = 'g' :: (toString g).toList := by
  simp [generationId, String.toList_append]

theorem slotId_chars (g slot : Int) :
    (slotId g slot).toList = ('g' :: (toString g).toList ++ ['-']) ++ 't' :: (toString slot).toList := by
  simp [slotId, String.toList_append]

theorem no_slot_mark (g : Int) (rest : List Char) (h : 't' ∉ rest) :
    't' ∉ 'g' :: (toString g).toList ++ rest := by
  have text : 't' ∉ (toString g).toList := Texts.not_mem_int_text (by decide) (by decide)
  intro mem
  obtain same | mem := List.mem_cons.mp mem
  · exact absurd same (by decide)
  · exact (List.mem_append.mp mem).elim text h

theorem generationId_injective {g g' : Int} (h : generationId g = generationId g') : g = g' := by
  have chars := congrArg String.toList h
  rw [generationId_chars, generationId_chars] at chars
  exact Texts.int_text_injective (String.toList_inj.mp (List.cons.inj chars).2)

theorem slotId_injective {g g' slot slot' : Int} (h : slotId g slot = slotId g' slot') :
    g = g' ∧ slot = slot' := by
  have chars := congrArg String.toList h
  rw [slotId_chars, slotId_chars] at chars
  obtain ⟨generation, slots⟩ := Texts.split_unique (no_slot_mark g ['-'] (by decide))
    (no_slot_mark g' ['-'] (by decide)) chars
  have text := List.append_cancel_right (List.cons.inj generation).2
  exact ⟨Texts.int_text_injective (String.toList_inj.mp text),
    Texts.int_text_injective (String.toList_inj.mp slots)⟩

theorem slotId_ne_generationId (g g' slot : Int) : slotId g slot ≠ generationId g' := by
  intro h
  have chars := congrArg String.toList h
  rw [slotId_chars, generationId_chars] at chars
  have free := no_slot_mark g' [] (by decide)
  rw [List.append_nil] at free
  exact Texts.split_absent free chars

theorem runId_generation {g g' interval interval' now now' : Int}
    (h : runId g interval now = runId g' interval' now') : g = g' := by
  unfold runId at h
  split at h <;> split at h
  · exact generationId_injective h
  · exact absurd h.symm (slotId_ne_generationId _ _ _)
  · exact absurd h (slotId_ne_generationId _ _ _)
  · exact (slotId_injective h).1

theorem unix_mono {now now' : Int} (h : now ≤ now') : unix now ≤ unix now' := by
  unfold unix
  rw [Int.fdiv_eq_ediv_of_nonneg _ (by decide), Int.fdiv_eq_ediv_of_nonneg _ (by decide)]
  exact Int.ediv_le_ediv (by decide) h

/-- A run that is over does not come back while the spec stays as it is. -/
theorem runId_past {g interval t₀ t₁ t₂ : Int} (h₀₁ : t₀ ≤ t₁) (h₁₂ : t₁ ≤ t₂)
    (ended : runId g interval t₁ ≠ runId g interval t₀) :
    runId g interval t₂ ≠ runId g interval t₀ := by
  intro again
  unfold runId at ended again
  split at ended
  · exact ended rfl
  · rename_i scheduled
    rw [if_neg scheduled, if_neg scheduled] at again
    have slots := (slotId_injective again).2
    have positive : 0 < interval := not_le.mp scheduled
    have h1 := Int.tdiv_le_tdiv positive (unix_mono h₀₁)
    have h2 := Int.tdiv_le_tdiv positive (unix_mono h₁₂)
    exact ended (by rw [show (unix t₁).tdiv interval = (unix t₀).tdiv interval by omega])

theorem runId_ne_empty (g interval now : Int) : runId g interval now ≠ "" := by
  unfold runId generationId slotId
  split <;> simp [String.append_eq_empty_iff]

theorem currentCheckRun_ne_empty {invariant : Unstructured} {now : Int} {run : CheckRun}
    (h : currentCheckRun invariant now = .ok run) : run.id ≠ "" := by
  obtain ⟨interval, -, id⟩ := currentCheckRun_id h
  rw [id]
  exact runId_ne_empty _ _ _

/-- `RequeueAfter` of a reconcile, in nanoseconds; none asks for no requeue. -/
abbrev Requeue := Option Int

def requeueForRun (run : CheckRun) : Requeue :=
  if run.scheduled then some run.nextRequeue else none

def enrichScheduledStatus (status : Fields) (now : Int) (run : CheckRun) : Fields :=
  let status := if run.id = "" then status else status.set "checkID" (.str run.id)
  if run.scheduled then
    (status.set "checkIntervalSeconds" (.int run.intervalSeconds)).set "nextCheckAfter"
      (.str (rfc3339 (unix (now + run.nextRequeue))))
  else status

theorem get?_enrichScheduledStatus (status : Fields) (now : Int) (run : CheckRun) {key : String}
    (other : key ∉ ["checkID", "checkIntervalSeconds", "nextCheckAfter"]) :
    (enrichScheduledStatus status now run).get? key = status.get? key := by
  simp only [List.mem_cons, List.not_mem_nil, or_false, not_or] at other
  obtain ⟨checkId, interval, next⟩ := other
  have checked : Fields.get? (if run.id = "" then status else status.set "checkID" (.str run.id)) key =
      status.get? key := by
    split
    · rfl
    · exact Fields.get?_set_ne _ _ checkId
  simp only [enrichScheduledStatus]
  split
  · rw [Fields.get?_set_ne _ _ next, Fields.get?_set_ne _ _ interval, checked]
  · exact checked

end KubeDataGuard
