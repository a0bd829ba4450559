import Mathlib.Data.List.Basic
import Mathlib.Order.Lattice

/-!
# Version histories and what a reader sees of them

A history lists the versions of one object in commit order. Its state at a
time is the last version committed by then. A reader that looks at different
times sees the same version exactly as long as nothing was committed between.
-/

namespace Versions

variable {ν τ : Type*} [LinearOrder τ] (time : ν → τ)

def stateAt (h : List ν) (t : τ) : Option ν :=
  (h.filter (fun v => decide (time v ≤ t))).getLast?

def Chronological (h : List ν) : Prop := h.Pairwise (fun a b => time a ≤ time b)

theorem stateAt_some {h : List ν} {t : τ} {v : ν} (hv : stateAt time h t = some v) :
    v ∈ h ∧ time v ≤ t := by
  simpa using List.mem_of_getLast? hv

/-- Nothing committed in a window: the same state at both of its ends. -/
theorem stateAt_quiet {h : List ν} {s t : τ} (hst : s ≤ t)
    (quiet : ∀ v ∈ h, time v ≤ t → time v ≤ s) : stateAt time h s = stateAt time h t := by
  have : h.filter (fun v => decide (time v ≤ s)) = h.filter (fun v => decide (time v ≤ t)) := by
    apply List.filter_congr
    intro v hv
    simpa using ⟨fun hs => le_trans hs hst, quiet v hv⟩
  rw [stateAt, this, stateAt]

/-- The last version committed by a time is the latest of all committed by it. -/
theorem stateAt_latest {h : List ν} (hc : Chronological time h) {t : τ} {v w : ν}
    (hv : stateAt time h t = some v) (hw : w ∈ h) (ht : time w ≤ t) : time w ≤ time v := by
  obtain ⟨init, hinit⟩ := List.getLast?_eq_some_iff.mp hv
  have hp : (init ++ [v]).Pairwise (fun a b => time a ≤ time b) :=
    hinit ▸ List.Pairwise.sublist List.filter_sublist hc
  have hmem : w ∈ init ++ [v] := hinit ▸ List.mem_filter.mpr ⟨hw, by simpa using ht⟩
  rcases List.mem_append.mp hmem with hw | hw
  · exact (List.pairwise_append.mp hp).2.2 w hw v List.mem_cons_self
  · rw [List.mem_singleton.mp hw]

/-- A version that is still the state later was the state from its commit on. -/
theorem stateAt_settled {h : List ν} (hc : Chronological time h) {s t : τ} {v : ν}
    (hv : stateAt time h t = some v) (hs : time v ≤ s) (hst : s ≤ t) :
    stateAt time h s = some v := by
  rw [stateAt_quiet time hst (fun w hw ht => le_trans (stateAt_latest time hc hv hw ht) hs), hv]

/-- A commit inside a window leaves a later state that was committed inside it. -/
theorem stateAt_moved {h : List ν} (hc : Chronological time h) {s t : τ} {v : ν}
    (hv : v ∈ h) (hs : s < time v) (ht : time v ≤ t) :
    ∃ w, stateAt time h t = some w ∧ s < time w := by
  cases hw : stateAt time h t with
  | none =>
    have hnil := List.getLast?_eq_none_iff.mp hw
    have hmem : v ∈ h.filter (fun v => decide (time v ≤ t)) :=
      List.mem_filter.mpr ⟨hv, by simpa using ht⟩
    simp [hnil] at hmem
  | some w => exact ⟨w, rfl, lt_of_lt_of_le hs (stateAt_latest time hc hw hv ht)⟩

/-- Where ranks grow along a history, a later commit has the higher rank. -/
theorem rank_lt_of_time_lt {ρ : Type*} [LinearOrder ρ] {rank : ν → ρ} {h : List ν}
    (hc : Chronological time h) (hr : h.Pairwise (fun a b => rank a < rank b)) {v w : ν}
    (hv : v ∈ h) (hw : w ∈ h) (hlt : time v < time w) : rank v < rank w := by
  obtain ⟨i, hi, rfl⟩ := List.mem_iff_getElem.mp hv
  obtain ⟨j, hj, rfl⟩ := List.mem_iff_getElem.mp hw
  rcases Nat.lt_trichotomy i j with lt | rfl | gt
  · exact List.pairwise_iff_getElem.mp hr i j hi hj lt
  · exact absurd hlt (lt_irrefl _)
  · exact absurd (List.pairwise_iff_getElem.mp hc j i hj hi gt) (not_le.mpr hlt)

end Versions
