import Mathlib.Logic.Function.Basic
import Mathlib.Order.Lattice

/-!
# Watermarks of a keyed store

The entries of a store may hold positions, each of a group and with a rank in
it. What is read off the store is how far each group has come, and an entry is
all that is left of what was written to it: `keeps_update_iff` says which
writes take a group back.
-/

namespace Watermark

variable {ι α γ κ : Type*} [LinearOrder κ] (key : α → γ) (rank : α → κ)

/-- An entry holds a position of the group at the rank or beyond it. -/
def Reaches (held : ι → Option α) (g : γ) (m : κ) : Prop :=
  ∃ i a, held i = some a ∧ key a = g ∧ m ≤ rank a

/-- No other entry comes up to the position of this one. -/
def Sole (held : ι → Option α) (i : ι) : Prop :=
  ∃ a, held i = some a ∧ ∀ j b, j ≠ i → held j = some b → key b = key a → rank b < rank a

/-- No group is behind where it was. -/
def Keeps (before after : ι → Option α) : Prop :=
  ∀ g m, Reaches key rank before g m → Reaches key rank after g m

variable {key rank}

theorem Keeps.refl (held : ι → Option α) : Keeps key rank held held := fun _ _ h => h

theorem Keeps.trans {first second third : ι → Option α} (h : Keeps key rank first second)
    (h' : Keeps key rank second third) : Keeps key rank first third :=
  fun g m reached => h' g m (h g m reached)

/-- A position that is not the only one of its rank or beyond has another beside it. -/
theorem beside_of_not_sole {held : ι → Option α} {i : ι} (h : ¬Sole key rank held i) {a : α}
    (ha : held i = some a) :
    ∃ j b, j ≠ i ∧ held j = some b ∧ key b = key a ∧ rank a ≤ rank b := by
  by_contra none_beside
  apply h
  refine ⟨a, ha, ?_⟩
  intro j b other hb same
  apply lt_of_not_ge
  intro le
  exact none_beside ⟨j, b, other, hb, same, le⟩

/-- Writing an entry keeps every group, unless the entry was the only one at its
position and what is written is not of the same group or lies before it. -/
theorem keeps_update_iff [DecidableEq ι] {held : ι → Option α} {i : ι} {written : Option α} :
    Keeps key rank held (Function.update held i written) ↔
      (Sole key rank held i → ∃ a b, held i = some a ∧ written = some b ∧ key b = key a ∧
        rank a ≤ rank b) := by
  constructor
  · rintro keeps ⟨a, ha, others⟩
    obtain ⟨j, b, hb, same, le⟩ := keeps (key a) (rank a) ⟨i, a, ha, rfl, le_refl _⟩
    by_cases hj : j = i
    · subst hj
      rw [Function.update_self] at hb
      exact ⟨a, b, ha, hb, same, le⟩
    · rw [Function.update_of_ne hj] at hb
      exact absurd le (not_le_of_gt (others j b hj hb same))
  · rintro replaced g m ⟨j, a, ha, rfl, le⟩
    by_cases hj : j = i
    · subst hj
      by_cases sole : Sole key rank held j
      · obtain ⟨a', b, ha', hb, same, le'⟩ := replaced sole
        rw [ha] at ha'
        cases ha'
        exact ⟨j, b, by rw [Function.update_self, hb], same, le_trans le le'⟩
      · obtain ⟨j', b, other, hb, same, le'⟩ := beside_of_not_sole sole ha
        exact ⟨j', b, by rw [Function.update_of_ne other, hb], same, le_trans le le'⟩
    · exact ⟨j, a, by rw [Function.update_of_ne hj, ha], rfl, le⟩

end Watermark
