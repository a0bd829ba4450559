import Mathlib.Algebra.BigOperators.Group.List.Basic
import Mathlib.Algebra.Group.Basic
import Mathlib.Algebra.BigOperators.Group.List.Lemmas
import Mathlib.Algebra.Group.Hom.Defs
import Mathlib.Algebra.Group.Int.Defs
import Mathlib.Algebra.Order.BigOperators.Group.List
import Mathlib.Algebra.Order.Ring.Int
import Mathlib.Data.List.Dedup
import Mathlib.Data.List.Sort

/-!
# Totals by group

Sums of a function over the elements of a list that carry one key, and when
two such sums agree: `sum_eq_iff_changed` cancels the elements on which the
summed functions agree, so only the others decide.
-/

namespace Tally

variable {α β κ M : Type*}

/-- The total of `f` over the elements with key `k`. -/
def total [AddCommMonoid M] [DecidableEq κ] (key : α → κ) (f : α → M) (k : κ) (l : List α) : M :=
  ((l.filter fun a => key a = k).map f).sum

section Monoid

variable [AddCommMonoid M] [DecidableEq κ] (key : α → κ) (f : α → M)

@[simp] theorem total_nil (k : κ) : total key f k [] = 0 := rfl

theorem total_cons (k : κ) (a : α) (l : List α) :
    total key f k (a :: l) = (if key a = k then f a else 0) + total key f k l := by
  by_cases h : key a = k <;> simp [total, h]

theorem total_append (k : κ) (l l' : List α) :
    total key f k (l ++ l') = total key f k l + total key f k l' := by
  simp [total]

theorem total_absent {k : κ} {l : List α} (h : k ∉ l.map key) : total key f k l = 0 := by
  have : l.filter (fun a => key a = k) = [] :=
    List.filter_eq_nil_iff.mpr fun a ha => by
      simpa using fun hk : key a = k => h (hk ▸ List.mem_map_of_mem ha)
  rw [total, this, List.map_nil, List.sum_nil]

/-- Where no two elements share a key, a total is of one element. -/
theorem total_unique {l : List α} (nodup : (l.map key).Nodup) {a : α} (ha : a ∈ l) :
    total key f (key a) l = f a := by
  induction l with
  | nil => cases ha
  | cons b l ih =>
    obtain ⟨fresh, nodup⟩ := List.nodup_cons.mp nodup
    rw [total_cons]
    rcases List.mem_cons.mp ha with rfl | ha
    · rw [if_pos rfl, total_absent key f fresh, add_zero]
    · have other : key b ≠ key a := fun same => fresh (same ▸ List.mem_map_of_mem ha)
      rw [if_neg other, ih nodup ha, zero_add]

/-- The totals of a selection of what some elements map to, over those elements. -/
theorem sum_filterMap (g : β → Option α) (l : List β) :
    ((l.filterMap g).map f).sum = (l.map fun b => (g b).elim 0 f).sum := by
  induction l with
  | nil => rfl
  | cons b l ih => cases h : g b <;> simp [h, ih]

theorem sum_single {keys : List κ} (nodup : keys.Nodup) {k : κ} (hk : k ∈ keys) (m : M) :
    (keys.map fun j => if k = j then m else 0).sum = m := by
  induction keys with
  | nil => cases hk
  | cons j keys ih =>
    obtain ⟨fresh, nodup⟩ := List.nodup_cons.mp nodup
    rw [List.map_cons, List.sum_cons]
    by_cases h : k = j
    · subst h
      have : (keys.map fun j => if k = j then m else 0) = keys.map fun _ => 0 :=
        List.map_congr_left fun j hj => if_neg fun h : k = j => fresh (h ▸ hj)
      simp [this]
    · rw [if_neg h, zero_add, ih nodup (List.mem_of_ne_of_mem h hk)]

/-- Totals of what elements map to are totals over those elements, where the
keys go along. -/
theorem total_filterMap {g : β → Option α} {key' : β → κ} {l : List β}
    (h : ∀ b ∈ l, ∀ a, g b = some a → key a = key' b) (k : κ) :
    total key f k (l.filterMap g) = total key' (fun b => (g b).elim 0 f) k l := by
  induction l with
  | nil => rfl
  | cons b l ih =>
    have hrest := ih fun c hc => h c (List.mem_cons_of_mem b hc)
    cases hb : g b with
    | none => rw [List.filterMap_cons_none hb, total_cons, hrest, hb]; simp
    | some a =>
      rw [List.filterMap_cons_some hb, total_cons, total_cons, hrest, hb,
        h b List.mem_cons_self a hb]
      rfl

/-- The total over everything is the sum of the totals over the keys there are. -/
theorem sum_totals (l : List α) {keys : List κ} (nodup : keys.Nodup)
    (cover : ∀ a ∈ l, key a ∈ keys) :
    (keys.map fun k => total key f k l).sum = (l.map f).sum := by
  induction l with
  | nil => simp
  | cons a l ih =>
    have hrest := ih fun b hb => cover b (List.mem_cons_of_mem a hb)
    have hsingle := sum_single nodup (cover a List.mem_cons_self) (f a)
    simp only [total_cons, List.sum_map_add, hrest, hsingle, List.map_cons, List.sum_cons]

/-- The total of a key that keys are cut to is the sum of the totals of those keys. -/
theorem total_coarse {κ' : Type*} [DecidableEq κ'] (coarse : κ → κ') (l : List α) {keys : List κ}
    (nodup : keys.Nodup) (cover : ∀ a ∈ l, key a ∈ keys) (j : κ') :
    ((keys.filter fun k => coarse k = j).map fun k => total key f k l).sum =
      total (fun a => coarse (key a)) f j l := by
  have within : ∀ k ∈ keys.filter (fun k => coarse k = j), total key f k l =
      total key f k (l.filter fun a => coarse (key a) = j) := by
    intro k hk
    have hj : coarse k = j := by simpa using (List.mem_filter.mp hk).2
    rw [total, total, List.filter_filter]
    congr 2
    apply List.filter_congr
    intro a _
    by_cases h : key a = k
    · simp [h, hj]
    · simp [h]
  have covered : ∀ a ∈ l.filter (fun a => coarse (key a) = j),
      key a ∈ keys.filter fun k => coarse k = j := by
    intro a ha
    obtain ⟨ha, hj⟩ := List.mem_filter.mp ha
    exact List.mem_filter.mpr ⟨cover a ha, hj⟩
  rw [List.map_congr_left within, sum_totals key f _ (nodup.filter _) covered, total]

theorem total_map {β : Type*} (g : β → α) (k : κ) (l : List β) :
    total key f k (l.map g) = total (fun b => key (g b)) (fun b => f (g b)) k l := by
  rw [total, total, List.filter_map, List.map_map]
  rfl

theorem total_perm {l l' : List α} (h : l.Perm l') (k : κ) :
    total key f k l = total key f k l' :=
  ((h.filter _).map f).sum_eq

theorem sum_filter_add (p : α → Bool) (l : List α) :
    ((l.filter p).map f).sum + ((l.filter fun a => !p a).map f).sum = (l.map f).sum := by
  induction l with
  | nil => simp
  | cons a l ih =>
    cases h : p a
    · simp only [List.filter_cons, h, List.map_cons, List.sum_cons, ← ih, Bool.not_false,
        if_true, Bool.false_eq_true, if_false]
      exact add_left_comm _ _ _
    · simp only [List.filter_cons, h, List.map_cons, List.sum_cons, ← ih, Bool.not_true,
        if_true, Bool.false_eq_true, if_false, add_assoc]

end Monoid

/-- Two sums over one list agree exactly when they agree over the elements on
which the summed functions may differ. -/
theorem sum_eq_iff_changed [AddCommGroup M] {f g : α → M} {changed : α → Bool} {l : List α}
    (same : ∀ a ∈ l, changed a = false → f a = g a) :
    (l.map f).sum = (l.map g).sum ↔
      ((l.filter changed).map f).sum = ((l.filter changed).map g).sum := by
  have hsame : (l.filter fun a => !changed a).map f = (l.filter fun a => !changed a).map g := by
    apply List.map_congr_left
    intro a ha
    obtain ⟨ha, hc⟩ := List.mem_filter.mp ha
    exact same a ha (by simpa using hc)
  rw [← sum_filter_add f changed l, ← sum_filter_add g changed l, hsame, add_left_inj]

theorem total_eq_iff_changed [AddCommGroup M] [DecidableEq κ] (key : α → κ) {f g : α → M}
    {changed : α → Bool} {l : List α} (same : ∀ a ∈ l, changed a = false → f a = g a) (k : κ) :
    total key f k l = total key g k l ↔
      total key f k (l.filter changed) = total key g k (l.filter changed) := by
  have hcomm : (l.filter changed).filter (fun a => key a = k) =
      (l.filter fun a => key a = k).filter changed := List.filter_comm _ _ l
  rw [total, total, total, total, hcomm]
  exact sum_eq_iff_changed fun a ha => same a (List.mem_filter.mp ha).1

section TwoLists

variable [AddCommMonoid M] [DecidableEq κ] {key : α → κ} {f : α → M} {l : List α} {key' : β → κ}
  {f' : β → M} {l' : List β}

theorem covered_by_both (key : α → κ) (key' : β → κ) (l : List α) (l' : List β) :
    (l.map key ++ l'.map key').dedup.Nodup ∧
      (∀ a ∈ l, key a ∈ (l.map key ++ l'.map key').dedup) ∧
      ∀ b ∈ l', key' b ∈ (l.map key ++ l'.map key').dedup := by
  refine ⟨List.nodup_dedup _, ?_, ?_⟩
  · intro a ha
    exact List.mem_dedup.mpr (List.mem_append_left _ (List.mem_map_of_mem ha))
  · intro b hb
    exact List.mem_dedup.mpr (List.mem_append_right _ (List.mem_map_of_mem hb))

/-- Two lists whose totals agree on every key agree on every coarser key. -/
theorem totals_coarse {κ' : Type*} [DecidableEq κ'] (coarse : κ → κ')
    (h : ∀ k, total key f k l = total key' f' k l') (j : κ') :
    total (fun a => coarse (key a)) f j l = total (fun b => coarse (key' b)) f' j l' := by
  obtain ⟨nodup, cover, cover'⟩ := covered_by_both key key' l l'
  rw [← total_coarse key f coarse l nodup cover, ← total_coarse key' f' coarse l' nodup cover']
  simp only [h]

/-- Two lists whose totals agree on every key agree over everything. -/
theorem sums_of_totals (h : ∀ k, total key f k l = total key' f' k l') :
    (l.map f).sum = (l'.map f').sum := by
  obtain ⟨nodup, cover, cover'⟩ := covered_by_both key key' l l'
  rw [← sum_totals key f l nodup cover, ← sum_totals key' f' l' nodup cover']
  simp only [h]

end TwoLists

/-- Summands that are smaller each and as large together are equal. -/
theorem eq_of_sum_eq {f g : α → Int} {l : List α} (le : ∀ a ∈ l, f a ≤ g a)
    (h : (l.map f).sum = (l.map g).sum) : ∀ a ∈ l, f a = g a := by
  induction l with
  | nil =>
    intro a ha
    cases ha
  | cons b l ih =>
    have hle : ∀ a ∈ l, f a ≤ g a := fun a ha => le a (List.mem_cons_of_mem b ha)
    have hb := le b List.mem_cons_self
    have hl : (l.map f).sum ≤ (l.map g).sum := List.sum_le_sum hle
    rw [List.map_cons, List.map_cons, List.sum_cons, List.sum_cons] at h
    intro a ha
    cases ha with
    | head => omega
    | tail _ ha => exact ih hle (by omega) a ha

/-! ## Totals of a size

A total is cut where one side leaves a key out. Sizes tell whether that matters:
an element of size zero adds nothing. -/

section Sizes

variable [AddCommMonoid M] [DecidableEq κ] {key : α → κ} {g : α → M} {l : List α} (size : M →+ Int)

theorem size_eq_zero (nonneg : ∀ a ∈ l, 0 ≤ size (g a)) (h : size (l.map g).sum = 0) :
    ∀ a ∈ l, size (g a) = 0 := by
  intro a ha
  rw [map_list_sum, List.map_map] at h
  have hsum : (l.map fun _ => (0 : Int)).sum = (l.map (size ∘ g)).sum := by
    rw [h]
    simp
  exact (eq_of_sum_eq nonneg hsum a ha).symm

theorem size_total_nonneg (nonneg : ∀ a ∈ l, 0 ≤ size (g a)) (k : κ) :
    0 ≤ size (total key g k l) := by
  rw [total, map_list_sum, List.map_map]
  apply List.sum_nonneg
  intro m hm
  obtain ⟨a, ha, rfl⟩ := List.mem_map.mp hm
  exact nonneg a (List.mem_filter.mp ha).1

theorem total_eq_zero_of_size (nonneg : ∀ a ∈ l, 0 ≤ size (g a))
    (zero : ∀ a ∈ l, size (g a) = 0 → g a = 0) {k : κ} (h : size (total key g k l) = 0) :
    total key g k l = 0 := by
  have hsub : ∀ a ∈ l.filter (fun a => key a = k), a ∈ l := fun a ha => (List.mem_filter.mp ha).1
  have none := size_eq_zero size (fun a ha => nonneg a (hsub a ha)) h
  rw [total]
  apply List.sum_eq_zero
  intro m hm
  obtain ⟨a, ha, rfl⟩ := List.mem_map.mp hm
  exact zero a (hsub a ha) (none a ha)

/-- The size of everything is at least the number of keys that have any. -/
theorem length_le_size {f : α → M} (nonneg : ∀ a ∈ l, 0 ≤ size (f a)) {keys : List κ}
    (nodup : keys.Nodup) (each : ∀ k ∈ keys, 1 ≤ size (total key f k l)) :
    (keys.length : Int) ≤ size (l.map f).sum := by
  have within : ∀ k ∈ keys, total key f k (l.filter fun a => key a ∈ keys) = total key f k l := by
    intro k hk
    rw [total, total, List.filter_filter]
    congr 2
    apply List.filter_congr
    intro a _
    by_cases h : key a = k
    · simp [h, hk]
    · simp [h]
  have covered : ∀ a ∈ l.filter (fun a => key a ∈ keys), key a ∈ keys := by
    intro a ha
    simpa using (List.mem_filter.mp ha).2
  have rest : 0 ≤ size ((l.filter fun a => !decide (key a ∈ keys)).map f).sum := by
    rw [map_list_sum, List.map_map]
    apply List.sum_nonneg
    intro m hm
    obtain ⟨a, ha, rfl⟩ := List.mem_map.mp hm
    exact nonneg a (List.mem_filter.mp ha).1
  have ones : (keys.map fun _ => (1 : Int)).sum ≤
      (keys.map fun k => size (total key f k l)).sum := List.sum_le_sum each
  have split := congrArg size (sum_filter_add f (fun a => decide (key a ∈ keys)) l)
  rw [map_add, ← sum_totals key f _ nodup covered, List.map_congr_left within, map_list_sum,
    List.map_map] at split
  rw [List.map_const', List.sum_replicate, nsmul_eq_mul, mul_one] at ones
  calc (keys.length : Int) ≤ (keys.map fun k => size (total key f k l)).sum := ones
    _ ≤ (keys.map fun k => size (total key f k l)).sum +
        size ((l.filter fun a => !decide (key a ∈ keys)).map f).sum := by omega
    _ = size (l.map f).sum := split

/-- Totals cut on one side, and sums over everything of one size: they agree
exactly when nothing was cut and the totals agree. -/
theorem cut_totals_iff (key : α → κ) (f : α → M) (reported : κ → Prop) [DecidablePred reported]
    (nonneg : ∀ a ∈ l, 0 ≤ size (g a)) (zero : ∀ a ∈ l, size (g a) = 0 → g a = 0) :
    (size (l.map f).sum = size (l.map g).sum ∧
      ∀ k, total key f k l = if reported k then total key g k l else 0) ↔
    (∀ k, total key g k l ≠ 0 → reported k) ∧ ∀ k, total key f k l = total key g k l := by
  constructor
  · rintro ⟨sizes, cut⟩
    have cover : ∀ a ∈ l, key a ∈ (l.map key).dedup := fun a ha =>
      List.mem_dedup.mpr (List.mem_map_of_mem ha)
    have nodup := List.nodup_dedup (l.map key)
    rw [← sum_totals key f l nodup cover, ← sum_totals key g l nodup cover, map_list_sum,
      map_list_sum, List.map_map, List.map_map] at sizes
    have le : ∀ k ∈ (l.map key).dedup, (size ∘ fun k => total key f k l) k ≤
        (size ∘ fun k => total key g k l) k := by
      intro k _
      simp only [Function.comp_apply, cut k]
      split
      · exact le_refl _
      · rw [map_zero]
        exact size_total_nonneg size nonneg k
    have sizeEq := eq_of_sum_eq le sizes
    have all : ∀ k, total key g k l ≠ 0 → reported k := by
      intro k hk
      by_contra unreported
      have present : k ∈ (l.map key).dedup := by
        by_contra absent
        exact hk (total_absent key g fun h => absent (List.mem_dedup.mpr h))
      have hsize := sizeEq k present
      simp only [Function.comp_apply, cut k, if_neg unreported, map_zero] at hsize
      exact hk (total_eq_zero_of_size size nonneg zero hsize.symm)
    refine ⟨all, ?_⟩
    intro k
    rw [cut k]
    split
    · rfl
    · rename_i unreported
      by_contra hk
      exact unreported (all k (Ne.symm hk))
  · rintro ⟨all, agree⟩
    refine ⟨congrArg size (sums_of_totals agree), ?_⟩
    intro k
    rw [agree k]
    split
    · rfl
    · rename_i unreported
      by_contra hk
      exact unreported (all k hk)

end Sizes

/-! ## The largest groups -/

section Largest

variable [LinearOrder κ] {size : Nat} {key : α → κ} {l : List α}

/-- The elements by key: at most `size` groups, the largest first, and groups of
one length in the order of their keys. -/
def largest (size : Nat) (key : α → κ) (l : List α) : List (κ × List α) :=
  (((l.map key).dedup.map fun k => (k, l.filter fun a => key a = k)).insertionSort fun g g' =>
    g'.2.length < g.2.length ∨ g.2.length = g'.2.length ∧ g.1 ≤ g'.1).take size

theorem mem_largest {k : κ} {group : List α} :
    (k, group) ∈ largest size key l ↔
      k ∈ (largest size key l).map Prod.fst ∧ group = l.filter fun a => key a = k := by
  have whole : ∀ g ∈ largest size key l, g.2 = l.filter fun a => key a = g.1 := by
    intro g hg
    have grouped := (List.perm_insertionSort _ _).subset (List.mem_of_mem_take hg)
    obtain ⟨k', -, rfl⟩ := List.mem_map.mp grouped
    rfl
  constructor
  · intro h
    exact ⟨List.mem_map_of_mem h, whole _ h⟩
  · rintro ⟨h, rfl⟩
    obtain ⟨g, hg, rfl⟩ := List.mem_map.mp h
    rw [← whole g hg]
    exact hg

theorem largest_nodup (size : Nat) (key : α → κ) (l : List α) :
    ((largest size key l).map Prod.fst).Nodup := by
  have all := ((List.perm_insertionSort
    (fun g g' : κ × List α => g'.2.length < g.2.length ∨ g.2.length = g'.2.length ∧ g.1 ≤ g'.1)
    ((l.map key).dedup.map fun k => (k, l.filter fun a => key a = k))).map Prod.fst)
  rw [List.map_map, show (Prod.fst ∘ fun k => (k, l.filter fun a => key a = k)) = id from rfl,
    List.map_id] at all
  exact (all.nodup_iff.mpr (List.nodup_dedup _)).sublist ((List.take_sublist _ _).map Prod.fst)

/-- Every element has its group where there are no more groups than `size`, and
only there. -/
theorem few_iff_largest : (l.map key).dedup.length ≤ size ↔
    ∀ a ∈ l, key a ∈ (largest size key l).map Prod.fst := by
  constructor
  · intro few a ha
    unfold largest
    rw [List.take_of_length_le]
    · have grouped : (key a, l.filter fun b => key b = key a) ∈
          (l.map key).dedup.map fun k => (k, l.filter fun b => key b = k) :=
        List.mem_map_of_mem (List.mem_dedup.mpr (List.mem_map_of_mem ha))
      exact List.mem_map_of_mem ((List.mem_insertionSort _).mpr grouped)
    · rw [List.length_insertionSort, List.length_map]
      exact few
  · intro all
    have sub : (l.map key).dedup ⊆ (largest size key l).map Prod.fst := by
      intro k hk
      obtain ⟨a, ha, rfl⟩ := List.mem_map.mp (List.mem_dedup.mp hk)
      exact all a ha
    have le := (List.subperm_of_subset (List.nodup_dedup _) sub).length_le
    rw [List.length_map, largest, List.length_take] at le
    omega

end Largest

end Tally
