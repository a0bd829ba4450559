import Mathlib.Data.List.Sort
import Mathlib.Data.List.Perm.Basic
import Mathlib.Order.Defs.LinearOrder

/-!
# Keyset paging

Reading an ordered list page by page, where every page is the first `n`
elements whose key lies strictly after the last key of the page before.
`paged_eq_iff` says when nothing is skipped: exactly when no page boundary
falls inside a group of equal keys.
-/

namespace Keyset

variable {α κ : Type*} (key : α → κ)

/-- No page boundary of size `n` falls inside a group of equal keys. -/
def Unbroken (n : Nat) (l : List α) : Prop :=
  ∀ i, 0 < i → ∀ a b, l[i * n - 1]? = some a → l[i * n]? = some b → key a ≠ key b

theorem unbroken_short {n : Nat} {l : List α} (h : l.length ≤ n) : Unbroken key n l := by
  intro i hi a b _ hb
  have hlt := (List.getElem?_eq_some_iff.mp hb).1
  have hle : n ≤ i * n := Nat.le_mul_of_pos_left n hi
  omega

/-- Distinct keys leave no group to break. -/
theorem unbroken_of_nodup {n : Nat} (hn : 0 < n) {l : List α} (distinct : (l.map key).Nodup) :
    Unbroken key n l := by
  intro i hi a b ha hb same
  have hle : n ≤ i * n := Nat.le_mul_of_pos_left n hi
  have hlt := (List.getElem?_eq_some_iff.mp hb).1
  have position : i * n - 1 = i * n := by
    apply (List.getElem?_inj (by rw [List.length_map]; omega) distinct).mp
    rw [List.getElem?_map, List.getElem?_map, ha, hb, Option.map_some, Option.map_some, same]
  omega

theorem unbroken_drop {n : Nat} (hn : 0 < n) (l : List α) :
    Unbroken key n l ↔
      (∀ a b, l[n - 1]? = some a → l[n]? = some b → key a ≠ key b) ∧
        Unbroken key n (l.drop n) := by
  constructor
  · intro h
    refine ⟨fun a b ha hb => h 1 Nat.one_pos a b (by simpa using ha) (by simpa using hb), ?_⟩
    intro i hi a b ha hb
    have hle : n ≤ i * n := Nat.le_mul_of_pos_left n hi
    rw [List.getElem?_drop] at ha hb
    refine h (i + 1) (by omega) a b ?_ ?_
    · rw [← ha, show (i + 1) * n - 1 = n + (i * n - 1) by rw [Nat.succ_mul]; omega]
    · rw [← hb, Nat.succ_mul, Nat.add_comm]
  · rintro ⟨first, rest⟩ i hi a b ha hb
    obtain ⟨j, rfl⟩ : ∃ j, i = j + 1 := ⟨i - 1, by omega⟩
    rcases Nat.eq_zero_or_pos j with rfl | hj
    · exact first a b (by simpa using ha) (by simpa using hb)
    · have hle : n ≤ j * n := Nat.le_mul_of_pos_left n hj
      refine rest j hj a b ?_ ?_
      · rw [List.getElem?_drop, ← ha, show (j + 1) * n - 1 = n + (j * n - 1) by
          rw [Nat.succ_mul]; omega]
      · rw [List.getElem?_drop, ← hb, Nat.succ_mul, Nat.add_comm]

variable [LinearOrder κ]

def after (l : List α) (k : κ) : List α := l.filter (fun a => decide (k < key a))

def Ascending (l : List α) : Prop := l.Pairwise (fun a b => key a ≤ key b)

theorem mem_after {l : List α} {k : κ} {a : α} : a ∈ after key l k ↔ a ∈ l ∧ k < key a := by
  simp [after]

theorem after_sublist (l : List α) (k : κ) : (after key l k).Sublist l := List.filter_sublist

theorem after_ascending {l : List α} (h : Ascending key l) (k : κ) :
    Ascending key (after key l k) :=
  List.Pairwise.sublist (after_sublist key l k) h

theorem after_after (l : List α) {j k : κ} (h : j ≤ k) :
    after key (after key l j) k = after key l k := by
  simp only [after, List.filter_filter]
  apply List.filter_congr
  intro a _
  by_cases hk : k < key a
  · simp [hk, lt_of_le_of_lt h hk]
  · simp [hk]

theorem after_append_left {pre suf : List α} {k : κ} (h : ∀ a ∈ pre, key a ≤ k) :
    after key (pre ++ suf) k = after key suf k := by
  have hp : pre.filter (fun a => decide (k < key a)) = [] :=
    List.filter_eq_nil_iff.mpr fun a ha => by simpa using h a ha
  rw [after, List.filter_append, hp, List.nil_append, after]

theorem after_eq_self {l : List α} {k : κ} (h : ∀ a ∈ l, k < key a) : after key l k = l :=
  List.filter_eq_self.mpr fun a ha => by simpa using h a ha

theorem after_length_lt {l : List α} {k : κ} {a : α} (ha : a ∈ l) (h : key a ≤ k) :
    (after key l k).length < l.length :=
  List.length_filter_lt_length_iff_exists.mpr ⟨a, ha, by simpa using h⟩

/-- With distinct ascending keys, what lies after the last element of a prefix is the rest. -/
theorem after_prefix {pre suf : List α} (h : (pre ++ suf).Pairwise fun a b => key a < key b)
    {last : α} (hlast : pre.getLast? = some last) :
    after key (pre ++ suf) (key last) = suf := by
  obtain ⟨init, rfl⟩ := List.getLast?_eq_some_iff.mp hlast
  obtain ⟨hpre, -, cross⟩ := List.pairwise_append.mp h
  rw [after_append_left]
  · exact after_eq_self key fun b hb => cross last (by simp) b hb
  · intro a ha
    rcases List.mem_append.mp ha with hinit | hlast
    · exact le_of_lt ((List.pairwise_append.mp hpre).2.2 a hinit last (by simp))
    · rw [List.mem_singleton.mp hlast]

/-- Every element of a page is at most its last, and every later element at least. -/
theorem Ascending.split {l : List α} (h : Ascending key l) {n : Nat} (hn : 0 < n)
    (hl : n ≤ l.length) :
    (∀ a ∈ l.take n, key a ≤ key l[n - 1]) ∧ ∀ b ∈ l.drop n, key l[n - 1] ≤ key b := by
  constructor
  · intro a ha
    obtain ⟨i, hi, rfl⟩ := List.mem_iff_getElem.mp ha
    simp only [List.length_take] at hi
    rw [List.getElem_take]
    rcases Nat.lt_or_eq_of_le (show i ≤ n - 1 by omega) with lt | eq
    · exact List.pairwise_iff_getElem.mp h i (n - 1) (by omega) (by omega) lt
    · simp [eq]
  · intro b hb
    obtain ⟨i, hi, rfl⟩ := List.mem_iff_getElem.mp hb
    simp only [List.length_drop] at hi
    rw [List.getElem_drop]
    exact List.pairwise_iff_getElem.mp h (n - 1) (n + i) (by omega) (by omega) (by omega)

/-- The elements the pages of size `n` hold, up to the first page that is short. -/
def paged (n : Nat) (hn : 0 < n) (l : List α) : List α :=
  if h : l.length < n then l
  else l.take n ++ paged n hn (after key l (key l[n - 1]))
termination_by l.length
decreasing_by
  exact after_length_lt key (List.getElem_mem _) le_rfl

theorem paged_short {n : Nat} (hn : 0 < n) {l : List α} (h : l.length < n) :
    paged key n hn l = l := by
  rw [paged, dif_pos h]

theorem paged_step {n : Nat} (hn : 0 < n) {l : List α} (h : n ≤ l.length) :
    paged key n hn l = l.take n ++ paged key n hn (after key l (key l[n - 1])) := by
  rw [paged, dif_neg (by omega)]

/-- A full page, and then the pages of what lies after it. -/
theorem paged_full {n : Nat} (hn : 0 < n) {l : List α} (h : n ≤ l.length)
    (hs : Ascending key l) :
    paged key n hn l =
      l.take n ++ paged key n hn (after key (l.drop n) (key l[n - 1])) := by
  have hafter : after key (l.take n ++ l.drop n) (key l[n - 1]) =
      after key (l.drop n) (key l[n - 1]) := after_append_left key (hs.split key hn h).1
  rw [List.take_append_drop] at hafter
  rw [paged_step key hn h, hafter]

theorem paged_sublist {n : Nat} (hn : 0 < n) (l : List α) (hs : Ascending key l) :
    (paged key n hn l).Sublist l := by
  induction hk : l.length using Nat.strongRecOn generalizing l with
  | ind k ih =>
    by_cases h : l.length < n
    · rw [paged_short key hn h]
    · have hl : n ≤ l.length := by omega
      rw [paged_full key hn hl hs]
      have hd : Ascending key (l.drop n) := List.Pairwise.sublist (List.drop_sublist n l) hs
      have hsub := after_sublist key (l.drop n) (key l[n - 1])
      have hlen := hsub.length_le
      rw [List.length_drop] at hlen
      have hrest := (ih _ (by omega) _ (after_ascending key hd _) rfl).trans hsub
      simpa only [List.take_append_drop] using (List.Sublist.refl (l.take n)).append hrest

/-- What follows a position is not below the element there. -/
theorem Ascending.le_of_drop {n : Nat} {l : List α} (hd : Ascending key (l.drop n)) {b : α}
    (hb : l[n]? = some b) : ∀ a ∈ l.drop n, key b ≤ key a := by
  intro a ha
  obtain ⟨hlt, hget⟩ := List.getElem?_eq_some_iff.mp hb
  rw [List.drop_eq_getElem_cons hlt, hget] at ha hd
  rcases List.mem_cons.mp ha with rfl | ha
  · exact le_rfl
  · exact (List.pairwise_cons.mp hd).1 a ha

/-- Paging returns every element exactly when no boundary breaks a group. -/
theorem paged_eq_iff {n : Nat} (hn : 0 < n) (l : List α) (hs : Ascending key l) :
    paged key n hn l = l ↔ Unbroken key n l := by
  induction hk : l.length using Nat.strongRecOn generalizing l with
  | ind k ih =>
    by_cases h : l.length < n
    · exact iff_of_true (paged_short key hn h) (unbroken_short key (by omega))
    have hl : n ≤ l.length := by omega
    have hd : Ascending key (l.drop n) := List.Pairwise.sublist (List.drop_sublist n l) hs
    have hlast : l[n - 1]? = some l[n - 1] := List.getElem?_eq_getElem (by omega)
    rw [paged_full key hn hl hs, unbroken_drop key hn]
    cases hb : l[n]? with
    | none =>
      have hnil : l.drop n = [] := List.drop_eq_nil_iff.mpr (List.getElem?_eq_none_iff.mp hb)
      have ht : l.take n = l := List.take_of_length_le (List.getElem?_eq_none_iff.mp hb)
      rw [hnil, ht]
      refine iff_of_true ?_ ⟨by simp, unbroken_short key (Nat.zero_le n)⟩
      rw [after, List.filter_nil, paged_short key hn (by simpa using hn), List.append_nil]
    | some b =>
      have hlt : n < l.length := (List.getElem?_eq_some_iff.mp hb).1
      have hmem : b ∈ l.drop n := by
        apply List.mem_of_getElem? (i := 0)
        rw [List.getElem?_drop, Nat.add_zero, hb]
      by_cases heq : key l[n - 1] = key b
      · -- the group of `b` is broken: the next page starts after `b`
        refine iff_of_false ?_ (fun hu => hu.1 _ _ hlast rfl heq)
        intro hp
        have hlen := after_length_lt key hmem (k := key l[n - 1]) (le_of_eq heq.symm)
        have hsub := (paged_sublist key hn _ (after_ascending key hd (key l[n - 1]))).length_le
        have := congrArg List.length hp
        simp only [List.length_append, List.length_take, List.length_drop] at this hlen
        omega
      · have hfirst : ∀ a ∈ l.drop n, key l[n - 1] < key a := by
          intro a ha
          have hbefore := lt_of_le_of_ne ((hs.split key hn hl).2 b hmem) heq
          exact lt_of_lt_of_le hbefore (hd.le_of_drop key hb a ha)
        rw [after_eq_self key hfirst]
        have hih := ih (l.drop n).length (by rw [List.length_drop]; omega) (l.drop n) hd rfl
        constructor
        · intro hp
          refine ⟨fun a c ha hc => ?_, hih.mp ?_⟩
          · rw [hlast] at ha
            cases ha
            cases hc
            exact heq
          · exact List.append_cancel_left (hp.trans (List.take_append_drop n l).symm)
        · intro hu
          rw [hih.mpr hu.2, List.take_append_drop]

theorem paged_perm_iff {n : Nat} (hn : 0 < n) (l : List α) (hs : Ascending key l) :
    (paged key n hn l).Perm l ↔ Unbroken key n l := by
  rw [← paged_eq_iff key hn l hs]
  exact ⟨fun h => (paged_sublist key hn l hs).eq_of_length h.length_eq, fun h => by rw [h]⟩

end Keyset
