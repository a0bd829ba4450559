import Mathlib.Data.List.AList
import Mathlib.Order.Basic

/-!
# Keyed overwrites from a log

A log of values with keys, and a store that each applied value overwrites under
its key. `latest` is the last value of a key with its offset; a store `Reflects`
a prefix of the log when it holds what each key's latest value there renders to.
Applying the value at an offset gives the prefix that ends with it, whether the
store reflected the prefix before that offset or already the one after it.
-/

namespace Delivery

variable {α κ δ : Type*} [DecidableEq κ] (key : α → κ)

def latest (k : κ) (l : List α) : Option (α × Nat) :=
  (l.zipIdx.filter fun e => decide (key e.1 = k)).getLast?

variable {key}

theorem latest_concat_self (l : List α) (a : α) :
    latest key (key a) (l ++ [a]) = some (a, l.length) := by
  simp [latest, List.zipIdx_append]

theorem latest_concat_ne {k : κ} (l : List α) {a : α} (h : key a ≠ k) :
    latest key k (l ++ [a]) = latest key k l := by
  simp [latest, List.zipIdx_append, h]

theorem latest_mem {k : κ} {l : List α} {a : α} {i : Nat} (h : latest key k l = some (a, i)) :
    l[i]? = some a ∧ key a = k := by
  have mem := List.mem_filter.mp (List.mem_of_getLast? h)
  exact ⟨List.mem_zipIdx_iff_getElem?.mp mem.1, of_decide_eq_true mem.2⟩

variable (key) in
theorem latest_isSome {l : List α} {a : α} (h : a ∈ l) : ∃ e, latest key (key a) l = some e := by
  obtain ⟨i, hi⟩ := List.mem_iff_getElem?.mp h
  apply Option.isSome_iff_exists.mp
  rw [latest, List.getLast?_isSome, ne_eq, List.filter_eq_nil_iff]
  intro none_of
  exact none_of (a, i) (List.mem_zipIdx_iff_getElem?.mpr hi) (decide_eq_true rfl)

theorem latest_take_succ {k : κ} {l : List α} {a : α} {n i : Nat}
    (h : latest key k (l.take (n + 1)) = some (a, i)) :
    latest key k (l.take n) = some (a, i) ∨ i = n := by
  rw [List.take_add_one] at h
  cases found : l[n]? with
  | none =>
    rw [found, Option.toList_none, List.append_nil] at h
    exact Or.inl h
  | some b =>
    rw [found, Option.toList_some] at h
    by_cases hk : key b = k
    · subst hk
      rw [latest_concat_self] at h
      have position := (Prod.mk.inj (Option.some.inj h)).2
      have := (List.getElem?_eq_some_iff.mp found).1
      rw [List.length_take] at position
      exact Or.inr (by omega)
    · rw [latest_concat_ne _ hk] at h
      exact Or.inl h

variable (key) in
/-- The store holds the rendering of each key's latest value. -/
def Reflects (store : κ → Option δ) (renders : α → Nat → δ → Prop) (l : List α) : Prop :=
  ∀ k a i, latest key k l = some (a, i) → ∃ d, store k = some d ∧ renders a i d

variable {store store' : κ → Option δ} {renders : α → Nat → δ → Prop}

theorem Reflects.congr {l : List α} (h : Reflects key store renders l)
    (same : ∀ a ∈ l, store' (key a) = store (key a)) :
    Reflects key store' renders l := by
  intro k a i found
  obtain ⟨at_, rfl⟩ := latest_mem found
  rw [same a (List.mem_of_getElem? at_)]
  exact h _ a i found

/-- Writing a value under its key, after the values before it and again after itself. -/
theorem Reflects.write {l : List α} {n m : Nat} {a : α} {d : δ}
    (h : Reflects key store renders (l.take m)) (hm : m = n ∨ m = n + 1)
    (found : l[n]? = some a) (rendered : renders a n d) (written : store' (key a) = some d)
    (others : ∀ k, key a ≠ k → store' k = store k) :
    Reflects key store' renders (l.take (n + 1)) := by
  have extended : l.take (n + 1) = l.take n ++ [a] := by rw [List.take_add_one, found]; rfl
  have position : (l.take n).length = n := by
    rw [List.length_take]
    have := (List.getElem?_eq_some_iff.mp found).1
    omega
  intro k b i latest_k
  by_cases hk : key a = k
  · subst hk
    rw [extended, latest_concat_self, position] at latest_k
    obtain ⟨rfl, rfl⟩ := Prod.mk.inj (Option.some.inj latest_k)
    exact ⟨d, written, rendered⟩
  · rw [others k hk]
    apply h k b i
    rcases hm with rfl | rfl
    · rwa [extended, latest_concat_ne _ hk] at latest_k
    · exact latest_k

end Delivery
