import Mathlib.Data.List.Sort

/-!
# Keeping the newest

A store that is trimmed after every push: to its newest entries, if a number is
set, and then to those that are not too old for the push. As lists, newest first.

* `newestFirst_eq`: entries with different times have one order, newest first;
* `remaining_eq`: if what is too old stays so and what is older is too old as well,
  then what remains is read off all pushes at once, at the last one;
* `flatMap_limit`: the same limits for entries kept as several parts each.
-/

namespace Retention

variable {α : Type*}

theorem newestFirst_eq {β : Type*} [LinearOrder β] (time : α → β) {l l' : List α} (same : l'.Perm l)
    (ordered : l.Pairwise fun a b => time b < time a) :
    l'.insertionSort (fun a b => time b ≤ time a) = l := by
  have total : Std.Total fun a b : α => time b ≤ time a := ⟨fun a b => le_total _ _⟩
  have trans : IsTrans α fun a b => time b ≤ time a := ⟨fun _ _ _ h h' => le_trans h' h⟩
  have once : (l.map time).Nodup := List.pairwise_map.mpr (ordered.imp fun later => later.ne')
  refine List.Perm.eq_of_pairwise ?_ (List.pairwise_insertionSort _ l')
    (ordered.imp fun later => later.le) ((List.perm_insertionSort _ l').trans same)
  intro a b ha hb before after
  exact List.inj_on_of_nodup_map once (same.subset ((List.mem_insertionSort _).mp ha)) hb
    (le_antisymm after before)

/-- The newest `count`, where zero sets no limit. -/
def limit (count : Nat) (l : List α) : List α := if count = 0 then l else l.take count

/-- What a store holds after the pushes: `old a b` says that `b` is too old for the push `a`. -/
def remaining (count : Nat) (old : α → α → Bool) : List α → List α
  | [] => []
  | a :: pushes => (limit count (a :: remaining count old pushes)).filter fun b => !old a b

theorem remaining_sublist (count : Nat) (old : α → α → Bool) (pushes : List α) :
    (remaining count old pushes).Sublist pushes := by
  induction pushes with
  | nil => exact List.Sublist.refl []
  | cons a pushes ih =>
    refine List.filter_sublist.trans ?_
    unfold limit
    split
    · exact ih.cons_cons a
    · exact (List.take_sublist _ _).trans (ih.cons_cons a)

/-- Trimming by `q` first makes no difference to one by `p` that drops more. -/
theorem filter_take_filter {p q : α → Bool} (more : ∀ b, p b = true → q b = true) {l : List α}
    (ordered : l.Pairwise fun b b' => q b' = true → q b = true) {m n : Nat} (le : n ≤ m) :
    (((l.take m).filter q).take n).filter p = (l.take n).filter p := by
  induction l generalizing m n with
  | nil => simp
  | cons b l ih =>
    obtain ⟨first, ordered⟩ := List.pairwise_cons.mp ordered
    cases n with
    | zero => simp
    | succ n =>
      obtain ⟨m, rfl⟩ : ∃ k, m = k + 1 := ⟨m - 1, by omega⟩
      rw [List.take_succ_cons, List.take_succ_cons]
      by_cases kept : q b = true
      · rw [List.filter_cons_of_pos kept, List.take_succ_cons, List.filter_cons, List.filter_cons,
          ih ordered (by omega)]
      · have dropped : ∀ b' ∈ b :: l, ¬q b' = true := by
          refine List.forall_mem_cons.mpr ⟨kept, fun b' mem later => kept (first b' mem later)⟩
        have none : ∀ k, ((b :: l).take (k + 1)).filter q = [] := fun k =>
          List.filter_eq_nil_iff.mpr fun b' mem => dropped b' (List.mem_of_mem_take mem)
        have none' : ((b :: l).take (n + 1)).filter p = [] :=
          List.filter_eq_nil_iff.mpr fun b' mem holds =>
            dropped b' (List.mem_of_mem_take mem) (more b' holds)
        rw [← List.take_succ_cons, none, ← List.take_succ_cons, none']
        simp

/-- What remains of the pushes is what the last trimming would have left of all of them. -/
theorem remaining_eq {old : α → α → Bool} {count : Nat} {a : α} {pushes : List α}
    (aging : (a :: pushes).Pairwise fun later earlier => ∀ b, old earlier b = true → old later b = true)
    (ordered : ∀ c, (a :: pushes).Pairwise fun newer older => old c newer = true → old c older = true) :
    remaining count old (a :: pushes) = (limit count (a :: pushes)).filter fun b => !old a b := by
  induction pushes generalizing a with
  | nil => rfl
  | cons a' pushes ih =>
    obtain ⟨first, aging'⟩ := List.pairwise_cons.mp aging
    have rest := ih aging' fun c => (List.pairwise_cons.mp (ordered c)).2
    have more : ∀ b, (!old a b) = true → (!old a' b) = true := by
      intro b fresh
      rw [Bool.not_eq_true'] at fresh ⊢
      exact Bool.eq_false_iff.mpr fun aged =>
        Bool.eq_false_iff.mp fresh (first a' List.mem_cons_self b aged)
    have fresh : (a' :: pushes).Pairwise fun b b' => (!old a' b') = true → (!old a' b) = true := by
      refine (List.pairwise_cons.mp (ordered a')).2.imp ?_
      intro newer older aged
      rw [Bool.not_eq_true', Bool.not_eq_true']
      exact fun fresh => Bool.eq_false_iff.mpr fun h => Bool.eq_false_iff.mp fresh (aged h)
    rw [remaining, rest]
    unfold limit
    by_cases unlimited : count = 0
    · simp only [if_pos unlimited]
      have same : ((a' :: pushes).filter fun b => !old a b && !old a' b) =
          (a' :: pushes).filter fun b => !old a b :=
        List.filter_congr fun b _ => by
          cases h : old a b with
          | true => rfl
          | false =>
            rw [more b (by rw [h]; rfl)]
            rfl
      have first : ∀ l : List α, (a :: l).filter (fun b => !old a b) =
          if (!old a a) = true then a :: l.filter fun b => !old a b
          else l.filter fun b => !old a b := fun l => List.filter_cons
      rw [first, first, List.filter_filter, same]
    · simp only [if_neg unlimited]
      obtain ⟨n, rfl⟩ : ∃ n, count = n + 1 := ⟨count - 1, by omega⟩
      have first : ∀ l : List α, ((a :: l).take (n + 1)).filter (fun b => !old a b) =
          if (!old a a) = true then a :: (l.take n).filter fun b => !old a b
          else (l.take n).filter fun b => !old a b := fun l => by
        rw [List.take_succ_cons, List.filter_cons]
      rw [first, first, filter_take_filter more fresh (Nat.le_succ n)]

/-! ## Entries of several parts -/

theorem flatMap_old {β : Type*} {l : List α} {left parts : α → List β} {old : α → Bool}
    (rule : ∀ b ∈ l, left b = if old b = true then [] else parts b) :
    l.flatMap left = (l.filter fun b => !old b).flatMap parts := by
  induction l with
  | nil => rfl
  | cons b l ih =>
    obtain ⟨first, rest⟩ := List.forall_mem_cons.mp rule
    rw [List.flatMap_cons, first, ih rest]
    by_cases aged : old b = true
    · rw [if_pos aged, List.filter_cons_of_neg (by simp [aged]), List.nil_append]
    · rw [if_neg aged, List.filter_cons_of_pos (by simp [aged]), List.flatMap_cons]

/-- If each entry goes with its parts by its index or its age, the parts left are
those of the entries left. -/
theorem flatMap_limit {β : Type*} {count : Nat} {l : List α} {left parts : α → List β}
    {old : α → Bool} (rule : ∀ i b, l[i]? = some b →
      left b = if 0 < count ∧ count ≤ i ∨ old b = true then [] else parts b) :
    l.flatMap left = ((limit count l).filter fun b => !old b).flatMap parts := by
  unfold limit
  split
  · rename_i unlimited
    refine flatMap_old fun b mem => ?_
    obtain ⟨i, found⟩ := List.mem_iff_getElem?.mp mem
    rw [rule i b found]
    simp [unlimited]
  · rename_i limited
    have early : ∀ b ∈ l.take count, left b = if old b = true then [] else parts b := by
      intro b mem
      obtain ⟨i, found⟩ := List.mem_iff_getElem?.mp mem
      have within : i < count := by
        by_contra past
        rw [List.getElem?_take_eq_none (not_lt.mp past)] at found
        cases found
      rw [List.getElem?_take_of_lt within] at found
      rw [rule i b found]
      simp [not_le.mpr within]
    have late : (l.drop count).flatMap left = [] := by
      refine List.flatMap_eq_nil_iff.mpr fun b mem => ?_
      obtain ⟨i, found⟩ := List.mem_iff_getElem?.mp mem
      rw [List.getElem?_drop] at found
      rw [rule (count + i) b found, if_pos (Or.inl ⟨Nat.pos_of_ne_zero limited, Nat.le_add_right _ _⟩)]
    have split : l.flatMap left = (l.take count).flatMap left ++ (l.drop count).flatMap left := by
      rw [← List.flatMap_append, List.take_append_drop]
    rw [split, late, List.append_nil]
    exact flatMap_old early

end Retention
