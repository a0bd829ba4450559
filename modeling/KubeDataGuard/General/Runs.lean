import Mathlib.Algebra.GroupWithZero.Nat
import Mathlib.Data.List.Infix
import Mathlib.Order.Basic

/-!
# Runs of a labelled transition relation

A run carries the labels of its steps, newest first, so that a property of a
state can speak of what led to it. The rules below package the inductions:

* `Run.invariant`: a property of history and state kept by every step;
* `Run.earlier`: every suffix of a history is a run of its own;
* `Run.viewed`: a view of the states under which every step is a step of
  another relation, or none, carries runs over to that relation;
* `Guarded`: the steps of a relation that meet a condition, for properties
  that hold of the runs all of whose steps meet it;
* `Recorded`: steps whose labels also carry the states they start from, for
  properties that speak of earlier states of the same run;
* `Run.at_most_once`: a kind of event that bars itself happens at most once.
-/

namespace Runs

variable {σ ε : Type*}

inductive Run (start : σ → Prop) (step : σ → ε → σ → Prop) : List ε → σ → Prop
  | start {s} (h : start s) : Run start step [] s
  | next {tr s e t} (run : Run start step tr s) (h : step s e t) : Run start step (e :: tr) t

variable {start : σ → Prop} {step : σ → ε → σ → Prop}

theorem Run.invariant {I : List ε → σ → Prop} (h0 : ∀ s, start s → I [] s)
    (hstep : ∀ tr s e t, Run start step tr s → I tr s → step s e t → I (e :: tr) t)
    {tr : List ε} {s : σ} (run : Run start step tr s) : I tr s := by
  induction run with
  | start h => exact h0 _ h
  | next run h ih => exact hstep _ _ _ _ run ih h

theorem Run.earlier {tr : List ε} {s : σ} (run : Run start step tr s) {tr₁ : List ε}
    (h : tr₁ <:+ tr) : ∃ s₁, Run start step tr₁ s₁ := by
  induction run with
  | start hs =>
    rw [List.suffix_nil.mp h]
    exact ⟨_, .start hs⟩
  | next run hn ih =>
    rcases List.suffix_cons_iff.mp h with rfl | h
    · exact ⟨_, .next run hn⟩
    · exact ih h

theorem Run.started {start' : σ → Prop} (h : ∀ s, start s → start' s) {tr : List ε} {s : σ}
    (run : Run start step tr s) : Run start' step tr s := by
  induction run with
  | start h0 => exact .start (h _ h0)
  | next _ hn ih => exact .next ih hn

/-- The steps that meet a condition on the state before the step and its label. -/
def Guarded (guard : σ → ε → Prop) (step : σ → ε → σ → Prop) : σ → ε → σ → Prop :=
  fun s e t => guard s e ∧ step s e t

theorem Run.unguarded {guard : σ → ε → Prop} {tr : List ε} {s : σ}
    (run : Run start (Guarded guard step) tr s) : Run start step tr s := by
  induction run with
  | start h => exact .start h
  | next _ h ih => exact .next ih h.2

theorem Run.guarded {guard : ε → Prop} {tr : List ε} {s : σ} (run : Run start step tr s)
    (all : ∀ e ∈ tr, guard e) : Run start (Guarded (fun _ => guard) step) tr s := by
  induction run with
  | start h => exact .start h
  | next _ h ih =>
    exact (ih fun e mem => all e (List.mem_cons_of_mem _ mem)).next ⟨all _ List.mem_cons_self, h⟩

/-- A view that turns every step into a step of another relation, or into none at
all, turns runs into runs of that relation. -/
theorem Run.viewed {τ δ : Type*} {start' : τ → Prop} {step' : τ → δ → τ → Prop} {view : σ → τ}
    {label : ε → Option δ} (h0 : ∀ s, start s → start' (view s))
    (hstep : ∀ s e t, step s e t → match label e with
      | some d => step' (view s) d (view t)
      | none => view t = view s)
    {tr : List ε} {s : σ} (run : Run start step tr s) :
    Run start' step' (tr.filterMap label) (view s) := by
  induction run with
  | start h => exact .start (h0 _ h)
  | @next tr s e t run hn ih =>
    have hview := hstep s e t hn
    cases hlabel : label e with
    | none =>
      rw [hlabel] at hview
      rw [List.filterMap_cons_none hlabel, hview]
      exact ih
    | some d =>
      rw [hlabel] at hview
      rw [List.filterMap_cons_some hlabel]
      exact .next ih hview

/-- The steps of a relation, labelled with the state they start from as well. -/
def Recorded (step : σ → ε → σ → Prop) : σ → σ × ε → σ → Prop := fun s e t => e.1 = s ∧ step s e.2 t

theorem Run.record {tr : List (σ × ε)} {s t : σ} {e : ε} (run : Run start (Recorded step) tr s)
    (h : step s e t) : Run start (Recorded step) ((s, e) :: tr) t := run.next ⟨rfl, h⟩

theorem Run.moves {tr : List (σ × ε)} {s : σ} (run : Run start (Recorded step) tr s) :
    Run start step (tr.map Prod.snd) s := by
  induction run with
  | start h => exact .start h
  | next _ h ih => exact ih.next h.2

theorem Run.recorded {tr : List ε} {s : σ} (run : Run start step tr s) :
    ∃ tr', Run start (Recorded step) tr' s := by
  induction run with
  | start h => exact ⟨[], .start h⟩
  | next _ h ih =>
    obtain ⟨tr', before⟩ := ih
    exact ⟨_, before.record h⟩

theorem Run.recorded_invariant {I : List (σ × ε) → σ → Prop} (h0 : ∀ s, start s → I [] s)
    (hstep : ∀ tr s e t, Run start (Recorded step) tr s → I tr s → step s e t → I ((s, e) :: tr) t)
    {tr : List (σ × ε)} {s : σ} (run : Run start (Recorded step) tr s) : I tr s := by
  refine run.invariant h0 ?_
  rintro tr s ⟨_, e⟩ t run ih ⟨rfl, h⟩
  exact hstep tr _ e t run ih h

/-- A recorded state was reached by the steps recorded before it. -/
theorem Run.recorded_state {tr : List (σ × ε)} {s : σ} (run : Run start (Recorded step) tr s)
    {s₁ : σ} {e : ε} (h : (s₁, e) ∈ tr) : ∃ tr₁, Run start (Recorded step) tr₁ s₁ := by
  induction run with
  | start => cases h
  | @next tr s e' t run hn ih =>
    obtain rfl | earlier := List.mem_cons.mp h
    · obtain ⟨rfl, -⟩ := hn
      exact ⟨tr, run⟩
    · exact ih earlier

/-- The states a recorded run has been in. -/
def Seen (tr : List (σ × ε)) (s a : σ) : Prop := a = s ∨ ∃ e, (a, e) ∈ tr

theorem Seen.later {tr : List (σ × ε)} {s a : σ} (seen : Seen tr s a) (e : ε) (t : σ) :
    Seen ((s, e) :: tr) t a := by
  obtain rfl | ⟨e', mem⟩ := seen
  · exact Or.inr ⟨e, List.mem_cons_self⟩
  · exact Or.inr ⟨e', List.mem_cons_of_mem _ mem⟩

/-- A state seen in a run was reached by the last steps of its history. -/
theorem Run.seen {tr : List (σ × ε)} {s a : σ} (run : Run start (Recorded step) tr s)
    (seen : Seen tr s a) : ∃ tr₁, tr₁ <:+ tr ∧ Run start (Recorded step) tr₁ a := by
  obtain rfl | ⟨e, mem⟩ := seen
  · exact ⟨tr, List.suffix_rfl, run⟩
  · obtain ⟨later, tr₁, split⟩ := List.append_of_mem mem
    obtain ⟨t, before⟩ := run.earlier ⟨later, split.symm⟩
    cases before with
    | next before step =>
      obtain ⟨rfl, -⟩ := step
      exact ⟨tr₁, ⟨later ++ [(a, e)], by simp [split]⟩, before⟩

/-- What every step keeps holds from the first state it was seen in. -/
theorem Run.seen_kept {I : σ → Prop} (kept : ∀ s e t, step s e t → I s → I t)
    {tr : List (σ × ε)} {s a : σ} (run : Run start (Recorded step) tr s) (seen : Seen tr s a)
    (held : I a) : I s := by
  obtain rfl | ⟨e, mem⟩ := seen
  · exact held
  induction run with
  | start => cases mem
  | next _ h ih =>
    obtain ⟨same, h⟩ := h
    obtain rfl | earlier := List.mem_cons.mp mem
    · obtain rfl := same
      exact kept _ _ _ h held
    · exact kept _ _ _ h (ih earlier)

theorem Run.recorded_unguarded {guard : σ → ε → Prop} {tr : List (σ × ε)} {s : σ}
    (run : Run start (Recorded (Guarded guard step)) tr s) : Run start (Recorded step) tr s := by
  induction run with
  | start h => exact .start h
  | next _ h ih => exact .next ih ⟨h.1, h.2.2⟩

/-- If an event of weight one leaves the state barred (`B`), every step keeps it
barred, and no step from a barred state has weight, then the weights along a
run add up to one at most. -/
theorem Run.at_most_once {weight : ε → Nat} {B : σ → Prop}
    (once : ∀ tr s e t, Run start step tr s → step s e t → weight e ≤ 1)
    (bars : ∀ tr s e t, Run start step tr s → step s e t → weight e = 1 → B t)
    (keeps : ∀ tr s e t, Run start step tr s → B s → step s e t → B t)
    (stops : ∀ tr s e t, Run start step tr s → B s → step s e t → weight e = 0)
    {tr : List ε} {s : σ} (run : Run start step tr s) : (tr.map weight).sum ≤ 1 := by
  have h : (tr.map weight).sum = 0 ∨ (tr.map weight).sum = 1 ∧ B s := by
    induction run with
    | start => exact Or.inl rfl
    | @next tr s e t run hn ih =>
      simp only [List.map_cons, List.sum_cons]
      rcases ih with zero | ⟨one, barred⟩
      · have hw := once _ _ _ _ run hn
        rcases Nat.lt_or_ge 0 (weight e) with pos | none
        · exact Or.inr ⟨by omega, bars _ _ _ _ run hn (by omega)⟩
        · exact Or.inl (by omega)
      · have hw := stops _ _ _ _ run barred hn
        exact Or.inr ⟨by omega, keeps _ _ _ _ run barred hn⟩
  omega

end Runs
