import Mathlib.Data.List.Infix
import Mathlib.Logic.Function.Basic

/-!
# Names that share a place

A store keeps what is written under a name at the place of that name, and
several names may have one place. A name's place holds what a store by names
would hold exactly as long as no edit under another name changes it.
-/

namespace Places

/-- An edit of what is kept under a name. -/
structure Edit (ι β : Type*) where
  name : ι
  change : Option β → Option β

variable {ι κ β γ : Type*} [DecidableEq κ] (place : ι → κ) (edit : γ → Edit ι β)

/-- What the places hold after some calls. -/
def placed (calls : List γ) : κ → Option β :=
  calls.foldl (fun s c => Function.update s (place (edit c).name)
    ((edit c).change (s (place (edit c).name)))) fun _ => none

theorem placed_concat (calls : List γ) (c : γ) : placed place edit (calls ++ [c]) =
    Function.update (placed place edit calls) (place (edit c).name)
      ((edit c).change (placed place edit calls (place (edit c).name))) := by
  rw [placed, List.foldl_append]
  rfl

variable [DecidableEq ι]

/-- What a store by names holds after them. -/
def named (calls : List γ) : ι → Option β :=
  calls.foldl (fun s c => Function.update s (edit c).name ((edit c).change (s (edit c).name)))
    fun _ => none

theorem named_concat (calls : List γ) (c : γ) : named edit (calls ++ [c]) =
    Function.update (named edit calls) (edit c).name
      ((edit c).change (named edit calls (edit c).name)) := by
  rw [named, List.foldl_append]
  rfl

variable {place edit} {calls : List γ} {i : ι}

theorem named_concat_ne {c : γ} (other : (edit c).name ≠ i) :
    named edit (calls ++ [c]) i = named edit calls i := by
  rw [named_concat, Function.update_of_ne other.symm]

/-- A call keeps a place and its name in step, unless under another name it changes the place. -/
theorem placed_concat_eq {c : γ} (agree : placed place edit calls (place i) = named edit calls i)
    (kept : (edit c).name ≠ i → place (edit c).name = place i →
      placed place edit (calls ++ [c]) (place i) = placed place edit calls (place i)) :
    placed place edit (calls ++ [c]) (place i) = named edit (calls ++ [c]) i := by
  by_cases own : (edit c).name = i
  · subst own
    rw [placed_concat, named_concat, Function.update_self, Function.update_self, agree]
  · rw [named_concat_ne own]
    by_cases same : place (edit c).name = place i
    · rw [kept own same, agree]
    · rw [placed_concat, Function.update_of_ne (Ne.symm same), agree]

/-- Places that no other name changes hold what their names would. -/
theorem placed_eq_named_of_kept (kept : ∀ before c, before ++ [c] <+: calls → (edit c).name ≠ i →
      place (edit c).name = place i →
      placed place edit (before ++ [c]) (place i) = placed place edit before (place i)) :
    placed place edit calls (place i) = named edit calls i := by
  induction calls using List.reverseRecOn with
  | nil => rfl
  | append_singleton calls c ih =>
    refine placed_concat_eq (ih ?_) (kept calls c (List.prefix_refl _))
    exact fun before c' h => kept before c' (h.trans (List.prefix_append calls [c]))

/-- A place agrees with its name all along exactly when no call under another name of
the place would change what the name holds. -/
theorem placed_eq_named_iff : (∀ before, before <+: calls →
      placed place edit before (place i) = named edit before i) ↔
    ∀ before c, before ++ [c] <+: calls → (edit c).name ≠ i → place (edit c).name = place i →
      (edit c).change (named edit before i) = named edit before i := by
  constructor
  · intro agree before c hc other same
    have start := agree before ((List.prefix_append before [c]).trans hc)
    have next := agree _ hc
    rwa [named_concat_ne other, placed_concat, same, Function.update_self, start] at next
  · intro calm before hb
    induction before using List.reverseRecOn with
    | nil => rfl
    | append_singleton before c ih =>
      have agree := ih ((List.prefix_append before [c]).trans hb)
      refine placed_concat_eq agree ?_
      intro other same
      rw [placed_concat, same, Function.update_self, agree, calm before c hb other same]

end Places
