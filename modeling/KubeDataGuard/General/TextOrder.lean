import Mathlib.Data.String.Basic
import Mathlib.Tactic.Ring

/-!
# Texts in order

Texts compare by code point and the first difference decides. Fields of one
width therefore compare one after the other, and digits of one width compare
as the numbers they spell.
-/

namespace Texts

theorem lex_append_of_length {α : Type*} [LinearOrder α] {f g x y : List α}
    (width : f.length = g.length) (h : f < g) : f ++ x < g ++ y := by
  induction f generalizing g with
  | nil =>
    cases g with
    | nil => exact absurd h (List.lt_irrefl _)
    | cons b g => cases width
  | cons a f ih =>
    cases g with
    | nil => cases width
    | cons b g =>
      rw [List.cons_append, List.cons_append]
      rcases List.cons_lt_cons_iff.mp h with first | ⟨same, rest⟩
      · exact List.cons_lt_cons_iff.mpr (Or.inl first)
      · exact List.cons_lt_cons_iff.mpr (Or.inr ⟨same, ih (Nat.succ.inj width) rest⟩)

/-- The first of two fields of one width decides, unless they agree. -/
theorem append_lt {f g x y : String} (width : f.toList.length = g.toList.length)
    (h : f < g ∨ f = g ∧ x < y) : f ++ x < g ++ y := by
  rw [String.lt_iff_toList_lt, String.toList_append, String.toList_append]
  rcases h with first | ⟨rfl, rest⟩
  · exact lex_append_of_length width (String.lt_iff_toList_lt.mp first)
  · exact List.append_left_lt (String.lt_iff_toList_lt.mp rest)

theorem append_left_lt (f : String) {x y : String} (h : x < y) : f ++ x < f ++ y :=
  append_lt rfl (Or.inr ⟨rfl, h⟩)

/-! ## Digits -/

theorem digit_bounds {c : Char} (h : c.isDigit) : '0'.toNat ≤ c.toNat ∧ c.toNat < '0'.toNat + 10 := by
  have bounds := Char.isDigit_iff_toNat.mp h
  have nine : '9'.toNat = '0'.toNat + 9 := rfl
  omega

/-- What digits add to the number read before them is below one more of it. -/
theorem ofDigitChars_range {l : List Char} (digits : ∀ c ∈ l, c.isDigit) (init : Nat) :
    init * 10 ^ l.length ≤ Nat.ofDigitChars 10 l init ∧
      Nat.ofDigitChars 10 l init < (init + 1) * 10 ^ l.length := by
  induction l generalizing init with
  | nil => simp
  | cons c l ih =>
    have bounds := digit_bounds (digits c List.mem_cons_self)
    obtain ⟨low, high⟩ := ih (fun d hd => digits d (List.mem_cons_of_mem c hd))
      (10 * init + (c.toNat - '0'.toNat))
    rw [Nat.ofDigitChars_cons, List.length_cons, Nat.pow_succ]
    constructor
    · calc init * (10 ^ l.length * 10) = (10 * init) * 10 ^ l.length := by ring
        _ ≤ (10 * init + (c.toNat - '0'.toNat)) * 10 ^ l.length :=
          Nat.mul_le_mul_right _ (by omega)
        _ ≤ _ := low
    · calc _ < (10 * init + (c.toNat - '0'.toNat) + 1) * 10 ^ l.length := high
        _ ≤ (10 * (init + 1)) * 10 ^ l.length := Nat.mul_le_mul_right _ (by omega)
        _ = (init + 1) * (10 ^ l.length * 10) := by ring

/-- Of two texts of digits of one width the one that spells less comes first. -/
theorem digits_lt {l m : List Char} (hl : ∀ c ∈ l, c.isDigit) (hm : ∀ c ∈ m, c.isDigit)
    (width : l.length = m.length) {init : Nat}
    (h : Nat.ofDigitChars 10 l init < Nat.ofDigitChars 10 m init) : l < m := by
  induction l generalizing m init with
  | nil =>
    cases m with
    | nil => exact absurd h (Nat.lt_irrefl _)
    | cons d m => cases width
  | cons c l ih =>
    cases m with
    | nil => cases width
    | cons d m =>
      have restDigits : ∀ c ∈ l, c.isDigit := fun e he => hl e (List.mem_cons_of_mem c he)
      have restDigits' : ∀ c ∈ m, c.isDigit := fun e he => hm e (List.mem_cons_of_mem d he)
      have restWidth : l.length = m.length := Nat.succ.inj width
      rw [Nat.ofDigitChars_cons, Nat.ofDigitChars_cons] at h
      apply List.cons_lt_cons_iff.mpr
      rcases Nat.lt_trichotomy c.toNat d.toNat with less | same | more
      · exact Or.inl less
      · have same := Char.toNat_inj.mp same
        exact Or.inr ⟨same, ih restDigits restDigits' restWidth (same ▸ h)⟩
      · -- a greater digit outweighs whatever follows it
        have least := (ofDigitChars_range restDigits (10 * init + (c.toNat - '0'.toNat))).1
        have most := (ofDigitChars_range restDigits' (10 * init + (d.toNat - '0'.toNat))).2
        have bounds := digit_bounds (hm d List.mem_cons_self)
        have step : (10 * init + (d.toNat - '0'.toNat) + 1) * 10 ^ m.length ≤
            (10 * init + (c.toNat - '0'.toNat)) * 10 ^ l.length := by
          rw [restWidth]
          exact Nat.mul_le_mul_right _ (by omega)
        omega

end Texts
