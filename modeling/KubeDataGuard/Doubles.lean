import KubeDataGuard.Json
import Mathlib.Algebra.Order.Field.Power
import Mathlib.Tactic.Linarith
import Mathlib.Tactic.NormNum
import Mathlib.Tactic.Ring

/-!
# Doubles

What `float64` makes of a rational: a number is rounded to a multiple of its
last place, so a double is read as itself, and nothing is read of a number past
the finite range.
-/

namespace KubeDataGuard

/-! ## Rounding -/

/-- `x` rounded to an integer, a tie to the even one. -/
structure RoundsTo (x : ℚ) (n : ℤ) : Prop where
  near : |(n : ℚ) - x| ≤ 1 / 2
  tie : |(n : ℚ) - x| = 1 / 2 → n % 2 = 0

theorem roundsTo_halves (x : ℚ) : RoundsTo x
    (if x - x.floor < 1 / 2 then x.floor
      else if 1 / 2 < x - x.floor then x.floor + 1
      else if x.floor % 2 = 0 then x.floor else x.floor + 1) := by
  have lower : (x.floor : ℚ) ≤ x := Int.floor_le x
  have upper : x < x.floor + 1 := Int.lt_floor_add_one x
  split
  · rename_i less
    constructor
    · rw [abs_le]
      constructor <;> linarith
    · intro tie
      rw [abs_of_nonpos (by linarith)] at tie
      linarith
  split
  · rename_i more
    constructor
    · push_cast
      rw [abs_le]
      constructor <;> linarith
    · intro tie
      push_cast at tie
      rw [abs_of_nonneg (by linarith)] at tie
      linarith
  have half : x - x.floor = 1 / 2 := by linarith
  split
  · rename_i even
    refine ⟨?_, fun _ => even⟩
    rw [abs_le]
    constructor <;> linarith
  · refine ⟨?_, fun _ => by omega⟩
    push_cast
    rw [abs_le]
    constructor <;> linarith

theorem RoundsTo.of_integer {m n : ℤ} (h : RoundsTo m n) : n = m := by
  have near := h.near
  rw [← Int.cast_sub, ← Int.cast_abs] at near
  have less : |n - m| < 1 := by
    have : ((|n - m| : ℤ) : ℚ) < 1 := near.trans_lt (by norm_num)
    exact_mod_cast this
  have := Int.abs_lt_one_iff.mp less
  omega

theorem RoundsTo.le {x : ℚ} {m n : ℤ} (h : RoundsTo x n) (below : (m : ℚ) ≤ x) : m ≤ n := by
  have near := (abs_le.mp h.near).1
  have : (m : ℚ) < ((n + 1 : ℤ) : ℚ) := by
    push_cast
    linarith
  have := Int.cast_lt.mp this
  omega

/-- Rounding carries an integer to the next power of two from half below it on. -/
theorem RoundsTo.carry_iff {x : ℚ} {n : ℤ} (h : RoundsTo x n) :
    (2 : ℤ) ^ 53 ≤ n ↔ (2 : ℚ) ^ 53 - 1 / 2 ≤ x := by
  have near := abs_le.mp h.near
  constructor
  · intro carried
    have : ((2 ^ 53 : ℤ) : ℚ) ≤ n := Int.cast_le.mpr carried
    push_cast at this
    linarith [near.2]
  · intro large
    by_contra below
    have most : n ≤ 2 ^ 53 - 1 := by omega
    have most' : (n : ℚ) ≤ ((2 ^ 53 - 1 : ℤ) : ℚ) := Int.cast_le.mpr most
    push_cast at most'
    have tie : |(n : ℚ) - x| = 1 / 2 := by
      rw [abs_of_nonpos (by linarith)]
      linarith [near.1]
    have even := h.tie tie
    have exact_ : ((2 ^ 53 - 1 : ℤ) : ℚ) ≤ n := by
      push_cast
      linarith [near.1]
    have := Int.cast_le.mp exact_
    omega

/-! ## Binary places -/

theorem zpow_two_split (a : ℕ) (b : ℤ) : (2 : ℚ) ^ ((a : ℤ) + b) = 2 ^ a * 2 ^ b := by
  rw [zpow_add₀ (by norm_num), zpow_natCast]

/-- The unit in the last place of a number whose first binary place is this. -/
def lastPlace (e : ℤ) : ℚ := 2 ^ max (e - 52) (-1074)

theorem lastPlace_pos (e : ℤ) : 0 < lastPlace e := zpow_pos (by norm_num) _

theorem lastPlace_normal {e : ℤ} (normal : -1022 ≤ e) : 2 ^ e = 2 ^ 52 * lastPlace e := by
  rw [lastPlace, max_eq_left (by omega), ← zpow_two_split 52]
  congr 1
  push_cast
  ring

theorem binary_place {q : ℚ} (h : q ≠ 0) (log : ℤ)
    (hlog : log = (Nat.log2 q.num.natAbs : ℤ) - Nat.log2 q.den) :
    (2 : ℚ) ^ (log - 1) < |q| ∧ |q| < 2 ^ (log + 1) := by
  have num : q.num.natAbs ≠ 0 := by simpa using h
  have numLow : ((2 ^ q.num.natAbs.log2 : ℕ) : ℚ) ≤ q.num.natAbs := by
    exact_mod_cast Nat.log2_self_le num
  have numHigh : (q.num.natAbs : ℚ) < ((2 ^ (q.num.natAbs.log2 + 1) : ℕ) : ℚ) := by
    exact_mod_cast Nat.lt_log2_self
  have denLow : ((2 ^ q.den.log2 : ℕ) : ℚ) ≤ q.den := by
    exact_mod_cast Nat.log2_self_le q.den_nz
  have denHigh : (q.den : ℚ) < ((2 ^ (q.den.log2 + 1) : ℕ) : ℚ) := by
    exact_mod_cast Nat.lt_log2_self
  have value : |q| = q.num.natAbs / q.den := by
    conv_lhs => rw [← Rat.num_div_den q, abs_div]
    simp
  have den : (0 : ℚ) < q.den := by exact_mod_cast q.den_pos
  have two : (0 : ℚ) < 2 := by norm_num
  push_cast at numLow numHigh denLow denHigh
  have denPlace : (0 : ℚ) < 2 ^ q.den.log2 := by positivity
  rw [value, hlog]
  constructor
  · rw [lt_div_iff₀ den]
    have split : (2 : ℚ) ^ ((q.num.natAbs.log2 : ℤ) - q.den.log2 - 1) * 2 ^ (q.den.log2 + 1) =
        2 ^ q.num.natAbs.log2 := by
      rw [← zpow_natCast (2 : ℚ) (q.den.log2 + 1), ← zpow_natCast (2 : ℚ) q.num.natAbs.log2,
        ← zpow_add₀ two.ne']
      congr 1
      push_cast
      ring
    calc (2 : ℚ) ^ ((q.num.natAbs.log2 : ℤ) - q.den.log2 - 1) * q.den
        < 2 ^ ((q.num.natAbs.log2 : ℤ) - q.den.log2 - 1) * 2 ^ (q.den.log2 + 1) :=
          mul_lt_mul_of_pos_left denHigh (zpow_pos two _)
      _ = 2 ^ q.num.natAbs.log2 := split
      _ ≤ q.num.natAbs := numLow
  · rw [div_lt_iff₀ den]
    have split : (2 : ℚ) ^ ((q.num.natAbs.log2 : ℤ) - q.den.log2 + 1) * 2 ^ q.den.log2 =
        2 ^ (q.num.natAbs.log2 + 1) := by
      rw [← zpow_natCast (2 : ℚ) (q.num.natAbs.log2 + 1), ← zpow_natCast (2 : ℚ) q.den.log2,
        ← zpow_add₀ two.ne']
      congr 1
      push_cast
      ring
    calc (q.num.natAbs : ℚ) < 2 ^ (q.num.natAbs.log2 + 1) := numHigh
      _ = 2 ^ ((q.num.natAbs.log2 : ℤ) - q.den.log2 + 1) * 2 ^ q.den.log2 := split.symm
      _ ≤ 2 ^ ((q.num.natAbs.log2 : ℤ) - q.den.log2 + 1) * q.den :=
          mul_le_mul_of_nonneg_left denLow (zpow_pos two _).le

/-! ## Doubles -/

/-- A number other than zero is rounded to a multiple of its last place, and is none where that is
past the finite range. -/
theorem float64_rounds {q : ℚ} (h : q ≠ 0) : ∃ e n : ℤ, (2 : ℚ) ^ e ≤ |q| ∧ |q| < 2 ^ (e + 1) ∧
    RoundsTo (|q| / lastPlace e) n ∧
    float64 q = if (2 : ℚ) ^ (1024 : ℤ) ≤ n * lastPlace e then none
      else some (if q < 0 then -(n * lastPlace e) else n * lastPlace e) := by
  obtain ⟨low, high⟩ := binary_place h _ rfl
  refine ⟨if (2 : ℚ) ^ ((Nat.log2 q.num.natAbs : ℤ) - Nat.log2 q.den) ≤ |q| then
      (Nat.log2 q.num.natAbs : ℤ) - Nat.log2 q.den
    else (Nat.log2 q.num.natAbs : ℤ) - Nat.log2 q.den - 1, _, ?_, ?_, roundsTo_halves _, ?_⟩
  · split
    · assumption
    · exact low.le
  · split
    · exact high
    · rename_i below
      rw [sub_add_cancel]
      exact lt_of_not_ge below
  · rw [float64, if_neg h]
    rfl

/-- Every double is read as itself. -/
theorem float64_exact {q : ℚ} {m e : ℤ} (value : q = m * 2 ^ e) (places : |m| < 2 ^ 53)
    (least : -1074 ≤ e) (finite : |q| < 2 ^ (1024 : ℤ)) : float64 q = some q := by
  by_cases zero : q = 0
  · rw [float64, if_pos zero, zero]
  obtain ⟨first, n, low, high, rounds, read⟩ := float64_rounds zero
  have two : (1 : ℚ) < 2 := by norm_num
  have size : |q| = |m| * 2 ^ e := by
    rw [value, abs_mul, abs_of_pos (zpow_pos (by norm_num : (0 : ℚ) < 2) e), Int.cast_abs]
  -- the last place of the number is no higher than that of the double
  have place : max (first - 52) (-1074) ≤ e := by
    apply max_le _ least
    have below : |q| < 2 ^ (53 + e) := by
      rw [size, zpow_add₀ (by norm_num : (2 : ℚ) ≠ 0)]
      apply mul_lt_mul_of_pos_right _ (zpow_pos (by norm_num) e)
      exact_mod_cast places
    have := (zpow_lt_zpow_iff_right₀ two).mp (low.trans_lt below)
    omega
  obtain ⟨k, hk⟩ := Int.le.dest place
  have whole : |q| / lastPlace first = ((|m| * 2 ^ k : ℤ) : ℚ) := by
    rw [lastPlace, div_eq_iff (zpow_pos (by norm_num : (0 : ℚ) < 2) _).ne', size, ← hk,
      zpow_add₀ (by norm_num : (2 : ℚ) ≠ 0), zpow_natCast]
    push_cast
    ring
  rw [whole] at rounds
  have exact_ : (n : ℚ) * lastPlace first = |q| := by
    rw [rounds.of_integer, ← whole, div_mul_cancel₀ _ (lastPlace_pos first).ne']
  rw [read, exact_, if_neg (not_le.mpr finite)]
  split
  · rename_i negative
    rw [abs_of_neg negative, neg_neg]
  · rename_i positive
    rw [abs_of_nonneg (not_lt.mp positive)]

/-- None is read where a number is past the greatest double by half its last place, and only
there. -/
theorem float64_none_iff {q : ℚ} :
    float64 q = none ↔ (2 ^ 53 - 1 / 2) * (2 : ℚ) ^ (971 : ℤ) ≤ |q| := by
  have two : (1 : ℚ) < 2 := by norm_num
  have unit : (0 : ℚ) < 2 ^ (971 : ℤ) := zpow_pos (by norm_num) _
  have top : (2 : ℚ) ^ (1024 : ℤ) = 2 ^ 53 * 2 ^ (971 : ℤ) := zpow_two_split 53 971
  by_cases zero : q = 0
  · rw [float64, if_pos zero, zero, abs_zero]
    refine iff_of_false nofun (not_le.mpr (mul_pos ?_ unit))
    norm_num
  obtain ⟨first, n, low, high, rounds, read⟩ := float64_rounds zero
  have place := lastPlace_pos first
  have refused : float64 q = none ↔ 2 ^ 53 * (2 : ℚ) ^ (971 : ℤ) ≤ n * lastPlace first := by
    rw [read, top]
    split
    · rename_i past
      exact iff_of_true rfl past
    · rename_i within
      exact iff_of_false nofun within
  rw [refused]
  obtain last | larger | smaller : first = 1023 ∨ 1024 ≤ first ∨ first ≤ 1022 := by omega
  · have last : lastPlace first = 2 ^ (971 : ℤ) := by
      rw [last, lastPlace]
      rfl
    rw [last] at rounds place ⊢
    rw [mul_le_mul_iff_left₀ place, ← le_div_iff₀ place, ← rounds.carry_iff]
    exact_mod_cast Iff.rfl
  · have range : 2 ^ 53 * (2 : ℚ) ^ (971 : ℤ) ≤ 2 ^ first :=
      top ▸ zpow_le_zpow_right₀ two.le larger
    have normal := lastPlace_normal (e := first) (by omega)
    have digits : (2 : ℚ) ^ 52 ≤ |q| / lastPlace first := by
      rw [le_div_iff₀ place, ← normal]
      exact low
    have least : (2 : ℤ) ^ 52 ≤ n := rounds.le (by exact_mod_cast digits)
    have held : (2 : ℚ) ^ first ≤ n * lastPlace first := by
      rw [normal]
      exact mul_le_mul_of_nonneg_right (by exact_mod_cast least) place.le
    refine iff_of_true (range.trans held) (le_trans ?_ (range.trans low))
    exact mul_le_mul_of_nonneg_right (by norm_num) unit.le
  · have range : |q| < 2 ^ 52 * (2 : ℚ) ^ (971 : ℤ) := by
      rw [← zpow_two_split]
      exact high.trans_le (zpow_le_zpow_right₀ two.le (by norm_num; omega))
    have fine : lastPlace first ≤ 2 ^ (971 : ℤ) :=
      zpow_le_zpow_right₀ two.le (max_le (by omega) (by norm_num))
    have above : n * lastPlace first ≤ |q| + lastPlace first := by
      have near := (abs_le.mp rounds.near).2
      have scaled : |q| / lastPlace first * lastPlace first = |q| := div_mul_cancel₀ _ place.ne'
      have := mul_le_mul_of_nonneg_right
        (show (n : ℚ) ≤ |q| / lastPlace first + 1 by linarith) place.le
      linarith [add_mul (|q| / lastPlace first) 1 (lastPlace first)]
    generalize (2 : ℚ) ^ (971 : ℤ) = u at unit range fine ⊢
    refine iff_of_false (not_le.mpr ?_) (not_le.mpr ?_)
    · linarith
    · linarith

end KubeDataGuard
