import Mathlib.Algebra.Order.Field.Power
import Mathlib.Data.Rat.Cast.Order
import Mathlib.Tactic.FieldSimp
import Mathlib.Tactic.Linarith
import Mathlib.Tactic.NormNum
import Mathlib.Tactic.Positivity
import Mathlib.Tactic.Ring
import PinnedRun.Numeric.Binary64

/-!
# The numbers that codes stand for

The codes of magnitudes stand for numbers in blocks of `2 ^ 52`, and in each block the numbers are
multiples of one power of two.

* `placeValue k` : the power of two that the last place counts in block `k`; a number of `m` such
  units has the code `k * 2 ^ 52 + m` (`magnitudeValue_grid`), and every code is of this form
  (`exists_block`);
* `midpoint n` : the middle between the numbers of a code and of the next one.

So the number grows with the code (`magnitudeValue_strictMono`). Infinity takes the code that would
stand for `2 ^ 1024`, and `midpoint_last` is the middle between this and the largest finite number.
-/

namespace PinnedRun.Numeric

/-- The value of the last place of the numbers whose codes stand in block `k`. -/
def placeValue (k : ℕ) : ℚ := 2 ^ ((k : ℤ) - 1074)

theorem placeValue_pos (k : ℕ) : 0 < placeValue k := zpow_pos (by norm_num) _

theorem placeValue_add (k j : ℕ) : placeValue (k + j) = placeValue k * 2 ^ j := by
  rw [placeValue, placeValue, ← zpow_natCast, ← zpow_add₀ (by norm_num)]
  congr 1
  push_cast
  ring

theorem mkRat_two_pow (n p : ℕ) : mkRat n (Nat.pow 2 p) = n * 2 ^ (-(p : ℤ)) := by
  rw [Rat.mkRat_eq_div, zpow_neg, zpow_natCast, div_eq_mul_inv, Nat.pow_eq]
  push_cast
  rfl

theorem magnitudeValue_of_lt {m : ℕ} (hm : m < 2 ^ 52) : magnitudeValue m = m * placeValue 0 := by
  have h₁ : m / Nat.pow 2 52 = 0 := Nat.div_eq_of_lt hm
  have h₂ : m % Nat.pow 2 52 = m := Nat.mod_eq_of_lt hm
  rw [magnitudeValue, if_pos h₁, h₂]
  generalize hp : 1074 = p
  rw [mkRat_two_pow, placeValue]
  congr 2
  omega

/-- A code in a block, from the second one on. -/
theorem magnitudeValue_block {k m : ℕ} (hm : 2 ^ 52 ≤ m) (hm' : m < 2 * 2 ^ 52) :
    magnitudeValue (k * 2 ^ 52 + m) = m * placeValue k := by
  have h₁ : (k * 2 ^ 52 + m) / Nat.pow 2 52 = k + 1 := by
    rw [Nat.pow_eq]; omega
  have h₂ : Nat.pow 2 52 + (k * 2 ^ 52 + m) % Nat.pow 2 52 = m := by
    rw [Nat.pow_eq]; omega
  rw [magnitudeValue, h₁, if_neg (Nat.succ_ne_zero k), ← Nat.cast_add, h₂, ← Nat.cast_mul]
  generalize hp : 1075 = p
  rw [mkRat_two_pow, placeValue, Nat.pow_eq]
  push_cast
  rw [mul_assoc, ← zpow_natCast, ← zpow_add₀ (by norm_num)]
  congr 2
  omega

theorem magnitudeValue_grid {k m : ℕ} (hm : m ≤ 2 * 2 ^ 52) (hk : k = 0 ∨ 2 ^ 52 ≤ m) :
    magnitudeValue (k * 2 ^ 52 + m) = m * placeValue k := by
  by_cases hlow : m < 2 ^ 52
  · obtain rfl : k = 0 := by omega
    rw [zero_mul, zero_add, magnitudeValue_of_lt hlow]
  · by_cases hhigh : m < 2 * 2 ^ 52
    · exact magnitudeValue_block (by omega) hhigh
    · -- the first number of the next block
      obtain rfl : m = 2 * 2 ^ 52 := by omega
      have hcode : k * 2 ^ 52 + 2 * 2 ^ 52 = (k + 1) * 2 ^ 52 + 2 ^ 52 := by ring
      rw [hcode, magnitudeValue_block le_rfl (by norm_num), placeValue_add]
      push_cast
      ring

/-- Every code is in a block. -/
theorem exists_block (n : ℕ) :
    ∃ k m, n = k * 2 ^ 52 + m ∧ m < 2 * 2 ^ 52 ∧ (k = 0 ∨ 2 ^ 52 ≤ m) := by
  by_cases hn : n < 2 ^ 52
  · exact ⟨0, n, by omega, by omega, .inl rfl⟩
  · exact ⟨n / 2 ^ 52 - 1, 2 ^ 52 + n % 2 ^ 52, by omega, by omega, .inr (by omega)⟩

theorem magnitudeValue_strictMono : StrictMono magnitudeValue := by
  refine strictMono_nat_of_lt_succ fun n => ?_
  obtain ⟨k, m, rfl, hm, hk⟩ := exists_block n
  rw [magnitudeValue_grid hm.le hk, add_assoc, magnitudeValue_grid hm (by omega)]
  push_cast
  exact mul_lt_mul_of_pos_right (by linarith) (placeValue_pos k)

theorem magnitudeValue_nonneg (n : ℕ) : 0 ≤ magnitudeValue n := by
  obtain ⟨k, m, rfl, hm, hk⟩ := exists_block n
  rw [magnitudeValue_grid hm.le hk]
  exact mul_nonneg (Nat.cast_nonneg m) (placeValue_pos k).le

/-- Counted in units of a higher block, a number of a lower block has no 53 binary digits. -/
theorem exists_below (j i : ℕ) {t : ℕ} (ht : t < 2 * 2 ^ 52) :
    ∃ y : ℚ, t * placeValue j = y * placeValue (j + i + 1) ∧ y < 2 ^ 52 := by
  refine ⟨t / 2 ^ (i + 1), ?_, ?_⟩
  · rw [add_assoc, placeValue_add, div_mul_eq_mul_div, eq_div_iff (by positivity)]
    ring
  · have ht' : (t : ℚ) < 2 * 2 ^ 52 := by exact_mod_cast ht
    have hone : (1 : ℚ) ≤ 2 ^ i := one_le_pow₀ (by norm_num)
    rw [div_lt_iff₀ (by positivity), pow_succ (2 : ℚ) i]
    linarith

/-- The middle between a code and the next one. -/
def midpoint (n : ℕ) : ℚ := (magnitudeValue n + magnitudeValue (n + 1)) / 2

theorem midpoint_block {k m : ℕ} (hm : m < 2 * 2 ^ 52) (hk : k = 0 ∨ 2 ^ 52 ≤ m) :
    midpoint (k * 2 ^ 52 + m) = (2 * m + 1) * (placeValue k / 2) := by
  rw [midpoint, magnitudeValue_grid hm.le hk, add_assoc, magnitudeValue_grid hm (by omega)]
  push_cast
  ring

theorem placeValue_half (k : ℕ) : placeValue k / 2 = 2 ^ ((k : ℤ) - 1075) := by
  rw [placeValue, div_eq_mul_inv, ← zpow_sub_one₀ (by norm_num)]
  congr 1
  ring

theorem midpoint_zero : midpoint 0 = 2 ^ (-1075 : ℤ) := by
  have h := midpoint_block (k := 0) (m := 0) (by norm_num) (.inl rfl)
  rw [zero_mul, zero_add, placeValue_half] at h
  simpa using h

theorem midpoint_last : midpoint (infinityCode - 1) = 2 ^ 1024 - 2 ^ 970 := by
  have hcode : infinityCode - 1 = 2045 * 2 ^ 52 + (2 ^ 53 - 1) := by decide
  have hplace : placeValue 2045 / 2 = 2 ^ 970 := placeValue_half 2045
  have hpow : (2 : ℚ) ^ 1024 = 2 ^ 54 * 2 ^ 970 := by rw [← pow_add]
  rw [hcode, midpoint_block (by norm_num) (by norm_num), hplace, hpow]
  generalize (2 : ℚ) ^ 970 = x
  norm_num
  ring

theorem smallest_lt_last : (2 : ℚ) ^ (-1075 : ℤ) < 2 ^ 1024 - 2 ^ 970 := by
  rw [← midpoint_zero, ← midpoint_last, midpoint, midpoint]
  have h₀ : magnitudeValue 0 < magnitudeValue (infinityCode - 1) :=
    magnitudeValue_strictMono (by decide)
  have h₁ : magnitudeValue (0 + 1) < magnitudeValue (infinityCode - 1 + 1) :=
    magnitudeValue_strictMono (by decide)
  linarith

end PinnedRun.Numeric
