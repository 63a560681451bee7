import FocusDrive.Bounds
import Mathlib.Algebra.Order.Ring.Int
import Mathlib.Tactic.Linarith

/-!
# Words and the integers they stand for

The module computes with 32-bit words that wrap; what it is meant to compute is said over the
integers. The lemmas here cross from one to the other: an operation whose exact result is a word
gives that result. The range is written out in numerals, so that `omega` can discharge it from
bounds on the operands. Where there is no such bound, the result is what the words make of the exact
one, which is `Int.bmod`.

Division needs no range. Its only wrapping case is a division by `-1`, and the divisors of this
library are positive constants.
-/

namespace FocusDrive

namespace Word

/-- A sum that fits in a word is exact. -/
theorem toInt_add {a b : Int32} (lo : -2147483648 ≤ a.toInt + b.toInt)
    (hi : a.toInt + b.toInt ≤ 2147483647) : (a + b).toInt = a.toInt + b.toInt := by
  rw [Int32.toInt_add]
  exact Int.bmod_eq_of_le (by omega) (by omega)

theorem toInt_sub {a b : Int32} (lo : -2147483648 ≤ a.toInt - b.toInt)
    (hi : a.toInt - b.toInt ≤ 2147483647) : (a - b).toInt = a.toInt - b.toInt := by
  rw [Int32.toInt_sub]
  exact Int.bmod_eq_of_le (by omega) (by omega)

/-- A product that fits in a word is exact. -/
theorem toInt_mul {a b : Int32} (lo : -2147483648 ≤ a.toInt * b.toInt)
    (hi : a.toInt * b.toInt ≤ 2147483647) : (a * b).toInt = a.toInt * b.toInt := by
  rw [Int32.toInt_mul]
  exact Int.bmod_eq_of_le (by omega) (by omega)

/-- Division by a positive word truncates, and it never overflows. -/
theorem toInt_div {b : Int32} (hb : 0 < b.toInt) (a : Int32) :
    (a / b).toInt = a.toInt.tdiv b.toInt := by
  refine Int32.toInt_div_of_ne_right a b fun h ↦ ?_
  rw [h] at hb
  exact absurd hb (by decide)

/-- Negation is exact on all words but the least. -/
theorem toInt_neg {a : Int32} (h : -2147483648 < a.toInt) : (-a).toInt = -a.toInt := by
  rw [Int32.toInt_neg]
  have hlt := a.toInt_lt
  exact Int.bmod_eq_of_le (by omega) (by omega)

/-- What the words make of an integer differs from it by a multiple of their number. -/
theorem exists_bmod (x : ℤ) : ∃ k : ℤ, x.bmod (2 ^ 32) = x - 4294967296 * k ∧
    -2147483648 ≤ x.bmod (2 ^ 32) ∧ x.bmod (2 ^ 32) ≤ 2147483647 := by
  have hlo : -(((2 ^ 32 : ℕ) : ℤ) / 2) ≤ x.bmod (2 ^ 32) := Int.le_bmod (by norm_num)
  have hhi : x.bmod (2 ^ 32) < (((2 ^ 32 : ℕ) : ℤ) + 1) / 2 := Int.bmod_lt (by norm_num)
  refine ⟨x.bdiv (2 ^ 32), Int.bmod_eq_self_sub_mul_bdiv x (2 ^ 32), ?_, ?_⟩
  · omega
  · omega

/-- The range of words. -/
theorem bounds (a : Int32) : -2147483648 ≤ a.toInt ∧ a.toInt ≤ 2147483647 := by
  have hle := a.le_toInt
  have hlt := a.toInt_lt
  omega

/-! ### Differences in 64 bits -/

/-- The difference of two words is exact in 64 bits. -/
theorem toInt_sub_toInt64 (a b : Int32) : (a.toInt64 - b.toInt64).toInt = a.toInt - b.toInt := by
  obtain ⟨halo, hahi⟩ := bounds a
  obtain ⟨hblo, hbhi⟩ := bounds b
  rw [Int64.toInt_sub, Int32.toInt_toInt64, Int32.toInt_toInt64]
  exact Int.bmod_eq_of_le (by omega) (by omega)

/-- So is its absolute value, since the one number without an opposite is no such difference. -/
theorem toInt_abs_sub_toInt64 (a b : Int32) :
    (a.toInt64 - b.toInt64).abs.toInt = |a.toInt - b.toInt| := by
  obtain ⟨halo, hahi⟩ := bounds a
  obtain ⟨hblo, hbhi⟩ := bounds b
  have hdiff := toInt_sub_toInt64 a b
  have hne : (a.toInt64 - b.toInt64).toBitVec ≠ BitVec.intMin 64 := by
    intro hmin
    rw [← Int64.toInt_toBitVec, hmin, BitVec.toInt_intMin] at hdiff
    omega
  rw [← Int64.toInt_toBitVec, Int64.toBitVec_abs, BitVec.toInt_abs_eq_natAbs_of_ne_intMin hne,
    Int64.toInt_toBitVec, hdiff, Int.abs_eq_natAbs]

/-! ### Truncating division by a positive number -/

/-- Truncation of a number that is not negative rounds down. -/
theorem tdiv_of_nonneg {a k : ℤ} (hk : 0 < k) (ha : 0 ≤ a) :
    0 ≤ a.tdiv k ∧ k * a.tdiv k ≤ a ∧ a < k * a.tdiv k + k := by
  rw [Int.tdiv_eq_ediv_of_nonneg ha]
  have hdiv := Int.mul_ediv_add_emod a k
  have hlo := Int.emod_nonneg a hk.ne'
  have hhi := Int.emod_lt_of_pos a hk
  exact ⟨Int.ediv_nonneg ha hk.le, by omega, by omega⟩

/-- Truncation of a number that is not positive rounds up. -/
theorem tdiv_of_nonpos {a k : ℤ} (hk : 0 < k) (ha : a ≤ 0) :
    a.tdiv k ≤ 0 ∧ a ≤ k * a.tdiv k ∧ k * a.tdiv k - k < a := by
  obtain ⟨hq, hlo, hhi⟩ := tdiv_of_nonneg hk (neg_nonneg.mpr ha)
  rw [Int.neg_tdiv, mul_neg] at *
  omega

end Word

/-- Clamping, over the integers. -/
theorem Bounds.toInt_clamp {b : Bounds} (h : b.lo ≤ b.hi) (v : Int32) :
    (b.clamp v).toInt = max b.lo.toInt (min b.hi.toInt v.toInt) := by
  rw [Int32.le_iff_toInt_le] at h
  rw [Bounds.clamp]
  simp only [Int32.lt_iff_toInt_lt]
  split
  · omega
  · split <;> omega

end FocusDrive
