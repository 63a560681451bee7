import FocusDrive.Proofs.Profile.Pass
import FocusDrive.Proofs.Word
import Mathlib.Tactic.WLOG

/-!
# The control law

What the profile program commands, said over the integers: `brakingDistance`, `limitedSpeed` and
`commandedSpeed` are the law with unbounded numbers and truncating division, and `toInt_commandWord`
says that the words which the program computes are these integers.

## Where the bounds come from

The only intermediate result that could leave the words is the doubled blend. A speed `v` and its
braking distance differ by at most `946` for the speeds that an axis accepts
(`abs_sub_brakingDistance`), so a distance of at most `2 ^ 30 - 1000` leaves room for the doubling.

The same bound settles the replacement of a speed `0`. The blend vanishes only if the distance is
within one count of the excess of the braking distance over the speed, and so the distance that is
commanded instead lies within the limit.

Beyond the largest distance the program still computes something, and `toInt_commandWord_eq` says
what: the law with its doubled blend reduced to a word. The law itself is the case in which there is
nothing to reduce (`wrappedSpeed_of_abs_le`).
-/

namespace FocusDrive

namespace Profile

/-! ### The law -/

/-- The braking distance at speed `v`, signed like `v`. -/
def brakingDistance (v : ℤ) : ℤ := v.sign * (v * v).tdiv 1400

/-- The blend of the speed `v` with the distance `d` less the braking distance, within the limit. -/
def limitedSpeed (v d : ℤ) : ℤ :=
  max (-2000) (min 2000 (((v + (d - brakingDistance v)) * 2).tdiv 3))

/-- The speed that the program commands at speed `v` and distance `d`. -/
def commandedSpeed (v d : ℤ) : ℤ := if limitedSpeed v d = 0 then d else limitedSpeed v d

/-- The largest distance for which the program's arithmetic is exact. -/
def maxDistance : ℤ := 2 ^ 30 - 1000

theorem brakingDistance_of_nonneg {v : ℤ} (hv : 0 ≤ v) :
    brakingDistance v = (v * v).tdiv 1400 := by
  rcases hv.eq_or_lt with rfl | hv
  · rfl
  · rw [brakingDistance, Int.sign_eq_one_of_pos hv, one_mul]

theorem brakingDistance_neg (v : ℤ) : brakingDistance (-v) = -brakingDistance v := by
  rw [brakingDistance, brakingDistance, Int.sign_neg, neg_mul_neg, neg_mul]

/-- The law is odd, since the division truncates toward zero. -/
theorem limitedSpeed_neg (v d : ℤ) : limitedSpeed (-v) (-d) = -limitedSpeed v d := by
  have hsum : (-v + (-d - brakingDistance (-v))) * 2 = -((v + (d - brakingDistance v)) * 2) := by
    rw [brakingDistance_neg]
    omega
  rw [limitedSpeed, limitedSpeed, hsum, Int.neg_tdiv]
  omega

/-- The law does not prefer a direction. -/
theorem commandedSpeed_neg (v d : ℤ) : commandedSpeed (-v) (-d) = -commandedSpeed v d := by
  rw [commandedSpeed, commandedSpeed, limitedSpeed_neg]
  split <;> split <;> omega

/-! ### Bounds -/

/-- The braking distance of a nonnegative speed, as inequalities. -/
theorem mul_brakingDistance {v : ℤ} (hv : 0 ≤ v) :
    0 ≤ brakingDistance v ∧ 1400 * brakingDistance v ≤ v * v ∧
      v * v < 1400 * brakingDistance v + 1400 := by
  rw [brakingDistance_of_nonneg hv]
  exact Word.tdiv_of_nonneg (by norm_num) (mul_self_nonneg v)

/-- In range a speed and its braking distance are never far apart. -/
theorem abs_sub_brakingDistance {v : ℤ} (hv : |v| ≤ 2047) : |v - brakingDistance v| ≤ 946 := by
  wlog hpos : 0 ≤ v generalizing v
  · have hneg := this (v := -v) (by rwa [abs_neg]) (by omega)
    rwa [brakingDistance_neg, ← neg_sub', abs_neg] at hneg
  obtain ⟨-, hlo, hhi⟩ := mul_brakingDistance hpos
  rw [abs_le] at hv ⊢
  constructor
  · -- `v * v - 1400 * v` rises beyond `700`, so it is largest at `2047`
    nlinarith [mul_nonneg (sub_nonneg.mpr hv.2) (by linarith : (0 : ℤ) ≤ v + 647)]
  · nlinarith [mul_self_nonneg (v - 700)]

/-- The speed limit holds for every speed and distance. -/
theorem abs_limitedSpeed (v d : ℤ) : |limitedSpeed v d| ≤ 2000 := by
  rw [limitedSpeed, abs_le]
  omega

/-- A blend that vanishes comes from a small distance. -/
theorem abs_le_of_limitedSpeed_eq_zero {v d : ℤ} (hv : |v| ≤ 2047) (h : limitedSpeed v d = 0) :
    |d| ≤ 947 := by
  have hbrake := abs_le.mp (abs_sub_brakingDistance hv)
  have hblend : ((v + (d - brakingDistance v)) * 2).tdiv 3 = 0 := by
    rw [limitedSpeed] at h
    omega
  rw [abs_le]
  rcases le_total 0 ((v + (d - brakingDistance v)) * 2) with hsum | hsum
  · have hq := Word.tdiv_of_nonneg (k := 3) (by norm_num) hsum
    omega
  · have hq := Word.tdiv_of_nonpos (k := 3) (by norm_num) hsum
    omega

/-- The replacement for a zero speed is within the limit too, because then the distance is short. -/
theorem abs_commandedSpeed {v : ℤ} (hv : |v| ≤ 2047) (d : ℤ) : |commandedSpeed v d| ≤ 2000 := by
  rw [commandedSpeed]
  split
  · rename_i h
    exact (abs_le_of_limitedSpeed_eq_zero hv h).trans (by norm_num)
  · exact abs_limitedSpeed v d

/-- Away from the target the command is not standstill. -/
theorem commandedSpeed_ne_zero (v : ℤ) {d : ℤ} (hd : d ≠ 0) : commandedSpeed v d ≠ 0 := by
  rw [commandedSpeed]
  split
  · exact hd
  · assumption

/-! ### The words of the program -/

/-- The two multiplications and the division do not wrap around in range. -/
theorem toInt_brakingWord {v : Int32} (hv : |v.toInt| ≤ 2047) :
    (brakingWord v v).toInt = brakingDistance v.toInt := by
  have hbound := abs_le.mp hv
  have hsq : v.toInt * v.toInt ≤ 2047 * 2047 := by nlinarith
  have hsquare : (v * v).toInt = v.toInt * v.toInt :=
    Word.toInt_mul (by nlinarith [mul_self_nonneg v.toInt]) (by omega)
  have hquot : (v * v / decelerationDivisor).toInt = (v.toInt * v.toInt).tdiv 1400 := by
    rw [Word.toInt_div (by decide), hsquare]
    rfl
  rw [brakingWord]
  split
  · rename_i h
    rw [hquot, brakingDistance_of_nonneg (Int32.le_iff_toInt_le.mp h)]
  · rename_i h
    have hneg : v.toInt < 0 := Int32.lt_iff_toInt_lt.mp (Int32.not_le.mp h)
    have hone : (-1 : Int32).toInt = -1 := by decide
    have hrange := Word.tdiv_of_nonneg (k := 1400) (by norm_num) (mul_self_nonneg v.toInt)
    rw [Word.toInt_mul, hquot, hone, brakingDistance, Int.sign_eq_neg_one_of_neg hneg, mul_comm]
    · rw [hquot, hone]
      omega
    · rw [hquot, hone]
      omega

/-- The doubled blend as the program holds it, at any distance. -/
def doubledBlend (v d : ℤ) : ℤ := ((v + (d - brakingDistance v)) * 2).bmod (2 ^ 32)

/-- The limited speed as the program computes it, at any distance. -/
def wrappedSpeed (v d : ℤ) : ℤ := max (-2000) (min 2000 ((doubledBlend v d).tdiv 3))

/-- The sum and the doubling wrap around; what is left is divided. -/
theorem toInt_blendWord {v : Int32} (hv : |v.toInt| ≤ 2047) (d : Int32) :
    (blendWord v (d - brakingWord v v)).toInt = (doubledBlend v.toInt d.toInt).tdiv 3 := by
  have htwo : (2 : Int32).toInt = 2 := by decide
  have hthree : (3 : Int32).toInt = 3 := by decide
  rw [blendWord, Word.toInt_div (by decide), hthree, Int32.toInt_mul, htwo, Int32.toInt_add,
    Int32.toInt_sub, toInt_brakingWord hv, Int.add_bmod_bmod, Int.bmod_mul_bmod, doubledBlend]

theorem toInt_limitWord {v : Int32} (hv : |v.toInt| ≤ 2047) (d : Int32) :
    (limitWord (blendWord v (d - brakingWord v v))).toInt = wrappedSpeed v.toInt d.toInt := by
  rw [limitWord, Bounds.toInt_clamp (by decide), toInt_blendWord hv]
  rfl

/-- What the program commands, at any distance. -/
theorem toInt_commandWord_eq {v : Int32} (hv : |v.toInt| ≤ 2047) (d : Int32) :
    (commandWord v d).toInt =
      if wrappedSpeed v.toInt d.toInt = 0 then d.toInt else wrappedSpeed v.toInt d.toInt := by
  have hzero : limitWord (blendWord v (d - brakingWord v v)) = 0 ↔
      wrappedSpeed v.toInt d.toInt = 0 := by
    rw [← toInt_limitWord hv, ← Int32.toInt_inj]
    rfl
  rw [commandWord]
  by_cases h : wrappedSpeed v.toInt d.toInt = 0
  · rw [if_pos (hzero.mpr h), if_pos h]
  · rw [if_neg (mt hzero.mp h), if_neg h, toInt_limitWord hv]

/-- Within the largest distance the doubling is exact. -/
theorem wrappedSpeed_of_abs_le {v d : ℤ} (hv : |v| ≤ 2047) (hd : |d| ≤ maxDistance) :
    wrappedSpeed v d = limitedSpeed v d := by
  have hdiff := abs_le.mp (abs_sub_brakingDistance hv)
  have hdist := abs_le.mp hd
  rw [maxDistance] at hdist
  have hexact : doubledBlend v d = (v + (d - brakingDistance v)) * 2 :=
    Int.bmod_eq_of_le (by omega) (by omega)
  rw [wrappedSpeed, hexact, limitedSpeed]

/-- Near the target nothing wraps around, so that the words follow the law. -/
theorem toInt_commandWord {v d : Int32} (hv : |v.toInt| ≤ 2047) (hd : |d.toInt| ≤ maxDistance) :
    (commandWord v d).toInt = commandedSpeed v.toInt d.toInt := by
  rw [toInt_commandWord_eq hv, wrappedSpeed_of_abs_le hv hd, commandedSpeed]

end Profile

end FocusDrive
