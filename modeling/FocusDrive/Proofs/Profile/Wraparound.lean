import FocusDrive.Proofs.Profile.ControlLaw

/-!
# The control law at the ends of the words

The program doubles its blend before it divides by three. A distance of `2 ^ 30` or more leaves no
room for that, and then the doubled blend has little to do with the distance. The doubling forgets
multiples of `2 ^ 31`, so a blend counts as much as what is left of it when the nearest of them is
taken away.

* If nothing is left but one count, the speed vanishes and the program commands the distance in its
  place. At an even multiple the distance is small, as it is in the law
  (`abs_bmod_le_of_wrappedSpeed_eq_zero`). At an odd one it is almost as large as a word can be
  (`Vanishes.le_abs_bmod`), and these few blends are the only ones at which the program exceeds its
  limit.
* From rest the blend is the distance. What is left of it has its sign up to `2 ^ 30` and the other
  sign from there on (`sign_wrappedCommand`).
-/

namespace FocusDrive

namespace Profile

variable {v d : ℤ}

/-- What the program commands at speed `v` and at the distance `d`, of which it has only what the
words make of it. -/
def wrappedCommand (v d : ℤ) : ℤ :=
  if wrappedSpeed v d = 0 then d.bmod (2 ^ 32) else wrappedSpeed v d

/-- The doubled blend does not tell a distance from what the words make of it. -/
theorem doubledBlend_bmod (v d : ℤ) : doubledBlend v (d.bmod (2 ^ 32)) = doubledBlend v d := by
  rw [doubledBlend, doubledBlend, ← Int.bmod_mul_bmod, ← Int.add_bmod_bmod, Int.bmod_sub_bmod,
    Int.add_bmod_bmod, Int.bmod_mul_bmod]

/-- The wrapped speed depends on the distance modulo the word size only. -/
theorem wrappedSpeed_bmod (v d : ℤ) : wrappedSpeed v (d.bmod (2 ^ 32)) = wrappedSpeed v d := by
  rw [wrappedSpeed, wrappedSpeed, doubledBlend_bmod]

/-- The limited speed has the sign of the doubled blend, unless the division takes it away. -/
theorem wrappedSpeed_cases (v d : ℤ) :
    3 ≤ doubledBlend v d ∧ 0 < wrappedSpeed v d ∨ doubledBlend v d ≤ -3 ∧ wrappedSpeed v d < 0 ∨
      |doubledBlend v d| ≤ 2 ∧ wrappedSpeed v d = 0 := by
  rw [wrappedSpeed, abs_le]
  rcases le_total 0 (doubledBlend v d) with h | h
  · have hq := Word.tdiv_of_nonneg (k := 3) (by norm_num) h
    omega
  · have hq := Word.tdiv_of_nonpos (k := 3) (by norm_num) h
    omega

/-- The wrapped speed vanishes where the doubled blend is too small for the division. -/
theorem wrappedSpeed_eq_zero_iff : wrappedSpeed v d = 0 ↔ |doubledBlend v d| ≤ 2 := by
  rw [abs_le]
  rcases wrappedSpeed_cases v d with h | h | h
  · omega
  · omega
  · rw [abs_le] at h
    omega

/-- The limit is applied after the wrap-around. -/
theorem abs_wrappedSpeed (v d : ℤ) : |wrappedSpeed v d| ≤ 2000 := by
  rw [wrappedSpeed, abs_le]
  omega

/-- A speed is commanded for every distance that the registers can hold, unless it is `0`. -/
theorem wrappedCommand_ne_zero (v : ℤ) (hd : d ≠ 0) (hlt : |d| < 2 ^ 32) :
    wrappedCommand v d ≠ 0 := by
  rw [abs_lt] at hlt
  obtain ⟨k, hk, -, -⟩ := Word.exists_bmod d
  rw [wrappedCommand]
  split
  · omega
  · assumption

/-! ### The limit -/

/-- The blend is within one count of `2 ^ 31` or of its negative, so that the division by three
leaves nothing of it. -/
def Vanishes (v d : ℤ) : Prop :=
  2 ^ 31 - 1 ≤ |v + (d - brakingDistance v)| ∧ |v + (d - brakingDistance v)| ≤ 2 ^ 31 + 1

/-- The two intervals that the absolute value stands for. -/
theorem vanishes_iff : Vanishes v d ↔
    2 ^ 31 - 1 ≤ v + (d - brakingDistance v) ∧ v + (d - brakingDistance v) ≤ 2 ^ 31 + 1 ∨
      -2 ^ 31 - 1 ≤ v + (d - brakingDistance v) ∧ v + (d - brakingDistance v) ≤ -2 ^ 31 + 1 := by
  rw [Vanishes, le_abs, abs_le]
  omega

theorem Vanishes.wrappedSpeed_eq_zero (h : Vanishes v d) : wrappedSpeed v d = 0 := by
  obtain ⟨k, hk, hlo, hhi⟩ := Word.exists_bmod ((v + (d - brakingDistance v)) * 2)
  rw [vanishes_iff] at h
  rw [wrappedSpeed_eq_zero_iff, doubledBlend, abs_le]
  omega

/-- Where the blend vanishes, the word of the distance is beyond every speed. -/
theorem Vanishes.le_abs_bmod (h : Vanishes v d) (hv : |v| ≤ 2047) :
    2047 ≤ |d.bmod (2 ^ 32)| := by
  have hdiff := abs_le.mp (abs_sub_brakingDistance hv)
  obtain ⟨k, hk, hlo, hhi⟩ := Word.exists_bmod d
  rw [vanishes_iff] at h
  rw [le_abs]
  omega

/-- Elsewhere a speed that vanishes comes from a small distance, or from one that the words make
small. -/
theorem abs_bmod_le_of_wrappedSpeed_eq_zero (hv : |v| ≤ 2047) (hd : |d| < 2 ^ 32)
    (hzero : wrappedSpeed v d = 0) (h : ¬Vanishes v d) : |d.bmod (2 ^ 32)| ≤ 947 := by
  have hdiff := abs_le.mp (abs_sub_brakingDistance hv)
  have hdist := abs_lt.mp hd
  obtain ⟨l, hl, -, -⟩ := Word.exists_bmod ((v + (d - brakingDistance v)) * 2)
  have hblend := abs_le.mp (wrappedSpeed_eq_zero_iff.mp hzero)
  rw [doubledBlend, hl] at hblend
  -- the blend is at most one count from the `l`-th multiple of `2 ^ 31`, and `l` is even
  have heven : l = -2 ∨ l = 0 ∨ l = 2 := by
    rw [vanishes_iff] at h
    omega
  obtain ⟨k, hk, hlo, hhi⟩ := Word.exists_bmod d
  rw [abs_le]
  omega

/-- **The limit is kept except where the blend vanishes**, and there the speed is beyond every speed
that an axis has. -/
theorem abs_wrappedCommand (hv : |v| ≤ 2047) (hd : |d| < 2 ^ 32) :
    (¬Vanishes v d → |wrappedCommand v d| ≤ 2000) ∧
      (Vanishes v d → 2047 ≤ |wrappedCommand v d|) := by
  rw [wrappedCommand]
  constructor
  · intro h
    split
    next hzero => exact (abs_bmod_le_of_wrappedSpeed_eq_zero hv hd hzero h).trans (by norm_num)
    next => exact abs_wrappedSpeed v d
  · intro h
    rw [if_pos h.wrappedSpeed_eq_zero]
    exact h.le_abs_bmod hv

/-! ### The direction from rest -/

/-- At rest the program turns the motor away from a target at this distance. -/
def TurnsAway (d : ℤ) : Prop := 2 ^ 30 ≤ d ∧ d ≤ 2 ^ 31 - 2 ∨ -2 ^ 31 + 2 ≤ d ∧ d < -2 ^ 30

/-- At rest the blend is the distance alone. -/
theorem doubledBlend_rest (d : ℤ) : doubledBlend 0 d = (d * 2).bmod (2 ^ 32) := by
  rw [doubledBlend, show brakingDistance 0 = 0 from rfl, sub_zero, zero_add]

/-- From rest the speed is positive for the positive distances that do not turn the motor away, and
for the negative ones that do. -/
theorem wrappedCommand_pos_iff (lo : -2 ^ 31 ≤ d) (hi : d ≤ 2 ^ 31 - 1) :
    0 < wrappedCommand 0 d ↔ (0 < d ↔ ¬TurnsAway d) := by
  have hword : d.bmod (2 ^ 32) = d := Int.bmod_eq_of_le (by omega) (by omega)
  obtain ⟨k, hk, hlo, hhi⟩ := Word.exists_bmod (d * 2)
  have hblend := wrappedSpeed_cases 0 d
  rw [doubledBlend_rest, abs_le] at hblend
  rw [wrappedCommand, hword, TurnsAway]
  split
  · omega
  · omega

/-- Two numbers other than `0` have the same sign if both are positive or neither is. -/
theorem sign_eq_sign {a b : ℤ} (ha : a ≠ 0) (hb : b ≠ 0) (h : 0 < a ↔ 0 < b) :
    a.sign = b.sign := by
  rcases lt_or_gt_of_ne ha with hneg | hpos
  · rw [Int.sign_eq_neg_one_of_neg hneg, Int.sign_eq_neg_one_of_neg (by omega)]
  · rw [Int.sign_eq_one_of_pos hpos, Int.sign_eq_one_of_pos (h.mp hpos)]

/-- The direction of the speed that is commanded from rest. -/
theorem sign_wrappedCommand (lo : -2 ^ 31 ≤ d) (hi : d ≤ 2 ^ 31 - 1) (hd : d ≠ 0) :
    (¬TurnsAway d → (wrappedCommand 0 d).sign = d.sign) ∧
      (TurnsAway d → (wrappedCommand 0 d).sign = -d.sign) := by
  have hne : wrappedCommand 0 d ≠ 0 := wrappedCommand_ne_zero 0 hd (by rw [abs_lt]; omega)
  have hpos := wrappedCommand_pos_iff lo hi
  constructor
  · intro h
    exact sign_eq_sign hne hd (by rw [hpos, iff_true_right h])
  · intro h
    have hflip : 0 < wrappedCommand 0 d ↔ 0 < -d := by
      rw [hpos, iff_false_right (not_not.mpr h)]
      omega
    rw [← Int.sign_neg]
    exact sign_eq_sign hne (neg_ne_zero.mpr hd) hflip

end Profile

end FocusDrive
