import FocusDrive.Motor
import FocusDrive.Proofs.Word

/-!
# The motor over the integers

`Motor.update` computes with words. The lemmas here give every quantity of an update as an integer,
under any settings: a speed that an axis accepts stays one (`abs_nextSpeed`), so the travel of a
tick is far from the ends of the words and only the encoder can wrap.

The carried travel needs no assumption at all. It is a remainder of a division by `speedPerCount`,
whatever the motor did before (`abs_carry_update`).
-/

namespace FocusDrive

namespace Motor

/-! ### Settings and commands -/

/-- Clamping between opposite bounds, in integers. -/
theorem toInt_clamp_symmetric {b : Int32} (hb : 0 ≤ b.toInt) (v : Int32) :
    ((Bounds.symmetric b).clamp v).toInt = max (-b.toInt) (min b.toInt v.toInt) := by
  have hneg : (-b).toInt = -b.toInt := Word.toInt_neg (by omega)
  have hle : -b ≤ b := by
    rw [Int32.le_iff_toInt_le]
    omega
  rw [Bounds.symmetric, Bounds.toInt_clamp (b := ⟨-b, b⟩) hle, hneg]

/-- A commanded speed that the axis accepts is stored as it is. -/
theorem toInt_setTargetSpeed (m : Motor) {v : Int32} (h : |v.toInt| ≤ 2047) :
    (m.setTargetSpeed v).targetSpeed.toInt = v.toInt := by
  have hmax : maxSpeed.toInt = 2047 := by decide
  have hv := abs_le.mp h
  rw [setTargetSpeed, toInt_clamp_symmetric (by decide), hmax]
  omega

theorem toInt_step_eq (a : Int32) : (step a).toInt = max 1 (a.toInt.tdiv 100) := by
  have hquot : (a / accelerationScale).toInt = a.toInt.tdiv 100 := Word.toInt_div (by decide) a
  have hone : (1 : Int32).toInt = 1 := by decide
  simp only [step, Int32.lt_iff_toInt_lt]
  split
  · omega
  · omega

/-- A step is positive, and small enough for all sums that it enters. -/
theorem toInt_step (a : Int32) : 1 ≤ (step a).toInt ∧ (step a).toInt ≤ 21474836 := by
  have hbound := Word.bounds a
  have hle : a.toInt.tdiv 100 ≤ 21474836 := by
    rcases le_total 0 a.toInt with h | h
    · have := Word.tdiv_of_nonneg (k := 100) (by norm_num) h
      omega
    · have := Word.tdiv_of_nonpos (k := 100) (by norm_num) h
      omega
  rw [toInt_step_eq]
  omega

theorem toInt_limit_eq (s : Int32) : (limit s).toInt = max 0 (min 2047 s.toInt) := by
  have hzero : (0 : Int32).toInt = 0 := by decide
  have hmax : maxSpeed.toInt = 2047 := by decide
  rw [limit, Bounds.toInt_clamp (by decide), hzero, hmax]

/-- A limit is a speed that an axis can have. -/
theorem toInt_limit (s : Int32) : 0 ≤ (limit s).toInt ∧ (limit s).toInt ≤ 2047 := by
  rw [toInt_limit_eq]
  omega

/-! ### The parts of an update -/

section Update

variable (m : Motor) (s a : Int32)

@[simp] theorem targetSpeed_update : (m.update s a).targetSpeed = m.targetSpeed := by
  rw [update]

@[simp] theorem actualSpeed_update : (m.update s a).actualSpeed = m.nextSpeed s a := by
  rw [update]

@[simp] theorem encoder_update : (m.update s a).encoder = m.encoder + m.counts s a := by
  rw [update]

end Update

/-! ### Speed -/

/-- One tick of a ramp: the speed `a` moved toward `wanted`, by at most `step`. -/
def ramp (step wanted a : ℤ) : ℤ := a + max (-step) (min step (wanted - a))

/-- Ramps toward opposite speeds are each other's negatives. -/
theorem ramp_neg {step : ℤ} (h : 0 ≤ step) (wanted a : ℤ) :
    ramp step (-wanted) (-a) = -ramp step wanted a := by
  rw [ramp, ramp]
  omega

variable (m : Motor) (s a : Int32)

theorem toInt_wanted :
    (m.wanted s).toInt = max (-(limit s).toInt) (min (limit s).toInt m.targetSpeed.toInt) :=
  toInt_clamp_symmetric (toInt_limit s).1 _

/-- The speed that the motor ramps toward is one that an axis can have. -/
theorem abs_wanted : |(m.wanted s).toInt| ≤ 2047 := by
  have hlimit := toInt_limit s
  rw [toInt_wanted, abs_le]
  omega

variable {m}

/-- The difference of the two speeds fits in a word. -/
theorem toInt_difference (h : |m.actualSpeed.toInt| ≤ 2047) :
    (m.wanted s - m.actualSpeed).toInt = (m.wanted s).toInt - m.actualSpeed.toInt := by
  have hw := abs_le.mp (abs_wanted m s)
  have ha := abs_le.mp h
  exact Word.toInt_sub (by omega) (by omega)

/-- The words compute the ramp of the integers. -/
theorem toInt_nextSpeed (h : |m.actualSpeed.toInt| ≤ 2047) :
    (m.nextSpeed s a).toInt = ramp (step a).toInt (m.wanted s).toInt m.actualSpeed.toInt := by
  have hw := abs_le.mp (abs_wanted m s)
  have ha := abs_le.mp h
  have hstep := toInt_step a
  have hdiff := toInt_difference s h
  have hdelta := toInt_clamp_symmetric (b := step a) (by omega) (m.wanted s - m.actualSpeed)
  rw [nextSpeed, ramp, Word.toInt_add, hdelta, hdiff]
  · rw [hdelta, hdiff]
    omega
  · rw [hdelta, hdiff]
    omega

/-- The next speed lies between the current one and the wanted one. -/
theorem abs_nextSpeed (h : |m.actualSpeed.toInt| ≤ 2047) : |(m.nextSpeed s a).toInt| ≤ 2047 := by
  have hw := abs_le.mp (abs_wanted m s)
  have ha := abs_le.mp h
  have hstep := toInt_step a
  rw [toInt_nextSpeed s a h, ramp, abs_le]
  omega

/-! ### Travel -/

/-- The travel fits in a word. -/
theorem toInt_travel (h : |m.actualSpeed.toInt| ≤ 2047) (hc : |m.carry.toInt| < 64) :
    (m.travel s a).toInt = m.carry.toInt + (m.nextSpeed s a).toInt := by
  have hnext := abs_le.mp (abs_nextSpeed s a h)
  rw [abs_lt] at hc
  exact Word.toInt_add (by omega) (by omega)

theorem toInt_counts : (m.counts s a).toInt = (m.travel s a).toInt.tdiv 64 :=
  Word.toInt_div (by decide) _

/-- The whole counts of a travel lie between `0` and the travel, and less than one is left over. -/
theorem tdiv_speedPerCount (n : ℤ) :
    min 0 n ≤ 64 * n.tdiv 64 ∧ 64 * n.tdiv 64 ≤ max 0 n ∧ |n - 64 * n.tdiv 64| < 64 := by
  rw [abs_lt]
  rcases le_total 0 n with h | h
  · have hq := Word.tdiv_of_nonneg (k := 64) (by norm_num) h
    omega
  · have hq := Word.tdiv_of_nonpos (k := 64) (by norm_num) h
    omega

/-- The travel of the whole counts. -/
theorem toInt_counted :
    (m.counts s a * speedPerCount).toInt = 64 * (m.travel s a).toInt.tdiv 64 := by
  have hscale : speedPerCount.toInt = 64 := by decide
  have htravel := Word.bounds (m.travel s a)
  obtain ⟨hlo, hhi, -⟩ := tdiv_speedPerCount (m.travel s a).toInt
  rw [Word.toInt_mul, toInt_counts, hscale, mul_comm]
  all_goals
    rw [toInt_counts, hscale]
    omega

/-- What an update carries is what its travel leaves over. -/
theorem toInt_carry_update :
    (m.update s a).carry.toInt =
      (m.travel s a).toInt - 64 * (m.travel s a).toInt.tdiv 64 := by
  have htravel := Word.bounds (m.travel s a)
  obtain ⟨hlo, hhi, hrest⟩ := tdiv_speedPerCount (m.travel s a).toInt
  rw [abs_lt] at hrest
  have hmul := toInt_counted (m := m) s a
  show (m.travel s a - m.counts s a * speedPerCount).toInt = _
  rw [Word.toInt_sub, hmul]
  all_goals
    rw [hmul]
    omega

/-- As long as the count does not wrap, it counts. -/
theorem toInt_encoder_update (lo : -2147483648 ≤ m.encoder.toInt + (m.counts s a).toInt)
    (hi : m.encoder.toInt + (m.counts s a).toInt ≤ 2147483647) :
    (m.update s a).encoder.toInt = m.encoder.toInt + (m.counts s a).toInt :=
  Word.toInt_add lo hi

/-- What is carried is the remainder of a division, and hence below one count. -/
theorem abs_carry_update : |(m.update s a).carry.toInt| < 64 := by
  rw [toInt_carry_update]
  exact (tdiv_speedPerCount _).2.2

/-! ### Rest -/

/-- The motor neither turns nor is commanded to. -/
structure IsAtRest (m : Motor) : Prop where
  /-- No speed is commanded. -/
  targetSpeed : m.targetSpeed = 0
  /-- The motor does not turn. -/
  actualSpeed : m.actualSpeed = 0
  /-- Less than one count is carried. -/
  abs_carry : |m.carry.toInt| < 64

/-- A motor that is stopped rests, whatever it carries. -/
theorem isAtRest_stop (h : |m.carry.toInt| < 64) : m.stop.IsAtRest := ⟨rfl, rfl, h⟩

namespace IsAtRest

/-- A motor at rest stays at rest. -/
theorem nextSpeed_eq_zero (h : m.IsAtRest) : m.nextSpeed s a = 0 := by
  have hzero : (0 : Int32).toInt = 0 := by decide
  have hlimit := toInt_limit s
  have hstep := toInt_step a
  have hactual : m.actualSpeed.toInt = 0 := by rw [h.actualSpeed, hzero]
  have hwanted : (m.wanted s).toInt = 0 := by
    rw [toInt_wanted, h.targetSpeed, hzero]
    omega
  rw [← Int32.toInt_inj, toInt_nextSpeed s a (by rw [hactual]; decide), hwanted, hactual, ramp,
    hzero]
  omega

/-- A motor at rest stays as it is. -/
theorem update (h : m.IsAtRest) : m.update s a = m := by
  have htravel : m.travel s a = m.carry := by
    rw [travel, h.nextSpeed_eq_zero, Int32.add_zero]
  have hcounts : m.counts s a = 0 := by
    have hzero : (0 : Int32).toInt = 0 := by decide
    rw [← Int32.toInt_inj, toInt_counts, htravel, hzero]
    -- what is carried is less than a count
    have hcarry := abs_lt.mp h.abs_carry
    obtain ⟨hlo, hhi, -⟩ := tdiv_speedPerCount m.carry.toInt
    omega
  rw [Motor.update, h.nextSpeed_eq_zero, htravel, hcounts, Int32.zero_mul, Int32.sub_zero,
    Int32.add_zero, ← h.actualSpeed]

end IsAtRest

end Motor

end FocusDrive
