import FocusDrive.Proofs.Motor.Travel
import Mathlib.Algebra.Order.Floor.Div

/-!
# The ramp of the speed

Under fixed settings the speed ramps toward one wanted speed, whatever it was before. One tick moves
it by at most a step (`Motor.ramp`), and `n` ticks move it by `n` steps or all the way
(`rampAfter`). That the closed form is right is one equation, `ramp_rampAfter`: a tick takes the
speed after `n` ticks to the speed after `n + 1`. What it says about monotony and about the time of
arrival follows from the form alone (`Ramps`).

The speed may begin outside of the limit, for the limit may have been lowered while the motor
turned. Then it ramps back into it, step by step.
-/

namespace FocusDrive

namespace Motor

/-! ### Over the integers -/

/-- The speed `a` after `n` ticks of a ramp toward `wanted`. -/
def rampAfter (step wanted a : ℤ) (n : ℕ) : ℤ :=
  if |wanted - a| ≤ n * step then wanted else a + (wanted - a).sign * (n * step)

/-- The speeds of a ramp, tick by tick. -/
structure Ramps (step wanted : ℤ) (speed : ℕ → ℤ) : Prop where
  /-- The speed is the wanted one as soon as the steps suffice, and until then it has made all of
  its steps. -/
  eq : ∀ n, speed n = if |wanted - speed 0| ≤ n * step then wanted
    else speed 0 + (wanted - speed 0).sign * (n * step)
  /-- From below it rises, and never beyond the wanted speed. -/
  rises : speed 0 ≤ wanted → ∀ n, speed n ≤ speed (n + 1) ∧ speed (n + 1) ≤ wanted
  /-- From above it falls, and never beyond the wanted speed. -/
  falls : wanted ≤ speed 0 → ∀ n, wanted ≤ speed (n + 1) ∧ speed (n + 1) ≤ speed n
  /-- It is the wanted one from the tick on that the number of steps gives, and not before. -/
  arrives_iff : ∀ n, speed n = wanted ↔ (wanted - speed 0).natAbs ⌈/⌉ step.toNat ≤ n

section Ramp

variable {step wanted a : ℤ} {n : ℕ}

/-- A rise ends at the wanted speed. -/
theorem rampAfter_of_le (hstep : 0 ≤ step) (h : a ≤ wanted) (n : ℕ) :
    rampAfter step wanted a n = min wanted (a + n * step) := by
  have hsteps : 0 ≤ n * step := mul_nonneg n.cast_nonneg hstep
  rw [rampAfter, abs_of_nonneg (sub_nonneg.mpr h)]
  split
  next harrived => rw [min_eq_left (by omega)]
  next hunderway => rw [Int.sign_eq_one_of_pos (by omega), one_mul, min_eq_right (by omega)]

/-- A fall ends at the wanted speed. -/
theorem rampAfter_of_ge (hstep : 0 ≤ step) (h : wanted ≤ a) (n : ℕ) :
    rampAfter step wanted a n = max wanted (a - n * step) := by
  have hsteps : 0 ≤ n * step := mul_nonneg n.cast_nonneg hstep
  rw [rampAfter, abs_of_nonpos (sub_nonpos.mpr h)]
  split
  next harrived => rw [max_eq_left (by omega)]
  next hunderway =>
    rw [Int.sign_eq_neg_one_of_neg (by omega), neg_one_mul, ← sub_eq_add_neg,
      max_eq_right (by omega)]

theorem rampAfter_zero (hstep : 0 ≤ step) (wanted a : ℤ) : rampAfter step wanted a 0 = a := by
  rcases le_total a wanted with h | h
  · rw [rampAfter_of_le hstep h]
    omega
  · rw [rampAfter_of_ge hstep h]
    omega

/-- **One more tick.** -/
theorem ramp_rampAfter (hstep : 0 ≤ step) (wanted a : ℤ) (n : ℕ) :
    ramp step wanted (rampAfter step wanted a n) = rampAfter step wanted a (n + 1) := by
  have hmore : ((n + 1 : ℕ) : ℤ) * step = n * step + step := by
    rw [Nat.cast_succ, add_one_mul]
  rcases le_total a wanted with h | h
  · rw [rampAfter_of_le hstep h, rampAfter_of_le hstep h, hmore, ramp]
    omega
  · rw [rampAfter_of_ge hstep h, rampAfter_of_ge hstep h, hmore, ramp]
    omega

/-- The ramp has arrived when the steps add up to the difference. -/
theorem rampAfter_eq_wanted_iff (hstep : 0 ≤ step) :
    rampAfter step wanted a n = wanted ↔ |wanted - a| ≤ n * step := by
  rcases le_total a wanted with h | h
  · rw [rampAfter_of_le hstep h, abs_of_nonneg (sub_nonneg.mpr h)]
    omega
  · rw [rampAfter_of_ge hstep h, abs_of_nonpos (sub_nonpos.mpr h)]
    omega

/-- The number of steps that a distance takes. -/
theorem ceilDiv_le_iff_abs_le (hstep : 0 < step) (distance : ℤ) :
    distance.natAbs ⌈/⌉ step.toNat ≤ n ↔ |distance| ≤ n * step := by
  have hpos : 0 < step.toNat := by omega
  have hcast : ((step.toNat * n : ℕ) : ℤ) = n * step := by
    rw [Nat.cast_mul, Int.toNat_of_nonneg hstep.le, mul_comm]
  rw [ceilDiv_le_iff_le_smul hpos, smul_eq_mul, ← Int.ofNat_le, Int.natCast_natAbs, hcast]

/-- The closed form has all that is said of the speeds of a ramp. -/
theorem ramps_rampAfter (hstep : 0 < step) (wanted a : ℤ) :
    Ramps step wanted (rampAfter step wanted a) := by
  have hzero := rampAfter_zero hstep.le wanted a
  refine ⟨fun n ↦ ?_, fun h n ↦ ?_, fun h n ↦ ?_, fun n ↦ ?_⟩
  · rw [hzero, rampAfter]
  · rw [hzero] at h
    rw [← ramp_rampAfter hstep.le, rampAfter_of_le hstep.le h, ramp]
    omega
  · rw [hzero] at h
    rw [← ramp_rampAfter hstep.le, rampAfter_of_ge hstep.le h, ramp]
    omega
  · rw [hzero, ceilDiv_le_iff_abs_le hstep, rampAfter_eq_wanted_iff hstep.le]

end Ramp

/-! ### The motor -/

variable {m : Motor}

/-- Ticks change neither the commanded speed nor, with it, the wanted one. -/
theorem targetSpeed_iterate_update (m : Motor) (s a : Int32) (n : ℕ) :
    ((update · s a)^[n] m).targetSpeed = m.targetSpeed := by
  induction n with
  | zero => rfl
  | succ n ih => rw [Function.iterate_succ_apply', targetSpeed_update, ih]

/-- A motor in range stays there, tick after tick. -/
theorem InRange.iterate_update (h : m.InRange) (s a : Int32) (n : ℕ) :
    ((update · s a)^[n] m).InRange := by
  induction n with
  | zero => exact h
  | succ n ih =>
    rw [Function.iterate_succ_apply']
    exact ih.act (.update s a)

/-- The speed after `n` ticks. -/
theorem actualSpeed_iterate_update (h : m.InRange) (s a : Int32) (n : ℕ) :
    ((update · s a)^[n] m).actualSpeed.toInt =
      rampAfter (step a).toInt (m.wanted s).toInt m.actualSpeed.toInt n := by
  have hstep := toInt_step a
  induction n with
  | zero => exact (rampAfter_zero (by omega) _ _).symm
  | succ n ih =>
    have hwanted : ((update · s a)^[n] m).wanted s = m.wanted s := by
      rw [wanted, wanted, targetSpeed_iterate_update]
    rw [Function.iterate_succ_apply', actualSpeed_update,
      toInt_nextSpeed s a (h.iterate_update s a n).abs_actualSpeed, hwanted, ih,
      ramp_rampAfter (by omega)]

/-- **The ramp.** Take a motor after any actions, and let it tick under any fixed settings. Its
speed ramps from what it is toward the commanded speed within the limit. -/
theorem actualSpeed_ramps (p : Int32) (actions : List Action) (s a : Int32) :
    let bound := max 0 (min 2047 s.toInt)
    Ramps (max 1 (a.toInt.tdiv 100))
      (max (-bound) (min bound ((atRest p).after actions).targetSpeed.toInt))
      fun n ↦ ((update · s a)^[n] ((atRest p).after actions)).actualSpeed.toInt := by
  intro bound
  have hinRange := (inRange_atRest p).after actions
  have hbound : bound = (limit s).toInt := (toInt_limit_eq s).symm
  have hstep := toInt_step a
  rw [← toInt_step_eq, hbound, ← toInt_wanted]
  simp only [actualSpeed_iterate_update hinRange]
  exact ramps_rampAfter (by omega) _ _

/-- A motor that turned at `2000` is limited to `500`, and commanded to do more. It loses `7` in
every tick but the last, which is the tick number `215`. -/
theorem actualSpeed_ramps_lowered :
    let m := (atRest 0).after [.setActualSpeed 2000, .setTargetSpeed 5000]
    ((update · 500 700)^[214] m).actualSpeed.toInt = 502 ∧
      ∀ n, ((update · 500 700)^[n] m).actualSpeed.toInt = 500 ↔ 215 ≤ n := by
  intro m
  have hramps : Ramps 7 500 fun n ↦ ((update · 500 700)^[n] m).actualSpeed.toInt :=
    actualSpeed_ramps 0 [.setActualSpeed 2000, .setTargetSpeed 5000] 500 700
  have hstart : ((update · 500 700)^[0] m).actualSpeed.toInt = 2000 := by decide
  refine ⟨?_, fun n ↦ ?_⟩
  · rw [hramps.eq, hstart]
    decide
  · have hticks : (500 - 2000 : ℤ).natAbs ⌈/⌉ (7 : ℤ).toNat = 215 := by decide
    rw [hramps.arrives_iff, hstart, hticks]

end Motor

end FocusDrive
