import FocusDrive.Proofs.Motor
import FocusDrive.Proofs.Profile.ControlLaw
import Mathlib.Logic.Function.Iterate

/-!
# The course of a move

A move with the default settings, over the integers and seen from the target: how far it is, how
fast the motor turns, what travel is carried. One tick commands a speed by the control law, ramps
toward it by at most `10`, and counts the travel (`Course.next`). A move in the other direction
is the same with all signs turned (`next_scale`), so here the distance is taken to be nonnegative.

## The invariant

The law is a nonlinear feedback: it blends the speed with the distance, truncates twice, and the
ramp may lag behind it. What makes a move arrive is that the speed never exceeds what the travel
left can absorb. `Course.Approaching.canBrake` says this with the exact travel left,
`64 * distance - carry`, which a tick diminishes by exactly the next speed:
`8 * v ^ 2 + 4200 * v ≤ 175 * travelLeft + 44800`. In counts this is a distance of
`v ^ 2 / 1400 + 3 / 8 * v - 4`, the program's own braking distance and a margin.

A tick keeps the bound for one of two reasons (`canBrake_next`). A motor that lags behind a falling
speed brakes by `10` per tick, and the left side falls by more than the right. A motor that follows
the law has a speed of at most two thirds of the blend, which is a bound of the speed by the
distance; neither that nor the old bound is enough by itself, but three parts of one and one of the
other are.

## Arrival

While a distance remains the next speed is at least `1`, so the travel left falls in every tick, and
it is positive as long as the distance is. `exists_arrival` counts these ticks.
-/

namespace FocusDrive

/-- A drive in motion. -/
structure Course where
  /-- The distance to the target. -/
  distance : ℤ
  /-- The speed of the motor. -/
  speed : ℤ
  /-- The travel that the motor carries. -/
  carry : ℤ

namespace Course

/-- The speed after the next tick. -/
def nextSpeed (c : Course) : ℤ :=
  Motor.ramp 10 (Profile.commandedSpeed c.speed c.distance) c.speed

/-- The counts of the next tick. -/
def counts (c : Course) : ℤ := (c.carry + c.nextSpeed).tdiv 64

/-- One tick. -/
def next (c : Course) : Course where
  distance := c.distance - c.counts
  speed := c.nextSpeed
  carry := c.carry + c.nextSpeed - 64 * c.counts

/-- The same motion along an axis that is scaled by `σ`; `-1` turns it around. -/
def scale (σ : ℤ) (c : Course) : Course := ⟨σ * c.distance, σ * c.speed, σ * c.carry⟩

/-- The travel to the target, in units of the speed. -/
def travelLeft (c : Course) : ℤ := 64 * c.distance - c.carry

theorem abs_sign_mul {σ : ℤ} (hσ : σ = 1 ∨ σ = -1) (n : ℤ) : |σ * n| = |n| := by
  rcases hσ with rfl | rfl
  · rw [one_mul]
  · rw [neg_one_mul, abs_neg]

/-- A course and its mirror image are controlled alike. -/
theorem nextSpeed_scale {σ : ℤ} (hσ : σ = 1 ∨ σ = -1) (c : Course) :
    (c.scale σ).nextSpeed = σ * c.nextSpeed := by
  rcases hσ with rfl | rfl
  · simp only [nextSpeed, scale, one_mul]
  · simp only [nextSpeed, scale, neg_one_mul]
    rw [Profile.commandedSpeed_neg, Motor.ramp_neg (by norm_num)]

theorem counts_scale {σ : ℤ} (hσ : σ = 1 ∨ σ = -1) (c : Course) :
    (c.scale σ).counts = σ * c.counts := by
  rw [counts, counts, nextSpeed_scale hσ, scale, ← mul_add]
  rcases hσ with rfl | rfl
  · rw [one_mul, one_mul]
  · rw [neg_one_mul, neg_one_mul, Int.neg_tdiv]

/-- Motion does not prefer a direction. -/
theorem next_scale {σ : ℤ} (hσ : σ = 1 ∨ σ = -1) (c : Course) :
    (c.scale σ).next = c.next.scale σ := by
  rw [next, counts_scale hσ, nextSpeed_scale hσ]
  show (⟨σ * c.distance - σ * c.counts, σ * c.nextSpeed,
      σ * c.carry + σ * c.nextSpeed - 64 * (σ * c.counts)⟩ : Course) =
    ⟨σ * (c.distance - c.counts), σ * c.nextSpeed, σ * (c.carry + c.nextSpeed - 64 * c.counts)⟩
  rcases hσ with rfl | rfl <;> congr 1 <;> omega

/-- A tick uses up as much of the travel as its speed. -/
theorem travelLeft_next (c : Course) : c.next.travelLeft = c.travelLeft - c.nextSpeed := by
  show 64 * (c.distance - c.counts) - (c.carry + c.nextSpeed - 64 * c.counts) = _
  rw [travelLeft]
  omega

/-! ### The invariant -/

/-- A motion toward the target that the program brings to a stop there. -/
structure Approaching (c : Course) : Prop where
  /-- The target is ahead. -/
  distance_nonneg : 0 ≤ c.distance
  /-- The motor does not turn away from it. -/
  speed_nonneg : 0 ≤ c.speed
  /-- The speed is within the limit. -/
  speed_le : c.speed ≤ 2000
  /-- Less than one count is carried. -/
  abs_carry : |c.carry| < 64
  /-- The travel left absorbs the speed. -/
  canBrake : 8 * c.speed ^ 2 + 4200 * c.speed ≤ 175 * c.travelLeft + 44800

namespace Approaching

variable {c : Course}

/-- A motor at rest can approach every target ahead of it. -/
theorem of_rest (hd : 0 ≤ c.distance) (hv : c.speed = 0) (hc : |c.carry| < 64) :
    c.Approaching where
  distance_nonneg := hd
  speed_nonneg := hv.ge
  speed_le := by omega
  abs_carry := hc
  canBrake := by
    rw [abs_lt] at hc
    rw [hv, travelLeft]
    omega

/-- Away from the target there is travel left. -/
theorem travelLeft_pos (h : c.Approaching) (hd : 0 < c.distance) : 0 < c.travelLeft := by
  have hc := abs_lt.mp h.abs_carry
  rw [travelLeft]
  omega

/-- The blend is positive, and it is more than one unless the motor stands one count away. -/
theorem blend_pos (h : c.Approaching) (hd : 0 < c.distance) :
    2 ≤ c.speed + (c.distance - Profile.brakingDistance c.speed) ∨
      c.speed = 0 ∧ c.distance = 1 ∧ Profile.brakingDistance c.speed = 0 := by
  obtain ⟨hq, hlo, hhi⟩ := Profile.mul_brakingDistance h.speed_nonneg
  have hv := h.speed_nonneg
  rcases hv.eq_or_lt with hzero | hpos
  · rw [← hzero] at hlo ⊢
    omega
  · left
    rcases lt_or_ge c.speed 1400 with hslow | hfast
    · -- below `1400` the braking distance is less than the speed
      have hlt : c.speed * c.speed < 1400 * c.speed := mul_lt_mul_of_pos_right hslow hpos
      omega
    · -- beyond that the travel left covers the braking distance
      have hc := abs_lt.mp h.abs_carry
      have hbrake := h.canBrake
      rw [travelLeft, pow_two] at hbrake
      omega

/-- The commanded speed leads on to the target. It is at most two thirds of the blend, except for
the last count from rest. -/
theorem commandedSpeed_bounds (h : c.Approaching) (hd : 0 < c.distance) :
    1 ≤ Profile.commandedSpeed c.speed c.distance ∧
      Profile.commandedSpeed c.speed c.distance ≤ 2000 ∧
      (3 * Profile.commandedSpeed c.speed c.distance ≤
          2 * (c.speed + (c.distance - Profile.brakingDistance c.speed)) ∨
        c.speed = 0 ∧ c.distance = 1 ∧ Profile.commandedSpeed c.speed c.distance = 1) := by
  rcases h.blend_pos hd with hblend | ⟨hv, hone, -⟩
  · have hq := Word.tdiv_of_nonneg (k := 3) (by norm_num)
      (by omega : 0 ≤ (c.speed + (c.distance - Profile.brakingDistance c.speed)) * 2)
    have hlimit : Profile.limitedSpeed c.speed c.distance ≠ 0 := by
      rw [Profile.limitedSpeed]
      omega
    rw [Profile.commandedSpeed, if_neg hlimit, Profile.limitedSpeed]
    omega
  · have hcommand : Profile.commandedSpeed c.speed c.distance = 1 := by
      rw [hv, hone]
      decide
    rw [hcommand]
    exact ⟨le_refl 1, by norm_num, .inr ⟨hv, hone, rfl⟩⟩

/-- The next speed is positive and within the limit, and the motor either brakes as hard as it can
or is not faster than commanded. -/
theorem nextSpeed_bounds (h : c.Approaching) (hd : 0 < c.distance) :
    1 ≤ c.nextSpeed ∧ c.nextSpeed ≤ 2000 ∧ |c.speed - c.nextSpeed| ≤ 10 ∧
      (c.nextSpeed = c.speed - 10 ∨
        c.nextSpeed ≤ Profile.commandedSpeed c.speed c.distance) := by
  obtain ⟨hlo, hhi, -⟩ := h.commandedSpeed_bounds hd
  have hv := h.speed_nonneg
  have hle := h.speed_le
  rw [nextSpeed, Motor.ramp, abs_le]
  omega

/-- A tick keeps the speed within what the travel left absorbs. -/
theorem canBrake_next (h : c.Approaching) (hd : 0 < c.distance) :
    8 * c.nextSpeed ^ 2 + 4200 * c.nextSpeed ≤ 175 * (c.travelLeft - c.nextSpeed) + 44800 := by
  obtain ⟨hlo, hhi, hramp, hcase⟩ := h.nextSpeed_bounds hd
  obtain ⟨-, -, hcommand⟩ := h.commandedSpeed_bounds hd
  have hbrake := h.canBrake
  have hv := h.speed_le
  rcases hcase with hlag | hfollow
  · -- braking by `10` frees more than the tick uses
    rw [hlag]
    nlinarith
  · rcases hcommand with hblend | ⟨hrest, hone, hcommand⟩
    · obtain ⟨-, -, hq⟩ := Profile.mul_brakingDistance h.speed_nonneg
      have hc := abs_lt.mp h.abs_carry
      obtain ⟨hdown, hup⟩ := abs_le.mp hramp
      have hprod : 0 ≤ (c.speed - c.nextSpeed + 10) * c.nextSpeed :=
        mul_nonneg (by omega) (by omega)
      have hsq := sq_nonneg (c.speed - c.nextSpeed)
      rw [travelLeft] at hbrake ⊢
      nlinarith
    · have hc := abs_lt.mp h.abs_carry
      have hnext : c.nextSpeed = 1 := by omega
      rw [hnext, travelLeft, hone]
      omega

/-- The next speed does not carry the motor past the target. -/
theorem nextSpeed_le (h : c.Approaching) (hd : 0 < c.distance) :
    c.nextSpeed ≤ 64 * c.distance := by
  obtain ⟨-, -, hramp, -⟩ := h.nextSpeed_bounds hd
  have hstep := abs_le.mp hramp
  rcases le_or_gt c.speed 54 with hslow | hfast
  · omega
  · have hc := abs_lt.mp h.abs_carry
    have hbrake := h.canBrake
    rw [travelLeft] at hbrake
    nlinarith

/-- **A tick of an approach.** It is an approach again, and it is not farther from the target. -/
theorem next (h : c.Approaching) (hd : 0 < c.distance) :
    c.next.Approaching ∧ c.next.distance ≤ c.distance := by
  obtain ⟨hlo, hhi, -, -⟩ := h.nextSpeed_bounds hd
  have hc := abs_lt.mp h.abs_carry
  have hle := h.nextSpeed_le hd
  obtain ⟨hmin, hmax, hrest⟩ := Motor.tdiv_speedPerCount (c.carry + c.nextSpeed)
  rw [abs_lt] at hrest
  refine ⟨⟨?_, ?_, hhi, ?_, ?_⟩, ?_⟩
  · show 0 ≤ c.distance - (c.carry + c.nextSpeed).tdiv 64
    omega
  · exact (by omega : 0 ≤ c.nextSpeed)
  · exact abs_lt.mpr hrest
  · rw [travelLeft_next]
    exact h.canBrake_next hd
  · show c.distance - (c.carry + c.nextSpeed).tdiv 64 ≤ c.distance
    omega

/-- Ticks that start away from the target make an approach. -/
theorem iterate_next (h : c.Approaching) {k : ℕ}
    (hd : ∀ j < k, 0 < (Course.next^[j] c).distance) : (Course.next^[k] c).Approaching := by
  induction k with
  | zero => exact h
  | succ k ih =>
    rw [Function.iterate_succ_apply']
    exact ((ih fun j hj ↦ hd j (hj.trans k.lt_succ_self)).next (hd k k.lt_succ_self)).1

/-- **Arrival.** The target is reached after at most as many ticks as there is travel left. -/
theorem exists_arrival (h : c.Approaching) :
    ∃ k : ℕ, k ≤ c.travelLeft.toNat ∧ (Course.next^[k] c).distance = 0 ∧
      ∀ j < k, 0 < (Course.next^[j] c).distance := by
  -- the travel left falls by at least one in every tick that starts away from the target
  induction hn : c.travelLeft.toNat using Nat.strong_induction_on generalizing c with
  | _ n ih =>
    rcases h.distance_nonneg.eq_or_lt with hzero | hd
    · exact ⟨0, Nat.zero_le _, hzero.symm, fun j hj ↦ absurd hj j.not_lt_zero⟩
    · have hleft := h.travelLeft_pos hd
      have hnext := travelLeft_next c
      obtain ⟨hlo, -, -, -⟩ := h.nextSpeed_bounds hd
      obtain ⟨k, hk, harrive, hahead⟩ := ih c.next.travelLeft.toNat (by omega) (h.next hd).1 rfl
      refine ⟨k + 1, by omega, ?_, ?_⟩
      · rwa [Function.iterate_succ_apply]
      · intro j hj
        cases j with
        | zero => exact hd
        | succ j =>
          rw [Function.iterate_succ_apply]
          exact hahead j (by omega)

end Approaching

end Course

end FocusDrive
