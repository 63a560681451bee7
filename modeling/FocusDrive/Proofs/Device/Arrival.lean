import FocusDrive.Device.Host
import FocusDrive.Proofs.Device.Loop
import FocusDrive.Proofs.Device.Time
import FocusDrive.Proofs.Profile.Course

/-!
# A move from rest arrives

With the default speed and acceleration limits a started module brings its motor from rest to any
target whose distance the program's arithmetic can represent. `runUntilIdle_arrives` gives the
number of ticks that suffice and what happens on the way.

The proof is a simulation. `Device.Follows` relates the registers of the module to a `Course`, which
is the same motion over the integers, and `follows_tick` says that one tick of the module is one
tick of the course. The words do not wrap because the course stays between the start and the
target. The arguments about speed and distance are all made about the course
(`Course.Approaching`), in the forward direction; the direction of the move enters as the sign `σ`.
-/

namespace FocusDrive

namespace Device

/-- The module makes the motion `c` toward the target `t`, under the default limits. -/
structure Follows (t : ℤ) (c : Course) (d : Device) : Prop where
  /-- The module is in the loop of the profile program. -/
  atLoop : d.AtLoop
  /-- The target is `t`. -/
  target : (d.registers.global Profile.targetPosition).toInt = t
  /-- The encoder shows the distance. -/
  encoder : d.encoder.toInt = t - c.distance
  /-- The motor has the speed. -/
  speed : d.actualSpeed.toInt = c.speed
  /-- The motor carries the travel. -/
  carry : d.registers.motor.carry.toInt = c.carry
  /-- The speed limit is the default. -/
  maximumSpeed : d.registers.param .maximumSpeed = 2000
  /-- The acceleration limit is the default. -/
  maximumAcceleration : d.registers.param .maximumAcceleration = 1000

variable {d : Device} {t : ℤ} {c : Course}

/-- The drive and the course that it follows are equally far from the target. -/
theorem Follows.distance_eq (h : Follows t c d) : d.distance = c.distance := by
  rw [distance, h.target, h.encoder]
  omega

end Device

namespace Motor

/-- Under the default limits the motor follows a commanded speed as a course does. -/
theorem update_of_default {m : Motor} {c : Course} (hspeed : m.actualSpeed.toInt = c.speed)
    (hcarry : m.carry.toInt = c.carry)
    (htarget : m.targetSpeed.toInt = Profile.commandedSpeed c.speed c.distance)
    (hv : |c.speed| ≤ 2047) (hc : |c.carry| < 64)
    (hcommand : |Profile.commandedSpeed c.speed c.distance| ≤ 2000) :
    (m.update 2000 1000).actualSpeed.toInt = c.next.speed ∧
      (m.update 2000 1000).carry.toInt = c.next.carry ∧
      (m.counts 2000 1000).toInt = c.counts := by
  have hstep : (step 1000).toInt = 10 := by decide
  have hlimit : (limit 2000).toInt = 2000 := by decide
  have hwanted : (m.wanted 2000).toInt = Profile.commandedSpeed c.speed c.distance := by
    rw [toInt_wanted, hlimit, htarget]
    rw [abs_le] at hcommand
    omega
  have hnext : (m.nextSpeed 2000 1000).toInt = c.nextSpeed := by
    rw [toInt_nextSpeed 2000 1000 (by rwa [hspeed]), hstep, hwanted, hspeed]
    rfl
  have htravel : (m.travel 2000 1000).toInt = c.carry + c.nextSpeed := by
    rw [toInt_travel 2000 1000 (by rwa [hspeed]) (by rwa [hcarry]), hnext, hcarry]
  refine ⟨hnext, ?_, ?_⟩
  · rw [toInt_carry_update, htravel]
    rfl
  · rw [toInt_counts, htravel]
    rfl

end Motor

namespace Device

variable {d : Device} {t : ℤ} {c : Course}

/-- One tick of the module away from its target is one tick of the course. -/
theorem follows_tick (h : Follows t c d) (hne : c.distance ≠ 0)
    (hd : |c.distance| ≤ Profile.maxDistance) (hv : |c.speed| ≤ 2047) (hc : |c.carry| < 64)
    (lo : -2147483648 ≤ t - c.next.distance) (hi : t - c.next.distance ≤ 2147483647) :
    Follows t c.next d.tick.2 := by
  have hdist := h.distance_eq
  have hdiff := toInt_sub_encoder (by rwa [hdist])
  obtain ⟨a, x, o, htick⟩ := tick_of_ne_target h.atLoop
    (mt distance_eq_zero_iff.mpr (by rwa [hdist]))
  have hcommand := Profile.abs_commandedSpeed hv c.distance
  have hword : (Profile.commandWord d.actualSpeed
      (d.registers.global Profile.targetPosition - d.encoder)).toInt =
      Profile.commandedSpeed c.speed c.distance := by
    rw [Profile.toInt_commandWord (by rwa [h.speed]) (by rwa [hdiff, hdist]), hdiff, hdist,
      h.speed]
  rw [h.maximumSpeed, h.maximumAcceleration] at htick
  -- of the command only its integer matters from here on
  generalize Profile.commandWord d.actualSpeed
    (d.registers.global Profile.targetPosition - d.encoder) = w at htick hword
  have hstored : (d.registers.motor.setTargetSpeed w).targetSpeed.toInt =
      Profile.commandedSpeed c.speed c.distance := by
    rw [Motor.toInt_setTargetSpeed _ (by rw [hword]; omega), hword]
  obtain ⟨hspeed, hcarry, hcounts⟩ :=
    Motor.update_of_default (m := d.registers.motor.setTargetSpeed w) h.speed h.carry hstored hv hc
      hcommand
  have hencoder : (d.registers.motor.setTargetSpeed w).encoder.toInt +
      ((d.registers.motor.setTargetSpeed w).counts 2000 1000).toInt = t - c.next.distance := by
    have hnow : (d.registers.motor.setTargetSpeed w).encoder.toInt = t - c.distance := h.encoder
    rw [hcounts, hnow]
    show t - c.distance + c.counts = t - (c.distance - c.counts)
    omega
  rw [htick]
  refine ⟨⟨h.atLoop.program, rfl, .inl rfl⟩, ?_, ?_, hspeed, hcarry, h.maximumSpeed,
    h.maximumAcceleration⟩
  · show (((d.registers.users.set 1 _).set 2 _).get 0).toInt = t
    rw [UserTable.get_set_of_ne _ (by decide), UserTable.get_set_of_ne _ (by decide)]
    exact h.target
  · show ((d.registers.motor.setTargetSpeed w).update 2000 1000).encoder.toInt = _
    rw [Motor.toInt_encoder_update 2000 1000 (by rwa [hencoder]) (by rwa [hencoder]), hencoder]

/-! ### The approach -/

variable {σ : ℤ}

/-- One tick of an approach in either direction. -/
theorem follows_tick_scale (hσ : σ = 1 ∨ σ = -1) (h : Follows t (c.scale σ) d)
    (hc : c.Approaching) (hd : 0 < c.distance) (hmax : c.distance ≤ Profile.maxDistance) :
    Follows t (c.next.scale σ) d.tick.2 := by
  obtain ⟨hnext, hnearer⟩ := hc.next hd
  have hahead := hnext.distance_nonneg
  have hv := hc.speed_nonneg
  have hv' := hc.speed_le
  -- the encoder stays between where it is and the target, and these are both words
  have hnow : d.encoder.toInt = t - σ * c.distance := h.encoder
  have henc := Word.bounds d.encoder
  have htarget := Word.bounds (d.registers.global Profile.targetPosition)
  rw [h.target] at htarget
  rw [hnow] at henc
  rw [← Course.next_scale hσ]
  refine follows_tick h ?_ ?_ ?_ ?_ ?_ ?_
  · show σ * c.distance ≠ 0
    rcases hσ with rfl | rfl <;> omega
  · show |σ * c.distance| ≤ _
    rwa [Course.abs_sign_mul hσ, abs_of_nonneg hd.le]
  · show |σ * c.speed| ≤ _
    rw [Course.abs_sign_mul hσ, abs_of_nonneg hv]
    omega
  · show |σ * c.carry| < _
    rw [Course.abs_sign_mul hσ]
    exact hc.abs_carry
  all_goals
    rw [Course.next_scale hσ]
    show _ ≤ _
    rcases hσ with rfl | rfl <;> simp only [Course.scale] <;> omega

/-- An approach is followed as long as the target is ahead. -/
theorem follows_runTicks (hσ : σ = 1 ∨ σ = -1) (h : Follows t (c.scale σ) d)
    (hc : c.Approaching) (hmax : c.distance ≤ Profile.maxDistance) {k : ℕ}
    (hahead : ∀ j < k, 0 < (Course.next^[j] c).distance) :
    Follows t ((Course.next^[k] c).scale σ) (runTicks k d) ∧
      (Course.next^[k] c).distance ≤ c.distance := by
  induction k with
  | zero => exact ⟨h, le_refl _⟩
  | succ k ih =>
    have hbefore : ∀ j < k, 0 < (Course.next^[j] c).distance :=
      fun j hj ↦ hahead j (hj.trans k.lt_succ_self)
    obtain ⟨hfollow, hle⟩ := ih hbefore
    have happroach := hc.iterate_next hbefore
    have hd := hahead k k.lt_succ_self
    rw [Function.iterate_succ_apply', runTicks_succ']
    exact ⟨follows_tick_scale hσ hfollow happroach hd (hle.trans hmax),
      (happroach.next hd).2.trans hle⟩

/-- On target the next tick ends the program and leaves the motor at rest where it is. -/
theorem tick_of_follows_zero (h : Follows t c d) (hzero : c.distance = 0) (hc : |c.carry| < 64) :
    d.tick.2.isRunning = false ∧ d.tick.2.registers.motor.IsAtRest ∧
      d.tick.2.encoder = d.encoder ∧
      d.tick.2.registers.global Profile.targetPosition =
        d.registers.global Profile.targetPosition := by
  have heq := distance_eq_zero_iff.mp (h.distance_eq.trans hzero)
  have hcarry : |d.registers.motor.carry.toInt| < 64 := by rwa [h.carry]
  rw [tick_of_eq_target h.atLoop heq hcarry]
  refine ⟨rfl, Motor.isAtRest_stop hcarry, rfl, ?_⟩
  exact UserTable.get_set_of_ne _ (by decide) 0

/-! ### The move -/

/-- The module moves from `p` to `t` and has not gone astray. -/
structure Underway (p t : ℤ) (d : Device) : Prop where
  /-- The target is `t`. -/
  target : (d.registers.global Profile.targetPosition).toInt = t
  /-- The encoder is not short of the interval from `p` to `t`. -/
  min_le : min p t ≤ d.encoder.toInt
  /-- The encoder is not beyond it. -/
  le_max : d.encoder.toInt ≤ max p t
  /-- A move upward does not turn downward. -/
  upward : p ≤ t → 0 ≤ d.actualSpeed.toInt
  /-- A move downward does not turn upward. -/
  downward : t ≤ p → d.actualSpeed.toInt ≤ 0

/-- What holds of the course, seen from either side, holds of the drive. -/
theorem underway_of_follows (hσ : σ = 1 ∨ σ = -1) (h : Follows t (c.scale σ) d)
    (hc : c.Approaching) {D : ℤ} (hle : c.distance ≤ D) (hrest : D = 0 → c.speed = 0) :
    Underway (t - σ * D) t d := by
  have hnow : d.encoder.toInt = t - σ * c.distance := h.encoder
  have hspeed : d.actualSpeed.toInt = σ * c.speed := h.speed
  have hd := hc.distance_nonneg
  have hv := hc.speed_nonneg
  refine ⟨h.target, ?_, ?_, ?_, ?_⟩
  · rw [hnow]
    rcases hσ with rfl | rfl <;> omega
  · rw [hnow]
    rcases hσ with rfl | rfl <;> omega
  · intro hup
    rw [hspeed]
    rcases hσ with rfl | rfl <;> omega
  · intro hdown
    rw [hspeed]
    rcases hσ with rfl | rfl <;> omega

/-- An approach ends on the target, and the program with it in the tick after. -/
theorem Follows.arrives (hσ : σ = 1 ∨ σ = -1) (h : Follows t (c.scale σ) d)
    (hc : c.Approaching) (hmax : c.distance ≤ Profile.maxDistance)
    (hrest : c.distance = 0 → c.speed = 0) :
    ∃ n ≤ c.travelLeft.toNat + 1,
      (∀ k < n, (runTicks k d).isRunning = true) ∧
      (runTicks n d).isRunning = false ∧
      (runTicks n d).registers.motor.IsAtRest ∧
      (runTicks n d).encoder.toInt = t ∧
      (∀ k ≤ n, Underway (t - σ * c.distance) t (runTicks k d)) ∧
      ∀ k < n, |(runTicks (k + 1) d).distance| ≤ |(runTicks k d).distance| := by
  obtain ⟨n, hn, harrive, hahead⟩ := hc.exists_arrival
  have hfollow (k : ℕ) (hk : k ≤ n) :=
    follows_runTicks hσ h hc hmax fun j hj ↦ hahead j (hj.trans_le hk)
  have happroach (k : ℕ) (hk : k ≤ n) : (Course.next^[k] c).Approaching :=
    hc.iterate_next fun j hj ↦ hahead j (hj.trans_le hk)
  have hdistance (k : ℕ) (hk : k ≤ n) :
      |(runTicks k d).distance| = (Course.next^[k] c).distance := by
    rw [(hfollow k hk).1.distance_eq, Course.scale, Course.abs_sign_mul hσ,
      abs_of_nonneg (happroach k hk).distance_nonneg]
  have hunderway (k : ℕ) (hk : k ≤ n) : Underway (t - σ * c.distance) t (runTicks k d) := by
    refine underway_of_follows hσ (hfollow k hk).1 (happroach k hk) (hfollow k hk).2 fun hzero ↦ ?_
    -- without a distance the course is over before its first tick
    obtain rfl : k = 0 := by
      by_contra hne
      have hfirst : 0 < c.distance := hahead 0 (by omega)
      omega
    exact hrest hzero
  have hon : ((Course.next^[n] c).scale σ).distance = 0 := by
    rw [Course.scale, harrive, mul_zero]
  have hcarry : |((Course.next^[n] c).scale σ).carry| < 64 := by
    rw [Course.scale, Course.abs_sign_mul hσ]
    exact (happroach n le_rfl).abs_carry
  obtain ⟨hidle, hstopped, hencoder, htarget⟩ :=
    tick_of_follows_zero (hfollow n le_rfl).1 hon hcarry
  rw [← runTicks_succ'] at hidle hstopped hencoder htarget
  refine ⟨n + 1, by omega, ?_, hidle, hstopped, ?_, ?_, ?_⟩
  · intro k hk
    exact (hfollow k (by omega)).1.atLoop.isRunning
  · rw [hencoder, (hfollow n le_rfl).1.encoder, hon, sub_zero]
  · intro k hk
    rcases Nat.lt_or_eq_of_le hk with hlt | rfl
    · exact hunderway k (by omega)
    · -- the last tick moves nothing and stops the motor
      have hlast := hunderway n le_rfl
      have hspeed : (runTicks (n + 1) d).actualSpeed.toInt = 0 := by
        rw [actualSpeed, hstopped.actualSpeed]
        decide
      refine ⟨?_, ?_, ?_, fun _ ↦ hspeed.ge, fun _ ↦ hspeed.le⟩
      · rw [htarget, hlast.target]
      · rw [hencoder]
        exact hlast.min_le
      · rw [hencoder]
        exact hlast.le_max
  · intro k hk
    rcases Nat.lt_or_eq_of_le (Nat.le_of_lt_succ hk) with hlt | rfl
    · rw [hdistance k hlt.le, hdistance (k + 1) hlt, Function.iterate_succ_apply']
      exact ((happroach k hlt.le).next (hahead k hlt)).2
    · rw [distance, distance, hencoder, htarget]

/-- Whatever the direction, the distance is a sign and a number of counts. -/
theorem exists_sign (n : ℤ) : ∃ σ : ℤ, (σ = 1 ∨ σ = -1) ∧ n = σ * |n| := by
  rcases le_total 0 n with hup | hdown
  · exact ⟨1, .inl rfl, by rw [abs_of_nonneg hup, one_mul]⟩
  · exact ⟨-1, .inr rfl, by rw [abs_of_nonpos hdown, neg_one_mul, neg_neg]⟩

/-- A module that is started at rest follows the course from rest. -/
theorem follows_start (hσ : σ = 1 ∨ σ = -1) (hprogram : d.program = some profile)
    (hrest : d.registers.motor.IsAtRest) (hspeed : d.registers.param .maximumSpeed = 2000)
    (hacceleration : d.registers.param .maximumAcceleration = 1000)
    (hdist : d.distance = σ * |d.distance|) :
    Follows (d.registers.global Profile.targetPosition).toInt
      (Course.scale σ ⟨|d.distance|, 0, σ * d.registers.motor.carry.toInt⟩) (d.start profile) where
  atLoop := atLoop_start hprogram
  target := rfl
  encoder := by
    show d.encoder.toInt = _ - σ * |d.distance|
    rw [← hdist, distance]
    omega
  speed := by
    show d.registers.motor.actualSpeed.toInt = σ * 0
    rw [hrest.actualSpeed, mul_zero]
    decide
  carry := by
    show d.registers.motor.carry.toInt = σ * (σ * d.registers.motor.carry.toInt)
    rcases hσ with rfl | rfl <;> omega
  maximumSpeed := hspeed
  maximumAcceleration := hacceleration

/-- **Every move from rest arrives.** The program ends by itself, with the encoder on the target and
the motor at rest, after at most `64` ticks for every count of the distance and `64` more. On the
way the encoder stays between start and target and comes no tick farther from the target, and the
motor does not turn away from it. -/
theorem runUntilIdle_arrives (hprogram : d.program = some profile)
    (hrest : d.registers.motor.IsAtRest) (hspeed : d.registers.param .maximumSpeed = 2000)
    (hacceleration : d.registers.param .maximumAcceleration = 1000)
    (hmax : |d.distance| ≤ Profile.maxDistance) :
    ∃ d' n, d.handle .startProgram = (.ok (), d') ∧
      d'.runUntilIdle (64 * d.distance.natAbs + 64) = (some n, runTicks n d') ∧
      (runTicks n d').encoder = d.registers.global Profile.targetPosition ∧
      (runTicks n d').registers.motor.IsAtRest ∧
      (∀ k ≤ n, Underway d.encoder.toInt (d.registers.global Profile.targetPosition).toInt
        (runTicks k d')) ∧
      ∀ k < n, |(runTicks (k + 1) d').distance| ≤ |(runTicks k d').distance| := by
  -- seen from its own side of the target the drive approaches from above
  obtain ⟨σ, hσ, hdist⟩ := exists_sign d.distance
  have hfollow := follows_start hσ hprogram hrest hspeed hacceleration hdist
  have hcarry : |σ * d.registers.motor.carry.toInt| < 64 := by
    rw [Course.abs_sign_mul hσ]
    exact hrest.abs_carry
  have happroach : Course.Approaching ⟨|d.distance|, 0, σ * d.registers.motor.carry.toInt⟩ :=
    .of_rest (abs_nonneg _) rfl hcarry
  obtain ⟨n, hn, hrun, hidle, hstopped, hencoder, hunderway, hnearer⟩ :=
    hfollow.arrives hσ happroach hmax fun _ ↦ rfl
  have hbound : n ≤ 64 * d.distance.natAbs + 64 := by
    have hleft : Course.travelLeft ⟨|d.distance|, 0, σ * d.registers.motor.carry.toInt⟩ =
      64 * |d.distance| - σ * d.registers.motor.carry.toInt := rfl
    rw [Int.abs_eq_natAbs] at hleft hn
    rw [abs_lt] at hcarry
    omega
  have hstart : (d.registers.global Profile.targetPosition).toInt - σ * |d.distance| =
      d.encoder.toInt := by
    rw [← hdist, distance]
    omega
  rw [hstart] at hunderway
  exact ⟨d.start profile, n, handle_startProgram hprogram, runUntilIdle_eq_some hbound hrun hidle,
    Int32.toInt_inj.mp hencoder, hstopped, hunderway, hnearer⟩

/-- A module at rest at `1000000` with the target `-2000000`. The motor carries travel that is
directed away from the target. -/
def resting : Device where
  registers :=
    { (Registers.initial 1000000).storeUser 0 (-2000000) with
      motor := { encoder := 1000000, carry := 63 } }
  program := some profile
  capacity := programMemory

/-- Three million counts downward. -/
theorem runUntilIdle_arrives_resting :
    resting.program = some profile ∧ resting.registers.motor.IsAtRest ∧
      resting.registers.param .maximumSpeed = 2000 ∧
      resting.registers.param .maximumAcceleration = 1000 ∧
      |resting.distance| ≤ Profile.maxDistance ∧
      ∃ d' n, resting.handle .startProgram = (.ok (), d') ∧
        d'.runUntilIdle 192000064 = (some n, runTicks n d') ∧
        (runTicks n d').encoder = -2000000 ∧
        (runTicks n d').registers.motor.IsAtRest ∧
        ∀ k ≤ n, Underway 1000000 (-2000000) (runTicks k d') := by
  have hrest : resting.registers.motor.IsAtRest := ⟨rfl, rfl, by decide⟩
  have hspeed : resting.registers.param .maximumSpeed = 2000 := by decide
  have hacceleration : resting.registers.param .maximumAcceleration = 1000 := by decide
  have hdist : resting.distance = -3000000 := by decide
  have hmax : |resting.distance| ≤ Profile.maxDistance := by
    rw [hdist]
    decide
  have hticks : 64 * resting.distance.natAbs + 64 = 192000064 := by
    rw [hdist]
    norm_num
  have htarget : resting.registers.global Profile.targetPosition = -2000000 := by decide
  obtain ⟨d', n, hstart, hrun, hencoder, hstopped, hunderway, -⟩ :=
    runUntilIdle_arrives rfl hrest hspeed hacceleration hmax
  rw [hticks] at hrun
  rw [htarget] at hencoder hunderway
  exact ⟨rfl, hrest, hspeed, hacceleration, hmax, d', n, hstart, hrun, hencoder, hstopped,
    hunderway⟩

end Device

end FocusDrive
