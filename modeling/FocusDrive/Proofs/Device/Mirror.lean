import FocusDrive.Proofs.Device.Drive
import FocusDrive.Proofs.Device.Ranges
import FocusDrive.Proofs.Device.Time

/-!
# Motion does not prefer a direction

Two modules under the profile program whose speeds, carried travel and distances are each other's
negatives go on as mirror images (`tick_runTicks_mirrored`). In the program a sign is restored by a
conditional negation, and the limit has one branch for each direction; over the integers both come
down to `Profile.commandedSpeed_neg`. The motor adds `Motor.ramp_neg` and a truncating division.

## Words and distances

Negation is exact on all words but the least. The bound on the distance that a pass sees keeps the
program's arithmetic away from that word. Between two passes the encoder of one module may wrap, so
the distances as integers are known to be negatives only when both are within the bound. As words
they always are (`Drive.Mirrored.remaining`), and this is what a run preserves.
-/

namespace FocusDrive

/-! ### The motor -/

/-- The speeds and the carried travel of the one motor are the negatives of the other's. No command
and no update takes a motor out of the bounds. -/
structure Motor.Mirrored (m m' : Motor) : Prop where
  /-- The commanded speeds. -/
  targetSpeed : m'.targetSpeed.toInt = -m.targetSpeed.toInt
  /-- The current speeds. -/
  actualSpeed : m'.actualSpeed.toInt = -m.actualSpeed.toInt
  /-- The carried travel. -/
  carry : m'.carry.toInt = -m.carry.toInt
  /-- The current speed is one that an axis accepts. -/
  abs_actualSpeed : |m.actualSpeed.toInt| ≤ 2047
  /-- Less than one count is carried. -/
  abs_carry : |m.carry.toInt| < 64

namespace Motor.Mirrored

variable {m m' : Motor} (s a : Int32)

/-- Being a mirror image is mutual. -/
theorem symm (h : m.Mirrored m') : m'.Mirrored m where
  targetSpeed := by rw [h.targetSpeed, neg_neg]
  actualSpeed := by rw [h.actualSpeed, neg_neg]
  carry := by rw [h.carry, neg_neg]
  abs_actualSpeed := by
    rw [h.actualSpeed, abs_neg]
    exact h.abs_actualSpeed
  abs_carry := by
    rw [h.carry, abs_neg]
    exact h.abs_carry

/-- The speed that a motor makes for is mirrored. -/
theorem toInt_wanted (h : m.Mirrored m') : (m'.wanted s).toInt = -(m.wanted s).toInt := by
  have hlimit := toInt_limit s
  rw [Motor.toInt_wanted, Motor.toInt_wanted, h.targetSpeed]
  omega

/-- The speed after a tick is mirrored, under whatever limits. -/
theorem toInt_nextSpeed (h : m.Mirrored m') :
    (m'.nextSpeed s a).toInt = -(m.nextSpeed s a).toInt := by
  have hstep := toInt_step a
  rw [Motor.toInt_nextSpeed s a h.symm.abs_actualSpeed, Motor.toInt_nextSpeed s a h.abs_actualSpeed,
    h.toInt_wanted s, h.actualSpeed, ramp_neg (by omega)]

/-- The microsteps of a tick are mirrored, those carried over included. -/
theorem toInt_travel (h : m.Mirrored m') :
    (m'.travel s a).toInt = -(m.travel s a).toInt := by
  rw [Motor.toInt_travel s a h.symm.abs_actualSpeed h.symm.abs_carry,
    Motor.toInt_travel s a h.abs_actualSpeed h.abs_carry, h.carry, h.toInt_nextSpeed s a]
  omega

/-- The counts are small, so they are negatives as words. -/
theorem counts (h : m.Mirrored m') : m'.counts s a = -m.counts s a := by
  have hbound := Word.bounds (m.travel s a)
  obtain ⟨hlo, hhi, -⟩ := tdiv_speedPerCount (m.travel s a).toInt
  have hexact : (-m.counts s a).toInt = -(m.counts s a).toInt :=
    Word.toInt_neg (by rw [toInt_counts]; omega)
  rw [← Int32.toInt_inj, hexact, toInt_counts, toInt_counts, h.toInt_travel s a, Int.neg_tdiv]

/-- A tick of the motor keeps the mirror image. -/
theorem update (h : m.Mirrored m') : (m.update s a).Mirrored (m'.update s a) where
  targetSpeed := by
    rw [targetSpeed_update, targetSpeed_update]
    exact h.targetSpeed
  actualSpeed := by
    rw [actualSpeed_update, actualSpeed_update]
    exact h.toInt_nextSpeed s a
  carry := by
    rw [toInt_carry_update, toInt_carry_update, h.toInt_travel s a, Int.neg_tdiv]
    omega
  abs_actualSpeed := by
    rw [actualSpeed_update]
    exact abs_nextSpeed s a h.abs_actualSpeed
  abs_carry := abs_carry_update s a

theorem stop (h : m.Mirrored m') : m.stop.Mirrored m'.stop where
  targetSpeed := rfl
  actualSpeed := rfl
  carry := h.carry
  abs_actualSpeed := by
    show |(0 : Int32).toInt| ≤ 2047
    decide
  abs_carry := h.abs_carry

/-- Opposite commands keep the mirror image. -/
theorem setTargetSpeed (h : m.Mirrored m') {v w : Int32} (hv : |v.toInt| ≤ 2047)
    (hw : w.toInt = -v.toInt) : (m.setTargetSpeed v).Mirrored (m'.setTargetSpeed w) where
  targetSpeed := by
    rw [toInt_setTargetSpeed _ hv, toInt_setTargetSpeed _ (by rwa [hw, abs_neg]), hw]
  actualSpeed := h.actualSpeed
  carry := h.carry
  abs_actualSpeed := h.abs_actualSpeed
  abs_carry := h.abs_carry

end Motor.Mirrored

/-! ### The drive -/

namespace Drive

variable {v w : Drive}

/-- The program has ended on its target, and the motor is at rest. -/
structure HasArrived (v : Drive) : Prop where
  /-- The program has ended. -/
  state : v.state = .idle
  /-- The encoder shows the target. -/
  remaining : v.remaining = 0
  /-- The motor is at rest. -/
  motor : v.motor.IsAtRest

/-- A drive that has arrived is not changed by a tick. -/
theorem HasArrived.tick_eq (h : v.HasArrived) : v.tick = (none, v) := by
  rw [tick, control_of_idle h.state, h.motor.update, ← h.state]

/-- A motor stopped at the target has arrived. -/
theorem hasArrived_stop (h : v.remaining = 0) (hcarry : |v.motor.carry.toInt| < 64) :
    HasArrived { v with state := .idle, motor := v.motor.stop } where
  state := rfl
  remaining := h
  motor := Motor.isAtRest_stop hcarry

/-- At the target a due tick halts the program where it stands. -/
theorem tick_of_remaining_eq_zero (hdue : v.IsDue) (h : v.remaining = 0)
    (hcarry : |v.motor.carry.toInt| < 64) :
    v.tick = (some .halted, { v with state := .idle, motor := v.motor.stop }) := by
  rw [tick, control_of_due hdue, pass, if_pos h]
  show (some Outcome.halted, { v with
    state := .idle, motor := v.motor.stop.update v.maximumSpeed v.maximumAcceleration }) = _
  rw [(Motor.isAtRest_stop hcarry).update]

/-- Away from the target a due tick commands a speed and moves the motor. -/
theorem tick_of_remaining_ne_zero (hdue : v.IsDue) (h : v.remaining ≠ 0) :
    v.tick = (some .looped, { v with
      state := .running
      motor := v.commanded.update v.maximumSpeed v.maximumAcceleration }) := by
  rw [tick, control_of_due hdue, pass, if_neg h]

/-- The drives are mirror images: both have arrived, or both are about to run a pass. -/
structure Mirrored (v w : Drive) : Prop where
  /-- Both run, or both have arrived. -/
  state : v.IsDue ∧ w.IsDue ∨ v.HasArrived ∧ w.HasArrived
  /-- The motors. -/
  motor : v.motor.Mirrored w.motor
  /-- The distances, as words. -/
  remaining : w.remaining = -v.remaining
  /-- The speed settings agree. -/
  maximumSpeed : w.maximumSpeed = v.maximumSpeed
  /-- The acceleration settings agree. -/
  maximumAcceleration : w.maximumAcceleration = v.maximumAcceleration

/-- A distance within the bound is not the least word. -/
theorem Mirrored.toInt_remaining (h : v.Mirrored w)
    (hd : |v.remaining.toInt| ≤ Profile.maxDistance) :
    w.remaining.toInt = -v.remaining.toInt := by
  have hbound := abs_le.mp hd
  rw [Profile.maxDistance] at hbound
  rw [h.remaining]
  exact Word.toInt_neg (by omega)

/-- The commanded speeds are negatives. -/
theorem Mirrored.toInt_commandWord (h : v.Mirrored w)
    (hd : |v.remaining.toInt| ≤ Profile.maxDistance) :
    (Profile.commandWord w.motor.actualSpeed w.remaining).toInt =
      -(Profile.commandWord v.motor.actualSpeed v.remaining).toInt := by
  have hremaining := h.toInt_remaining hd
  rw [Profile.toInt_commandWord h.motor.symm.abs_actualSpeed (by rwa [hremaining, abs_neg]),
    Profile.toInt_commandWord h.motor.abs_actualSpeed hd, h.motor.actualSpeed, hremaining,
    Profile.commandedSpeed_neg]

/-- The motors are mirror images when the program has commanded its speed. -/
theorem Mirrored.commanded (h : v.Mirrored w)
    (hd : |v.remaining.toInt| ≤ Profile.maxDistance) : v.commanded.Mirrored w.commanded := by
  have hlimit : |(Profile.commandWord v.motor.actualSpeed v.remaining).toInt| ≤ 2047 := by
    rw [Profile.toInt_commandWord h.motor.abs_actualSpeed hd]
    exact (Profile.abs_commandedSpeed h.motor.abs_actualSpeed _).trans (by norm_num)
  exact h.motor.setTargetSpeed hlimit (h.toInt_commandWord hd)

/-- The distance loses what the encoder counts. -/
theorem remaining_tick_of_remaining_ne_zero (hdue : v.IsDue) (h : v.remaining ≠ 0) :
    v.tick.2.remaining =
      v.remaining - v.commanded.counts v.maximumSpeed v.maximumAcceleration := by
  rw [tick_of_remaining_ne_zero hdue h]
  simp only [remaining, Motor.encoder_update, encoder_commanded]
  grind

/-- On target both arrive. -/
theorem Mirrored.tick_of_remaining_eq_zero (h : v.Mirrored w) (hv : v.IsDue) (hw : w.IsDue)
    (hzero : v.remaining = 0) : w.tick.1 = v.tick.1 ∧ v.tick.2.Mirrored w.tick.2 := by
  have hzero' : w.remaining = 0 := by rw [h.remaining, hzero, Int32.neg_zero]
  rw [Drive.tick_of_remaining_eq_zero hv hzero h.motor.abs_carry,
    Drive.tick_of_remaining_eq_zero hw hzero' h.motor.symm.abs_carry]
  exact ⟨rfl, .inr ⟨hasArrived_stop hzero h.motor.abs_carry,
    hasArrived_stop hzero' h.motor.symm.abs_carry⟩, h.motor.stop, h.remaining, h.maximumSpeed,
    h.maximumAcceleration⟩

/-- Away from the target both go on. -/
theorem Mirrored.tick_of_remaining_ne_zero (h : v.Mirrored w) (hv : v.IsDue) (hw : w.IsDue)
    (hne : v.remaining ≠ 0) (hd : |v.remaining.toInt| ≤ Profile.maxDistance) :
    w.tick.1 = v.tick.1 ∧ v.tick.2.Mirrored w.tick.2 := by
  have hne' : w.remaining ≠ 0 := by
    rw [h.remaining]
    exact fun hneg ↦ hne (by rw [← Int32.neg_neg (a := v.remaining), hneg, Int32.neg_zero])
  have hmotor := h.commanded hd
  have hremaining : w.tick.2.remaining = -v.tick.2.remaining := by
    rw [remaining_tick_of_remaining_ne_zero hv hne, remaining_tick_of_remaining_ne_zero hw hne',
      h.remaining, h.maximumSpeed, h.maximumAcceleration, hmotor.counts]
    grind
  rw [Drive.tick_of_remaining_ne_zero hv hne,
    Drive.tick_of_remaining_ne_zero hw hne'] at hremaining ⊢
  refine ⟨rfl, .inl ⟨.inl rfl, .inl rfl⟩, ?_, hremaining, h.maximumSpeed, h.maximumAcceleration⟩
  rw [h.maximumSpeed, h.maximumAcceleration]
  exact hmotor.update _ _

/-- Mirror images go on as mirror images. -/
theorem Mirrored.tick (h : v.Mirrored w)
    (hd : v.IsDue → |v.remaining.toInt| ≤ Profile.maxDistance) :
    w.tick.1 = v.tick.1 ∧ v.tick.2.Mirrored w.tick.2 := by
  rcases h.state with ⟨hv, hw⟩ | ⟨hv, hw⟩
  · by_cases hzero : v.remaining = 0
    · exact h.tick_of_remaining_eq_zero hv hw hzero
    · exact h.tick_of_remaining_ne_zero hv hw hzero (hd hv)
  · rw [hv.tick_eq, hw.tick_eq]
    exact ⟨rfl, h⟩

end Drive

/-! ### The module -/

namespace Device

variable {d e : Device}

/-- Two modules under the profile program that are mirror images: each is about to run a pass, and
the speeds, the carried travel and the distances are negatives. The bounds in the last two fields
hold of every module that was powered up and used (`Reachable.abs_actualSpeed_and_abs_carry`). -/
structure Mirrored (d e : Device) : Prop where
  /-- The first runs a pass in its next tick. -/
  left : d.AtLoop
  /-- The second runs a pass in its next tick. -/
  right : e.AtLoop
  /-- The commanded speeds. -/
  targetSpeed : (e.registers.param .targetSpeed).toInt = -(d.registers.param .targetSpeed).toInt
  /-- The current speeds. -/
  actualSpeed : e.actualSpeed.toInt = -d.actualSpeed.toInt
  /-- The carried travel. -/
  carry : e.registers.motor.carry.toInt = -d.registers.motor.carry.toInt
  /-- The distances. -/
  distance : e.distance = -d.distance
  /-- The speed settings agree. -/
  maximumSpeed : e.registers.param .maximumSpeed = d.registers.param .maximumSpeed
  /-- The acceleration settings agree. -/
  maximumAcceleration :
    e.registers.param .maximumAcceleration = d.registers.param .maximumAcceleration
  /-- The current speed is one that an axis accepts. -/
  abs_actualSpeed : |d.actualSpeed.toInt| ≤ 2047
  /-- Less than one count is carried. -/
  abs_carry : |d.registers.motor.carry.toInt| < 64

/-- If the next tick runs a pass, the pass sees a distance within the bound. -/
def SeesNear (d : Device) : Prop := d.isRunning = true → |d.distance| ≤ Profile.maxDistance

instance : Decidable d.SeesNear := inferInstanceAs (Decidable (_ → _))

/-- The results of two ticks are mirror images. -/
structure MirroredTick (t u : Option Outcome × Device) : Prop where
  /-- The outcomes agree. -/
  outcome : u.1 = t.1
  /-- The commanded speeds. -/
  targetSpeed :
    (u.2.registers.param .targetSpeed).toInt = -(t.2.registers.param .targetSpeed).toInt
  /-- The current speeds. -/
  actualSpeed : u.2.actualSpeed.toInt = -t.2.actualSpeed.toInt
  /-- The carried travel. -/
  carry : u.2.registers.motor.carry.toInt = -t.2.registers.motor.carry.toInt
  /-- The distances that a pass stored. -/
  remaining : t.1 = some .looped → (u.2.registers.global Profile.remainingDistance).toInt =
    -(t.2.registers.global Profile.remainingDistance).toInt
  /-- The braking distances that a pass stored. -/
  trigger : t.1 = some .looped → (u.2.registers.global Profile.decelerationTrigger).toInt =
    -(t.2.registers.global Profile.decelerationTrigger).toInt

/-- The distances are negatives as words, however large they are. -/
theorem remaining_of_distance (h : e.distance = -d.distance) :
    e.drive.remaining = -d.drive.remaining := by
  have hd : d.distance = d.drive.target.toInt - d.drive.motor.encoder.toInt := rfl
  have he : e.distance = e.drive.target.toInt - e.drive.motor.encoder.toInt := rfl
  rw [← Int32.toInt_inj, Int32.toInt_neg, Drive.remaining, Drive.remaining, Int32.toInt_sub,
    Int32.toInt_sub, ← hd, ← he, h, Int.bmod_neg_bmod]

/-- The drives of mirrored modules are mirrored. -/
theorem Mirrored.drive (h : Mirrored d e) : d.drive.Mirrored e.drive where
  state := .inl ⟨h.left.due, h.right.due⟩
  motor := ⟨h.targetSpeed, h.actualSpeed, h.carry, h.abs_actualSpeed, h.abs_carry⟩
  remaining := remaining_of_distance h.distance
  maximumSpeed := h.maximumSpeed
  maximumAcceleration := h.maximumAcceleration

/-- A drive that is about to run a pass sees the distance of its module. -/
theorem SeesNear.toInt_remaining (h : d.SeesNear) (hdue : d.drive.IsDue) :
    d.drive.remaining.toInt = d.distance ∧ |d.drive.remaining.toInt| ≤ Profile.maxDistance := by
  have hnear := h (Interpreter.IsDue.isRunning hdue)
  have hexact : d.drive.remaining.toInt = d.distance := toInt_sub_encoder hnear
  exact ⟨hexact, by rwa [hexact]⟩

/-- One tick of two mirror images. -/
theorem mirroredTick_of_drive (hd : d.Driven) (he : e.Driven) (h : d.drive.Mirrored e.drive)
    (hnear : d.SeesNear) :
    MirroredTick d.tick e.tick ∧ d.tick.2.drive.Mirrored e.tick.2.drive := by
  obtain ⟨houtcome, hdrive⟩ := h.tick fun hdue ↦ (hnear.toInt_remaining hdue).2
  rw [← hd.outcome_tick, ← he.outcome_tick] at houtcome
  rw [← hd.drive_tick, ← he.drive_tick] at hdrive
  refine ⟨⟨houtcome, hdrive.motor.targetSpeed, hdrive.motor.actualSpeed, hdrive.motor.carry,
    fun hlooped ↦ ?_, fun hlooped ↦ ?_⟩, hdrive⟩
  · have hdue : d.drive.IsDue := by
      rcases h.state with ⟨hdue, -⟩ | ⟨harrived, -⟩
      · exact hdue
      · rw [hd.outcome_tick, harrived.tick_eq] at hlooped
        cases hlooped
    rw [(hd.scratch_tick hlooped).1, (he.scratch_tick (houtcome.trans hlooped)).1]
    exact h.toInt_remaining (hnear.toInt_remaining hdue).2
  · rw [(hd.scratch_tick hlooped).2, (he.scratch_tick (houtcome.trans hlooped)).2,
      Profile.toInt_brakingWord h.motor.symm.abs_actualSpeed,
      Profile.toInt_brakingWord h.motor.abs_actualSpeed, h.motor.actualSpeed,
      Profile.brakingDistance_neg]

/-- The run lemma: as long as every pass sees a near target the drives stay mirrored. -/
theorem mirrored_runTicks (h : Mirrored d e) {n : ℕ} (hnear : ∀ k < n, (runTicks k d).SeesNear) :
    (runTicks n d).Driven ∧ (runTicks n e).Driven ∧
      (runTicks n d).drive.Mirrored (runTicks n e).drive := by
  induction n with
  | zero => exact ⟨h.left.driven, h.right.driven, h.drive⟩
  | succ n ih =>
    obtain ⟨hd, he, hdrive⟩ := ih fun k hk ↦ hnear k (by omega)
    rw [runTicks_succ', runTicks_succ']
    exact ⟨hd.tick, he.tick, (mirroredTick_of_drive hd he hdrive (hnear n n.lt_succ_self)).2⟩

/-- Where both passes see a distance within the bound, or none is left, the distances are exact. -/
theorem distance_of_drive (h : d.drive.Mirrored e.drive) (hd : d.SeesNear) (he : e.SeesNear) :
    e.distance = -d.distance := by
  rcases h.state with ⟨hdue, hdue'⟩ | ⟨harrived, harrived'⟩
  · obtain ⟨hexact, hbound⟩ := hd.toInt_remaining hdue
    rw [← hexact, ← (he.toInt_remaining hdue').1, h.toInt_remaining hbound]
  · have hzero := distance_eq_zero_iff.mpr (Drive.remaining_eq_zero_iff.mp harrived.remaining)
    have hzero' := distance_eq_zero_iff.mpr (Drive.remaining_eq_zero_iff.mp harrived'.remaining)
    rw [hzero, hzero', neg_zero]

/-- **Forward and reverse motion mirror each other.** As long as the passes see distances within the
bound, the outcomes agree, and everything signed is the negative. The distance after a tick is the
one that the next pass sees; before that pass an encoder may have wrapped. -/
theorem tick_runTicks_mirrored (h : Mirrored d e) {n : ℕ}
    (hnear : ∀ k ≤ n, (runTicks k d).SeesNear) :
    MirroredTick (runTicks n d).tick (runTicks n e).tick ∧
      ((runTicks n e).SeesNear → (runTicks n e).distance = -(runTicks n d).distance) := by
  obtain ⟨hd, he, hdrive⟩ := mirrored_runTicks h fun k hk ↦ hnear k hk.le
  exact ⟨(mirroredTick_of_drive hd he hdrive (hnear n le_rfl)).1,
    distance_of_drive hdrive (hnear n le_rfl)⟩

/-- The bounds on speed and carried travel exclude no module that is in use. However it is used and
whatever programs it runs, it stays within them. -/
theorem Reachable.abs_actualSpeed_and_abs_carry (h : d.Reachable) :
    |d.actualSpeed.toInt| ≤ 2047 ∧ |d.registers.motor.carry.toInt| < 64 :=
  ⟨h.inRange.abs_actualSpeed, h.sound.abs_carry⟩

/-- The mirror image of `reversing`, still in its initial wait. -/
def advancing : Device :=
  { reversing with
    registers :=
      { (Registers.initial 0).storeUser 0 200000 with
        motor := { targetSpeed := 2000, actualSpeed := 1500, encoder := -100000, carry := 5 } }
    interpreter := { pc := 1, state := .waiting 1 } }

theorem tick_runTicks_mirrored_reversing :
    Mirrored reversing advancing ∧ (∀ k ≤ 2, (runTicks k reversing).SeesNear) ∧
      MirroredTick (runTicks 2 reversing).tick (runTicks 2 advancing).tick ∧
      (runTicks 2 advancing).distance = -(runTicks 2 reversing).distance := by
  have hmirrored : Mirrored reversing advancing :=
    ⟨⟨rfl, rfl, .inl rfl⟩, ⟨rfl, rfl, .inr ⟨1, le_refl 1, rfl⟩⟩, by decide, by decide, by decide,
      by decide, by decide, by decide, by decide, by decide⟩
  have hnear : ∀ k ≤ 2, (runTicks k reversing).SeesNear := by decide +kernel
  have hnear' : (runTicks 2 advancing).SeesNear := by decide +kernel
  obtain ⟨htick, hdistance⟩ := tick_runTicks_mirrored hmirrored hnear
  exact ⟨hmirrored, hnear, htick, hdistance hnear'⟩

end Device

end FocusDrive
