import FocusDrive.Controller
import FocusDrive.Proofs.Device.Loop
import FocusDrive.Proofs.Device.Reachable
import FocusDrive.Proofs.Profile.Wraparound

/-!
# What a pass commands, at any distance

The law of `tickProgram_controlLaw` ends where the doubled blend leaves the words. Here the target
speed after a tick is given for every target and every encoder count (`toInt_targetSpeed_tick`), and
two promises of the program are followed to the ends of the words.

* A speed is commanded whenever a distance is left, and it stays within the program's limit unless
  the blend is a neighbour of `2 ^ 31` (`targetSpeed_tick`). There the axis' own limit is all that
  holds.
* A motor at rest is sent toward its target up to a distance of `2 ^ 30` and away from it beyond
  (`sign_targetSpeed_tick`).
-/

namespace FocusDrive

namespace Device

variable {d : Device}

/-- The distance is a difference of two words. -/
theorem abs_distance_lt (d : Device) : |d.distance| < 2 ^ 32 := by
  have htarget := Word.bounds (d.registers.global Profile.targetPosition)
  have hencoder := Word.bounds d.encoder
  rw [distance, abs_lt]
  omega

/-- The program commands `Profile.wrappedCommand`, and the axis stores what it accepts of it. -/
theorem toInt_targetSpeed_tick (h : d.AtLoop) (hv : |d.actualSpeed.toInt| ≤ 2047)
    (hd : d.distance ≠ 0) :
    (d.tick.2.registers.param .targetSpeed).toInt =
      max (-2047) (min 2047 (Profile.wrappedCommand d.actualSpeed.toInt d.distance)) := by
  obtain ⟨a, x, c, htick⟩ := tick_of_ne_target h (mt distance_eq_zero_iff.mpr hd)
  have hword : (d.registers.global Profile.targetPosition - d.encoder).toInt =
      d.distance.bmod (2 ^ 32) := Int32.toInt_sub _ _
  have hmax : maxSpeed.toInt = 2047 := by decide
  rw [htick]
  show ((d.registers.motor.setTargetSpeed _).update _ _).targetSpeed.toInt = _
  rw [Motor.targetSpeed_update, Motor.setTargetSpeed, Motor.toInt_clamp_symmetric (by decide), hmax,
    Profile.toInt_commandWord_eq hv, hword, Profile.wrappedSpeed_bmod, Profile.wrappedCommand]

/-- At the target the program commands standstill. -/
theorem targetSpeed_tick_of_distance_eq_zero (h : d.AtLoop) (hd : d.distance = 0) :
    d.tick.2.registers.param .targetSpeed = 0 := by
  rw [tick_eq, tickProgram_of_eq_target h (distance_eq_zero_iff.mp hd)]
  rfl

/-- A module that was just started toward a target. -/
def heading (target : Int32) : Device :=
  (((initial 0 programMemory).handle (.upload profile)).2.handle
    (.setGlobal Profile.targetPosition target)).2.start profile

theorem reachable_heading (target : Int32) : (heading target).Reachable :=
  (((Reachable.initial 0 programMemory).handle (.upload profile)).handle
    (.setGlobal Profile.targetPosition target)).handle .startProgram

theorem atLoop_heading (target : Int32) : (heading target).AtLoop := atLoop_start rfl

/-! ### The limit -/

/-- **The speed limit.** A speed is commanded exactly if a distance is left. It is within the
program's limit unless the blend vanishes in the words, and then it is the fastest one that the axis
accepts. -/
theorem targetSpeed_tick (h : d.AtLoop) (hv : |d.actualSpeed.toInt| ≤ 2047) :
    ((d.tick.2.registers.param .targetSpeed).toInt = 0 ↔ d.distance = 0) ∧
      (¬Profile.Vanishes d.actualSpeed.toInt d.distance →
        |(d.tick.2.registers.param .targetSpeed).toInt| ≤ 2000) ∧
      (Profile.Vanishes d.actualSpeed.toInt d.distance →
        |(d.tick.2.registers.param .targetSpeed).toInt| = 2047) := by
  by_cases hd : d.distance = 0
  · rw [targetSpeed_tick_of_distance_eq_zero h hd]
    refine ⟨iff_of_true rfl hd, fun _ ↦ by decide, fun hvanishes ↦ ?_⟩
    -- the blend at distance `0` is far from the ends of the words
    have hfar := hvanishes.le_abs_bmod hv
    rw [hd] at hfar
    exact absurd hfar (by decide)
  · have hne := Profile.wrappedCommand_ne_zero d.actualSpeed.toInt hd d.abs_distance_lt
    obtain ⟨hwithin, hbeyond⟩ := Profile.abs_wrappedCommand hv d.abs_distance_lt
    rw [toInt_targetSpeed_tick h hv hd]
    refine ⟨iff_of_false (by omega) hd, fun hkept ↦ ?_, fun hvanishes ↦ ?_⟩
    · have hle := abs_le.mp (hwithin hkept)
      rw [abs_le]
      omega
    · rcases le_abs.mp (hbeyond hvanishes) with hfast | hfast
      · rw [min_eq_left hfast]
        decide
      · rw [min_eq_right (by omega), max_eq_left (by omega)]
        decide

/-- A module that has turned past the largest encoder count, which is where its target lies. -/
def adrift : Device where
  registers :=
    { (Registers.initial (-2147483648)).storeUser 0 2147483647 with
      motor := { targetSpeed := -600, actualSpeed := -600, encoder := -2147483648, carry := 9 } }
  interpreter := { pc := 1, accumulator := 7, x := -3, comparison := .gt, state := .running }
  program := some profile
  capacity := programMemory

/-- The distance is as large as it can be, and for the words it is `-1`. -/
theorem targetSpeed_tick_adrift :
    adrift.AtLoop ∧ adrift.distance = 4294967295 ∧
      (adrift.tick.2.registers.param .targetSpeed).toInt ≠ 0 ∧
      |(adrift.tick.2.registers.param .targetSpeed).toInt| ≤ 2000 := by
  have hloop : adrift.AtLoop := ⟨rfl, rfl, .inl rfl⟩
  have hdist : adrift.distance = 4294967295 := by decide
  have hspeed : adrift.actualSpeed.toInt = -600 := by decide
  obtain ⟨hzero, hwithin, -⟩ := targetSpeed_tick hloop (by rw [hspeed]; decide)
  refine ⟨hloop, hdist, mt hzero.mp (by rw [hdist]; decide), hwithin ?_⟩
  rw [Profile.Vanishes, hdist, hspeed]
  decide

/-- A fresh module that is sent to the smallest encoder count exceeds the limit at once. -/
theorem targetSpeed_tick_exceeded :
    ∃ d : Device, d.Reachable ∧ d.AtLoop ∧ |d.actualSpeed.toInt| ≤ 2047 ∧
      ¬|(d.tick.2.registers.param .targetSpeed).toInt| ≤ 2000 :=
  ⟨heading (-2147483648), reachable_heading _, atLoop_heading _, by decide, by decide +kernel⟩

/-! ### The direction -/

/-- **The direction from rest.** The motor is sent toward the target if the distance leaves room for
the doubling of the blend, and for three distances at the ends of the words. For all others it is
sent away from it. -/
theorem sign_targetSpeed_tick (h : d.AtLoop) (hrest : d.actualSpeed = 0)
    (lo : -2 ^ 31 ≤ d.distance) (hi : d.distance ≤ 2 ^ 31 - 1) (hd : d.distance ≠ 0) :
    (¬Profile.TurnsAway d.distance →
      (d.tick.2.registers.param .targetSpeed).toInt.sign = d.distance.sign) ∧
    (Profile.TurnsAway d.distance →
      (d.tick.2.registers.param .targetSpeed).toInt.sign = -d.distance.sign) := by
  have hzero : d.actualSpeed.toInt = 0 := by rw [hrest]; rfl
  have hne := Profile.wrappedCommand_ne_zero 0 hd d.abs_distance_lt
  have hstored : (d.tick.2.registers.param .targetSpeed).toInt.sign =
      (Profile.wrappedCommand 0 d.distance).sign := by
    rw [toInt_targetSpeed_tick h (by rw [hzero]; decide) hd, hzero]
    exact Profile.sign_eq_sign (by omega) hne (by omega)
  rw [hstored]
  exact Profile.sign_wrappedCommand lo hi hd

/-- `-2 ^ 30` is the last distance in its direction that leaves room for the doubling. -/
theorem sign_targetSpeed_tick_heading :
    (heading (-1073741824)).AtLoop ∧ (heading (-1073741824)).distance = -1073741824 ∧
      (heading (-1073741824)).tick.2.registers.param .targetSpeed < 0 := by
  have hloop := atLoop_heading (-1073741824)
  have hdist : (heading (-1073741824)).distance = -1073741824 := by decide +kernel
  have hsign := (sign_targetSpeed_tick hloop rfl (by rw [hdist]; decide) (by rw [hdist]; decide)
    (by rw [hdist]; decide)).1 (by rw [hdist, Profile.TurnsAway]; decide)
  rw [hdist] at hsign
  exact ⟨hloop, hdist, Int32.lt_iff_toInt_lt.mpr (Int.sign_eq_neg_one_iff_neg.mp hsign)⟩

/-- A fresh module after a controller has connected to it. -/
def connected : Except DriveError Controller × Device :=
  (connect bus {}).run.run (initial 0 programMemory)

/-- A controller accepts a move to `2 ^ 30`, and the module turns the other way. -/
theorem sign_targetSpeed_tick_away :
    ∃ controller link s, connected = (.ok controller, link) ∧
      (Controller.moveTo bus 1073741824).run.run ⟨controller, link⟩ = (.ok 0, s) ∧
      s.link.AtLoop ∧ s.link.actualSpeed = 0 ∧ s.link.distance = 1073741824 ∧
      (s.link.tick.2.registers.param .targetSpeed).toInt.sign ≠ s.link.distance.sign := by
  have hconnect : connected.1 = .ok { config := {} } := by decide +kernel
  have hmove : ((Controller.moveTo bus 1073741824).run.run
      ⟨{ config := {} }, connected.2⟩).1 = .ok 0 := by decide +kernel
  refine ⟨_, _, _, Prod.ext hconnect rfl, Prod.ext hmove rfl, ⟨?_, ?_, ?_⟩, ?_, ?_, ?_⟩
  · decide +kernel
  · decide +kernel
  · exact .inr ⟨1, le_refl 1, by decide +kernel⟩
  · decide +kernel
  · decide +kernel
  · decide +kernel

end Device

end FocusDrive
