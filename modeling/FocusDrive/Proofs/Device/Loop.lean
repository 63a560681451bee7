import FocusDrive.Device.Host
import FocusDrive.Proofs.Interpreter
import FocusDrive.Proofs.Motor
import FocusDrive.Proofs.Profile.ControlLaw

/-!
# The module in the loop of the profile program

A module is *at the loop* (`Device.AtLoop`) when it holds the profile program and the next tick runs
one pass of it. `tickProgram_of_atLoop` is the one place where the module, its interpreter and the
program meet: the program's share of that tick is `Profile.loop` on the registers. Everything said
later about the module in motion starts from the two cases of that pass.

`tickProgram_controlLaw` is the law itself. It speaks about reads of the registers and about the
distance as an integer, so nothing of the 32-bit arithmetic is left in it, and its last part says
that the pass leaves every register alone that the law does not mention.
-/

namespace FocusDrive

/-- What the two register states differ in is among the listed parameters and variables. -/
structure Registers.AgreeExcept (ps : List AxisParam) (gs : List GlobalVar)
    (r r' : Registers) : Prop where
  /-- The parameters that are not listed are the same. -/
  param : ∀ p ∉ ps, r'.param p = r.param p
  /-- The global variables that are not listed are the same. -/
  global : ∀ g ∉ gs, r'.global g = r.global g
  /-- The travel that the motor carries is the same. -/
  carry : r'.motor.carry = r.motor.carry

namespace Registers

variable {r r' r'' : Registers} {ps ps' : List AxisParam} {gs gs' : List GlobalVar}

/-- Two changes in a row change what either does. -/
theorem AgreeExcept.trans (h : r.AgreeExcept ps gs r') (h' : r'.AgreeExcept ps' gs' r'') :
    r.AgreeExcept (ps ++ ps') (gs ++ gs') r'' where
  param p hp := by
    rw [List.mem_append, not_or] at hp
    exact (h'.param p hp.2).trans (h.param p hp.1)
  global g hg := by
    rw [List.mem_append, not_or] at hg
    exact (h'.global g hg.2).trans (h.global g hg.1)
  carry := h'.carry.trans h.carry

/-- Storing a user variable changes that variable only. -/
theorem agreeExcept_storeUser (r : Registers) (n : UInt8) (v : Int32) :
    r.AgreeExcept [] [.user n] (r.storeUser n v) where
  param _ _ := rfl
  global g hg := by
    cases g with
    | status => rfl
    | user k =>
      refine UserTable.get_set_of_ne _ (fun hk ↦ hg ?_) v
      rw [hk]
      exact List.mem_singleton_self _
  carry := rfl

/-- Commanding a speed changes the target speed only. -/
theorem agreeExcept_setTargetSpeed (r : Registers) (v : Int32) :
    r.AgreeExcept [.targetSpeed] [] { r with motor := r.motor.setTargetSpeed v } where
  param p hp := by
    cases p <;> first | rfl | exact absurd (List.mem_singleton_self _) hp
  global _ _ := rfl
  carry := rfl

/-- Stopping the motor changes the two speeds only. -/
theorem agreeExcept_stop (r : Registers) :
    r.AgreeExcept [.targetSpeed, .actualSpeed] [] { r with motor := r.motor.stop } where
  param p hp := by
    cases p <;> first | rfl | exact absurd (by decide) hp
  global _ _ := rfl
  carry := rfl

end Registers

namespace Device

/-- The profile program is loaded, and the next tick runs it from the start of its loop. -/
structure AtLoop (d : Device) : Prop where
  /-- The profile program is loaded. -/
  program : d.program = some profile
  /-- The interpreter stands at the start of the loop. -/
  pc : d.interpreter.pc = Profile.loopStart
  /-- The next tick runs a pass. -/
  due : d.interpreter.IsDue

/-- The distance that remains to the target. -/
def distance (d : Device) : ℤ :=
  (d.registers.global Profile.targetPosition).toInt - d.encoder.toInt

variable {d : Device}

theorem AtLoop.isRunning (h : d.AtLoop) : d.isRunning = true := h.due.isRunning

/-- A start runs the program up to its wait. -/
theorem start_profile (d : Device) :
    d.start profile =
      { d with
        interpreter := ⟨Profile.loopStart, 0, 0, .eq, .waiting 1⟩
        registers := { d.registers with status := GlobalVar.statusRunning } } :=
  rfl

/-- A loaded program is started on request, running or not. -/
theorem handle_startProgram {program : Program} (h : d.program = some program) :
    d.handle .startProgram = (.ok (), d.start program) := by
  rw [handle, h]

/-- A fresh start of the profile stands at the head of the loop. -/
theorem atLoop_start (h : d.program = some profile) : (d.start profile).AtLoop := by
  rw [start_profile]
  exact ⟨h, rfl, .inr ⟨1, le_refl 1, rfl⟩⟩

/-- The distance is zero at the target only. -/
theorem distance_eq_zero_iff :
    d.distance = 0 ↔ d.registers.global Profile.targetPosition = d.encoder := by
  rw [distance, ← Int32.toInt_inj]
  omega

/-- Within the largest distance the difference of the two words is the distance. -/
theorem toInt_sub_encoder (h : |d.distance| ≤ Profile.maxDistance) :
    (d.registers.global Profile.targetPosition - d.encoder).toInt = d.distance := by
  have hd := abs_le.mp h
  rw [Profile.maxDistance, distance] at hd
  exact Word.toInt_sub (by omega) (by omega)

/-! ### One pass -/

/-- From the head of the loop a tick of the program is one turn of the loop. -/
theorem tickProgram_of_atLoop (h : d.AtLoop) :
    d.tickProgram =
      (some (Profile.loop d.registers).1,
        { d with
          interpreter := (Profile.loop d.registers).2.1
          registers := (Profile.loop d.registers).2.2 }) := by
  rw [tickProgram, h.program]
  simp only [Profile.tick_loopStart h.due h.pc]

/-- At the target the turn ends the program and stops the motor. -/
theorem tickProgram_of_eq_target (h : d.AtLoop)
    (heq : d.registers.global Profile.targetPosition = d.encoder) :
    d.tickProgram =
      (some .halted,
        { d with
          interpreter := ⟨11, 0, d.encoder, .eq, .idle⟩
          registers := { d.registers with
            users := d.registers.users.set 1 0
            motor := d.registers.motor.stop } }) := by
  rw [tickProgram_of_atLoop h, Profile.loop_of_eq_target heq]
  rfl

/-- Away from the target the turn comes back to the head of the loop with a new target speed. -/
theorem tickProgram_of_ne_target (h : d.AtLoop)
    (hne : d.registers.global Profile.targetPosition ≠ d.encoder) :
    ∃ a x c, d.tickProgram =
      (some .looped,
        { d with
          interpreter := ⟨Profile.loopStart, a, x, c, .running⟩
          registers := { d.registers with
            users := (d.registers.users.set 1
              (d.registers.global Profile.targetPosition - d.encoder)).set 2
              (Profile.brakingWord d.actualSpeed d.actualSpeed)
            motor := d.registers.motor.setTargetSpeed (Profile.commandWord d.actualSpeed
              (d.registers.global Profile.targetPosition - d.encoder)) } }) := by
  obtain ⟨a, x, c, hloop⟩ := Profile.loop_of_ne_target hne
  rw [tickProgram_of_atLoop h, hloop]
  exact ⟨a, x, c, rfl⟩

/-! ### One tick -/

/-- The registers after a tick, from those after the program's pass. -/
theorem tick_eq (d : Device) :
    d.tick = (d.tickProgram.1,
      { d.tickProgram.2 with
        registers :=
          { d.tickProgram.2.registers with
            status := if d.tickProgram.2.isRunning then GlobalVar.statusRunning
              else GlobalVar.statusStopped
            motor := d.tickProgram.2.registers.motor.update
              (d.tickProgram.2.registers.param .maximumSpeed)
              (d.tickProgram.2.registers.param .maximumAcceleration) }
        ticks := d.tickProgram.2.ticks + 1 }) :=
  rfl

/-- Time replaces no program and changes no capacity, whatever program runs. -/
theorem memory_tick (d : Device) :
    d.tick.2.program = d.program ∧ d.tick.2.capacity = d.capacity := by
  rw [tick_eq, tickProgram]
  split <;> exact ⟨rfl, rfl⟩

/-- The tick on target ends the program and stops the motor where it is. -/
theorem tick_of_eq_target (h : d.AtLoop)
    (heq : d.registers.global Profile.targetPosition = d.encoder)
    (hcarry : |d.registers.motor.carry.toInt| < 64) :
    d.tick =
      (some .halted,
        { d with
          interpreter := ⟨11, 0, d.encoder, .eq, .idle⟩
          registers := { d.registers with
            users := d.registers.users.set 1 0
            status := GlobalVar.statusStopped
            motor := d.registers.motor.stop }
          ticks := d.ticks + 1 }) := by
  have hrest := (Motor.isAtRest_stop hcarry).update (d.registers.param .maximumSpeed)
    (d.registers.param .maximumAcceleration)
  rw [tick_eq, tickProgram_of_eq_target h heq]
  show (some Outcome.halted, { d with
    interpreter := ⟨11, 0, d.encoder, .eq, .idle⟩
    registers := { d.registers with
      users := d.registers.users.set 1 0
      status := GlobalVar.statusStopped
      motor := d.registers.motor.stop.update (d.registers.param .maximumSpeed)
        (d.registers.param .maximumAcceleration) }
    ticks := d.ticks + 1 }) = _
  rw [hrest]

/-- The tick away from the target moves the motor at the commanded speed. -/
theorem tick_of_ne_target (h : d.AtLoop)
    (hne : d.registers.global Profile.targetPosition ≠ d.encoder) :
    ∃ a x c, d.tick =
      (some .looped,
        { d with
          interpreter := ⟨Profile.loopStart, a, x, c, .running⟩
          registers := { d.registers with
            users := (d.registers.users.set 1
              (d.registers.global Profile.targetPosition - d.encoder)).set 2
              (Profile.brakingWord d.actualSpeed d.actualSpeed)
            status := GlobalVar.statusRunning
            motor := (d.registers.motor.setTargetSpeed (Profile.commandWord d.actualSpeed
              (d.registers.global Profile.targetPosition - d.encoder))).update
              (d.registers.param .maximumSpeed) (d.registers.param .maximumAcceleration) }
          ticks := d.ticks + 1 }) := by
  obtain ⟨a, x, c, hpass⟩ := tickProgram_of_ne_target h hne
  refine ⟨a, x, c, ?_⟩
  rw [tick_eq, hpass]
  rfl

/-! ### The control law -/

/-- **The control law.** On target the pass stops the motor and ends the program. Away from it the
pass stores the distance and the braking distance and commands the speed of the law, which is not
`0` and within the limit; then the program is back at the start of its loop. Nothing else
changes. -/
theorem tickProgram_controlLaw (h : d.AtLoop) (hv : |d.actualSpeed.toInt| ≤ 2047)
    (hd : |d.distance| ≤ Profile.maxDistance) :
    (d.distance = 0 →
      ∃ d', d.tickProgram = (some .halted, d') ∧
        d'.interpreter.state = .idle ∧
        d'.registers.global Profile.remainingDistance = 0 ∧
        d'.registers.param .targetSpeed = 0 ∧
        d'.registers.param .actualSpeed = 0 ∧
        d.registers.AgreeExcept [.targetSpeed, .actualSpeed] [Profile.remainingDistance]
          d'.registers) ∧
    (d.distance ≠ 0 →
      ∃ d', d.tickProgram = (some .looped, d') ∧
        d'.interpreter.state = .running ∧
        d'.interpreter.pc = Profile.loopStart ∧
        (d'.registers.global Profile.remainingDistance).toInt = d.distance ∧
        (d'.registers.global Profile.decelerationTrigger).toInt =
          Profile.brakingDistance d.actualSpeed.toInt ∧
        (d'.registers.param .targetSpeed).toInt =
          Profile.commandedSpeed d.actualSpeed.toInt d.distance ∧
        Profile.commandedSpeed d.actualSpeed.toInt d.distance ≠ 0 ∧
        |Profile.commandedSpeed d.actualSpeed.toInt d.distance| ≤ 2000 ∧
        d.registers.AgreeExcept [.targetSpeed]
          [Profile.remainingDistance, Profile.decelerationTrigger] d'.registers) := by
  constructor
  · intro hzero
    refine ⟨_, tickProgram_of_eq_target h (distance_eq_zero_iff.mp hzero), rfl, ?_, rfl, rfl, ?_⟩
    · exact UserTable.get_set_self _ _ 0
    · exact (d.registers.agreeExcept_storeUser 1 0).trans (Registers.agreeExcept_stop _)
  · intro hne
    obtain ⟨a, x, c, htick⟩ := tickProgram_of_ne_target h (mt distance_eq_zero_iff.mpr hne)
    have hdist := toInt_sub_encoder hd
    have hword : (Profile.commandWord d.actualSpeed
        (d.registers.global Profile.targetPosition - d.encoder)).toInt =
        Profile.commandedSpeed d.actualSpeed.toInt d.distance := by
      rw [Profile.toInt_commandWord hv (by rwa [hdist]), hdist]
    have hlimit := Profile.abs_commandedSpeed hv d.distance
    refine ⟨_, htick, rfl, rfl, ?_, ?_, ?_, Profile.commandedSpeed_ne_zero _ hne, hlimit, ?_⟩
    · show (((d.registers.users.set 1 _).set 2 _).get 1).toInt = _
      rw [UserTable.get_set_of_ne _ (by decide), UserTable.get_set_self, hdist]
    · show (((d.registers.users.set 1 _).set 2 _).get 2).toInt = _
      rw [UserTable.get_set_self, Profile.toInt_brakingWord hv]
    · show (d.registers.motor.setTargetSpeed _).targetSpeed.toInt = _
      -- the commanded speed is within the axis' range, so storing it clamps nothing
      rw [Motor.toInt_setTargetSpeed _ (by rw [hword]; omega), hword]
    · exact ((d.registers.agreeExcept_storeUser 1 _).trans
        (Registers.agreeExcept_storeUser _ 2 _)).trans (Registers.agreeExcept_setTargetSpeed _ _)

/-- A module on its way back from `100000` to `-200000`, about to run a pass. -/
def reversing : Device where
  registers :=
    { (Registers.initial 100000).storeUser 0 (-200000) with
      motor := { targetSpeed := -2000, actualSpeed := -1500, encoder := 100000, carry := -5 } }
  interpreter := { pc := 1, accumulator := 7, x := -3, comparison := .gt, state := .running }
  program := some profile
  capacity := programMemory

/-- The braking distance of `-1500` is `-1607`, so the blend is far beyond the limit. -/
theorem tickProgram_controlLaw_reversing :
    reversing.AtLoop ∧ |reversing.actualSpeed.toInt| ≤ 2047 ∧
      |reversing.distance| ≤ Profile.maxDistance ∧
      reversing.distance = -300000 ∧
      ∃ d', reversing.tickProgram = (some .looped, d') ∧
        (d'.registers.global Profile.remainingDistance).toInt = -300000 ∧
        (d'.registers.global Profile.decelerationTrigger).toInt = -1607 ∧
        (d'.registers.param .targetSpeed).toInt = -2000 := by
  have hloop : reversing.AtLoop := ⟨rfl, rfl, .inl rfl⟩
  have hv : |reversing.actualSpeed.toInt| ≤ 2047 := by decide
  have hdist : reversing.distance = -300000 := by decide
  have hd : |reversing.distance| ≤ Profile.maxDistance := by
    rw [hdist]
    decide
  obtain ⟨d', htick, -, -, hremaining, htrigger, hspeed, -⟩ :=
    (tickProgram_controlLaw hloop hv hd).2 (by rw [hdist]; decide)
  exact ⟨hloop, hv, hd, hdist, d', htick, hremaining.trans hdist, htrigger,
    hspeed.trans (by rw [hdist]; decide)⟩

end Device

end FocusDrive
