import FocusDrive.Proofs.Device.Profiled

/-!
# The drive inside a module

A module holds dozens of words, and the profile program keeps some of its own between two passes: an
accumulator, an exchange register, the result of a comparison, two scratch variables. The motion
depends on very few of them. `Drive` is what is left, and `Drive.tick` is a tick of it, in which no
program occurs any more.

`Driven.outcome_tick` and `Driven.drive_tick` say that this is not an approximation: a module with
the profile program, seen as a drive, ticks as the drive does. A statement that compares two modules
under the program is therefore a statement about two drives.
-/

namespace FocusDrive

/-- What the motion of a module under the profile program depends on. -/
structure Drive where
  /-- Whether the program runs. -/
  state : RunState
  /-- The motor. -/
  motor : Motor
  /-- Where the program drives to. -/
  target : Int32
  /-- The speed setting. -/
  maximumSpeed : Int32
  /-- The acceleration setting. -/
  maximumAcceleration : Int32
deriving DecidableEq

namespace Drive

/-- The distance to the target as a word. -/
def remaining (v : Drive) : Int32 := v.target - v.motor.encoder

/-- The motor once the program has commanded a speed. -/
def commanded (v : Drive) : Motor :=
  v.motor.setTargetSpeed (Profile.commandWord v.motor.actualSpeed v.remaining)

/-- One pass of the program: its outcome, and what it makes of the state and the motor. -/
def pass (v : Drive) : Outcome × RunState × Motor :=
  if v.remaining = 0 then (.halted, .idle, v.motor.stop) else (.looped, .running, v.commanded)

/-- The program's share of a tick. -/
def control (v : Drive) : Option Outcome × RunState × Motor :=
  match v.state with
  | .idle => (none, .idle, v.motor)
  | .waiting (n + 2) => (some .waiting, .waiting (n + 1), v.motor)
  | .waiting _ | .running => (some v.pass.1, v.pass.2)

/-- The next tick runs a pass. -/
def IsDue (v : Drive) : Prop := v.state = .running ∨ ∃ n ≤ 1, v.state = .waiting n

/-- Advance by one tick. -/
def tick (v : Drive) : Option Outcome × Drive :=
  (v.control.1,
    { v with
      state := v.control.2.1
      motor := v.control.2.2.update v.maximumSpeed v.maximumAcceleration })

variable {v : Drive}

/-! ### The tick, case by case -/

/-- The program is over, due, or in a wait that does not end with this tick. -/
theorem idle_or_isDue_or_waiting (v : Drive) :
    v.state = .idle ∨ v.IsDue ∨ ∃ n, v.state = .waiting (n + 2) :=
  ({ state := v.state } : Interpreter).idle_or_isDue_or_waiting

theorem control_of_idle (h : v.state = .idle) : v.control = (none, .idle, v.motor) := by
  rw [control, h]

theorem control_of_waiting {n : ℕ} (h : v.state = .waiting (n + 2)) :
    v.control = (some .waiting, .waiting (n + 1), v.motor) := by
  rw [control, h]

/-- When it is due the program makes one pass. -/
theorem control_of_due (h : v.IsDue) : v.control = (some v.pass.1, v.pass.2) := by
  rcases h with h | ⟨n, hn, h⟩
  · rw [control, h]
  · obtain rfl | rfl : n = 0 ∨ n = 1 := by omega
    all_goals rw [control, h]

/-- A command changes the speed and not the encoder. -/
@[simp] theorem encoder_commanded (v : Drive) : v.commanded.encoder = v.motor.encoder := by
  rw [commanded, Motor.setTargetSpeed]

/-- The remaining distance is zero at the target only, also when the difference wraps around. -/
theorem remaining_eq_zero_iff : v.remaining = 0 ↔ v.target = v.motor.encoder := by
  rw [remaining, Int32.sub_eq_iff_eq_add, Int32.zero_add]

end Drive

namespace Device

/-- The drive inside the module. -/
def drive (d : Device) : Drive where
  state := d.interpreter.state
  motor := d.registers.motor
  target := d.registers.global Profile.targetPosition
  maximumSpeed := d.registers.param .maximumSpeed
  maximumAcceleration := d.registers.param .maximumAcceleration

/-- The profile program is loaded, and it has ended, waits at its start or is in its loop. -/
structure Driven (d : Device) : Prop where
  /-- The profile program is loaded. -/
  program : d.program = some profile
  /-- A program that runs or waits goes on at the start of its loop. -/
  pc : d.isRunning = true → d.interpreter.pc = Profile.loopStart

variable {d : Device}

/-- A module at the head of the loop is driven. -/
theorem AtLoop.driven (h : d.AtLoop) : d.Driven := ⟨h.program, fun _ ↦ h.pc⟩

namespace Driven

/-- What the program can do in a tick: nothing, wait on, or run a pass of its loop. -/
theorem tickProgram_cases (h : d.Driven) :
    d.interpreter.state = .idle ∧ d.tickProgram = (none, d) ∨
      (∃ n, d.interpreter.state = .waiting (n + 2) ∧ d.tickProgram = (some .waiting,
        { d with interpreter := { d.interpreter with state := .waiting (n + 1) } })) ∨
      d.AtLoop := by
  rcases d.interpreter.idle_or_isDue_or_waiting with hidle | hdue | ⟨n, hn⟩
  · exact .inl ⟨hidle, tickProgram_of_idle (by simp [isRunning, Interpreter.isRunning, hidle])⟩
  · exact .inr (.inr ⟨h.program, h.pc hdue.isRunning, hdue⟩)
  · refine .inr (.inl ⟨n, hn, ?_⟩)
    rw [tickProgram, h.program]
    simp only [Interpreter.tick_of_waiting hn]

/-- The program's share of a tick is that of the drive. -/
theorem drive_tickProgram (h : d.Driven) :
    d.tickProgram.1 = d.drive.control.1 ∧
      d.tickProgram.2.drive =
        { d.drive with state := d.drive.control.2.1, motor := d.drive.control.2.2 } ∧
      d.tickProgram.2.Driven := by
  rcases h.tickProgram_cases with ⟨hidle, htick⟩ | ⟨n, hn, htick⟩ | hloop
  · rw [htick, Drive.control_of_idle hidle]
    refine ⟨rfl, ?_, h⟩
    show d.drive = { d.drive with state := .idle }
    rw [← hidle]
    rfl
  · rw [htick, Drive.control_of_waiting hn]
    exact ⟨rfl, rfl, h.program, fun _ ↦ h.pc (by simp [isRunning, Interpreter.isRunning, hn])⟩
  · rw [Drive.control_of_due (v := d.drive) hloop.due, Drive.pass]
    by_cases heq : d.registers.global Profile.targetPosition = d.encoder
    · rw [if_pos (Drive.remaining_eq_zero_iff.mpr heq), tickProgram_of_eq_target hloop heq]
      refine ⟨rfl, ?_, h.program, fun hrunning ↦ absurd hrunning Bool.false_ne_true⟩
      have htarget : (d.registers.users.set 1 0).get 0 = d.registers.users.get 0 :=
        UserTable.get_set_of_ne _ (by decide) 0
      exact congrArg (fun t ↦ ({ d.drive with
        state := .idle, motor := d.registers.motor.stop, target := t } : Drive)) htarget
    · obtain ⟨a, x, c, htick⟩ := tickProgram_of_ne_target hloop heq
      rw [if_neg (mt Drive.remaining_eq_zero_iff.mp heq), htick]
      refine ⟨rfl, ?_, h.program, fun _ ↦ rfl⟩
      -- the pass writes two user variables, and neither is the target
      have htarget (b r : Int32) :
          ((d.registers.users.set 1 r).set 2 b).get 0 = d.registers.users.get 0 := by
        rw [UserTable.get_set_of_ne _ (by decide), UserTable.get_set_of_ne _ (by decide)]
      exact congrArg (fun t ↦ ({ d.drive with
        state := .running, motor := d.drive.commanded, target := t } : Drive)) (htarget _ _)

/-- The outcome of a tick is that of the drive. -/
theorem outcome_tick (h : d.Driven) : d.tick.1 = d.drive.tick.1 := by
  rw [tick_eq, Drive.tick]
  exact h.drive_tickProgram.1

/-- **A module under the profile program moves as its drive does.** -/
theorem drive_tick (h : d.Driven) : d.tick.2.drive = d.drive.tick.2 := by
  have htick : d.tick.2.drive = { d.tickProgram.2.drive with
      motor := d.tickProgram.2.drive.motor.update d.tickProgram.2.drive.maximumSpeed
        d.tickProgram.2.drive.maximumAcceleration } := by
    rw [tick_eq]
    rfl
  rw [htick, h.drive_tickProgram.2.1, Drive.tick]

/-- After a tick the program is in the loop again, or over. -/
theorem tick (h : d.Driven) : d.tick.2.Driven := by
  obtain ⟨-, -, hprogram, hpc⟩ := h.drive_tickProgram
  rw [tick_eq]
  exact ⟨hprogram, hpc⟩

/-- After a pass that went on, the scratch variables hold the distance and the braking distance that
the drive had before. -/
theorem scratch_tick (h : d.Driven) (hlooped : d.tick.1 = some .looped) :
    d.tick.2.registers.global Profile.remainingDistance = d.drive.remaining ∧
      d.tick.2.registers.global Profile.decelerationTrigger =
        Profile.brakingWord d.drive.motor.actualSpeed d.drive.motor.actualSpeed := by
  have hprogram : d.tickProgram.1 = some .looped := by
    rw [tick_eq] at hlooped
    exact hlooped
  rcases h.tickProgram_cases with ⟨-, htick⟩ | ⟨n, -, htick⟩ | hloop
  · rw [htick] at hprogram
    cases hprogram
  · rw [htick] at hprogram
    cases hprogram
  · by_cases heq : d.registers.global Profile.targetPosition = d.encoder
    · rw [tickProgram_of_eq_target hloop heq] at hprogram
      cases hprogram
    · obtain ⟨a, x, c, htick⟩ := tick_of_ne_target hloop heq
      rw [htick]
      constructor
      · show ((d.registers.users.set 1 _).set 2 _).get 1 = _
        rw [UserTable.get_set_of_ne _ (by decide), UserTable.get_set_self]
        rfl
      · show ((d.registers.users.set 1 _).set 2 _).get 2 = _
        rw [UserTable.get_set_self]
        rfl

end Driven

end Device

end FocusDrive
