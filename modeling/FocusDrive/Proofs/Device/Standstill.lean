import FocusDrive.Proofs.Device.Profiled
import FocusDrive.Proofs.Device.Time

/-!
# A module at a standstill

While no program runs, time changes nothing in a module but its motor (`runTicks_of_idle`): the
settings, the variables and the program stay. Once the motor rests too, time changes nothing at all
but the count of ticks (`Standstill.runTicks`), so whatever was read from such a module stays true
of it until the next request.
-/

namespace FocusDrive

namespace Device

variable {d : Device}

/-! ### Time and memory -/

theorem memory_runTicks (n : Nat) (d : Device) :
    (runTicks n d).program = d.program ∧ (runTicks n d).capacity = d.capacity := by
  induction n generalizing d with
  | zero => exact ⟨rfl, rfl⟩
  | succ n ih =>
    obtain ⟨hprogram, hcapacity⟩ := ih d.tick.2
    exact ⟨hprogram.trans d.memory_tick.1, hcapacity.trans d.memory_tick.2⟩

/-- Ticks lead from reachable modules to reachable ones. -/
theorem Reachable.runTicks (h : d.Reachable) (n : Nat) : (Device.runTicks n d).Reachable := by
  induction n generalizing d with
  | zero => exact h
  | succ n ih => exact ih h.tick

/-! ### Time without a program -/

/-- The module with another motor state and another count of ticks. -/
def withMotion (d : Device) (motor : Motor) (ticks : Nat) : Device :=
  { d with registers := { d.registers with motor }, ticks }

/-- While no program runs, only the motor goes on. -/
theorem tick_of_sound_idle (h : d.Sound) (hidle : d.isRunning = false) :
    d.tick.2 = d.withMotion (d.registers.motor.update (d.registers.param .maximumSpeed)
      (d.registers.param .maximumAcceleration)) (d.ticks + 1) := by
  have hstatus : d.registers.status = GlobalVar.statusStopped := by
    rw [h.status, hidle]
    rfl
  rw [tick_of_idle hidle, withMotion, ← hstatus]

/-- With no program running, ticks change the motor and the count of ticks and nothing else. -/
theorem runTicks_of_idle (h : d.Sound) (hidle : d.isRunning = false) (n : Nat) :
    ∃ motor, |motor.carry.toInt| < 64 ∧ runTicks n d = d.withMotion motor (d.ticks + n) := by
  induction n with
  | zero => exact ⟨d.registers.motor, h.abs_carry, rfl⟩
  | succ n ih =>
    obtain ⟨motor, hcarry, hticks⟩ := ih
    have hsound : (d.withMotion motor (d.ticks + n)).Sound := ⟨hcarry, h.status⟩
    rw [runTicks_succ', hticks, tick_of_sound_idle hsound hidle]
    exact ⟨_, Motor.abs_carry_update _ _, rfl⟩

/-! ### Standstill -/

/-- No program runs and the motor rests. -/
structure Standstill (d : Device) : Prop extends d.Sound where
  /-- No program runs. -/
  idle : d.isRunning = false
  /-- The motor rests. -/
  atRest : d.registers.motor.IsAtRest

/-- The module with `n` more ticks counted. -/
def aged (d : Device) (n : Nat) : Device := { d with ticks := d.ticks + n }

@[simp] theorem registers_aged (d : Device) (n : Nat) : (d.aged n).registers = d.registers := rfl

@[simp] theorem encoder_aged (d : Device) (n : Nat) : (d.aged n).encoder = d.encoder := rfl

@[simp] theorem program_aged (d : Device) (n : Nat) : (d.aged n).program = d.program := rfl

@[simp] theorem capacity_aged (d : Device) (n : Nat) : (d.aged n).capacity = d.capacity := rfl

theorem aged_withRegisters (d : Device) (r : Registers) (n : Nat) :
    (d.withRegisters r).aged n = (d.aged n).withRegisters r :=
  rfl

theorem aged_aged (d : Device) (m n : Nat) : (d.aged m).aged n = d.aged (m + n) := by
  rw [aged, aged, aged, Nat.add_assoc]

/-! ### Writes -/

@[simp] theorem capacity_withRegisters (d : Device) (r : Registers) :
    (d.withRegisters r).capacity = d.capacity :=
  rfl

@[simp] theorem registers_withRegisters (d : Device) (r : Registers) :
    (d.withRegisters r).registers = r :=
  rfl

@[simp] theorem program_withRegisters (d : Device) (r : Registers) :
    (d.withRegisters r).program = d.program :=
  rfl

/-- With a target. -/
def withTarget (e : Device) (target : Int32) : Device :=
  e.withRegisters (e.registers.storeUser 0 target)

/-- The target variable takes every word. -/
theorem handle_setTarget (d : Device) (target : Int32) :
    d.handle (.setGlobal Profile.targetPosition target) = (.ok (), d.withTarget target) :=
  rfl

/-- The target that was written is read. -/
theorem global_withTarget (d : Device) (target : Int32) :
    (d.withTarget target).registers.global Profile.targetPosition = target :=
  UserTable.get_set_self _ _ target

theorem encoder_withTarget (d : Device) (target : Int32) :
    (d.withTarget target).encoder = d.encoder :=
  rfl

/-- It does not matter when the target is written. -/
theorem withTarget_aged (d : Device) (target : Int32) (n : Nat) :
    (d.aged n).withTarget target = (d.withTarget target).aged n :=
  rfl

namespace Standstill

/-- Time changes nothing about a standstill. -/
theorem aged (h : d.Standstill) (n : Nat) : (d.aged n).Standstill :=
  ⟨⟨h.abs_carry, h.status⟩, h.idle, h.atRest⟩

/-- At a standstill only the ticks are counted. -/
theorem runTicks (h : d.Standstill) (n : Nat) : Device.runTicks n d = d.aged n := by
  induction n with
  | zero => rfl
  | succ n ih =>
    rw [runTicks_succ', ih, tick_of_sound_idle (h.aged n).toSound h.idle]
    show d.withMotion (d.registers.motor.update _ _) (d.ticks + n + 1) = _
    rw [h.atRest.update]
    rfl

/-- Writes to the memory leave the module at a standstill. -/
theorem withRegisters (h : d.Standstill) {r : Registers} (hmotor : r.motor = d.registers.motor)
    (hstatus : r.status = d.registers.status) : (d.withRegisters r).Standstill where
  toSound := h.toSound.withRegisters (by rw [hmotor]; exact h.abs_carry) hstatus
  idle := h.idle
  atRest := by
    show r.motor.IsAtRest
    rw [hmotor]
    exact h.atRest

/-- Only a running program would act on the target. -/
theorem withTarget (h : d.Standstill) (target : Int32) : (d.withTarget target).Standstill :=
  h.withRegisters rfl rfl

end Standstill

/-- A module on course that does not run is at a standstill on its target. -/
theorem OnCourse.standstill {t : Int32} (h : d.OnCourse t) (hd : d.Sound)
    (hidle : d.isRunning = false) : d.Standstill ∧ d.encoder = t := by
  rcases h.running_or_arrived with hrun | ⟨-, hencoder, hrest⟩
  · rw [hidle] at hrun
    cases hrun
  · exact ⟨⟨hd, hidle, hrest⟩, hencoder⟩

end Device

end FocusDrive
