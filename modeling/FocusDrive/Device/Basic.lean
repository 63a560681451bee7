import FocusDrive.Device.Registers

/-!
# The simulated module

A module with one axis and a program memory. Time is explicit: `Device.tick` runs one tick of the
stored program and then moves the motor, in this order, so a speed commanded in a tick already acts
in the same tick.

The program status is a register, and reads inside a program see it. It is brought up to date after
every change of the interpreter's state (`Device.syncStatus`), never in the middle of a pass.
-/

namespace FocusDrive

/-- The state of a simulated module. -/
structure Device where
  /-- Parameters, global variables and the motor. -/
  registers : Registers
  /-- The interpreter of stored programs. -/
  interpreter : Interpreter := {}
  /-- The stored program, once there is one. -/
  program : Option Program := none
  /-- Instructions that program memory holds. -/
  capacity : Nat
  /-- Ticks since power-up. -/
  ticks : Nat := 0
deriving DecidableEq

namespace Device

/-- A module at power-up. -/
def initial (position : Int32) (capacity : Nat) : Device :=
  { registers := .initial position, capacity }

/-- The module that a configuration describes. -/
def ofConfig (c : SimulationConfig) : Device := initial c.initialPosition c.programCapacity

/-- The encoder count. -/
def encoder (d : Device) : Int32 := d.registers.motor.encoder

/-- The motor's speed. -/
def actualSpeed (d : Device) : Int32 := d.registers.motor.actualSpeed

/-- Whether the stored program runs. -/
def isRunning (d : Device) : Bool := d.interpreter.isRunning

/-- Bring the program status up to date. -/
def syncStatus (d : Device) : Device :=
  let status := if d.isRunning then GlobalVar.statusRunning else GlobalVar.statusStopped
  { d with registers := { d.registers with status } }

/-- The program's share of a tick; without a program nothing happens. -/
def tickProgram (d : Device) : Option Outcome × Device :=
  match d.program with
  | none => (none, d)
  | some program =>
    let (outcome, interpreter, registers) := d.interpreter.tick program d.registers
    (outcome, { d with interpreter, registers })

/-- Advance by one tick. The outcome is that of the program's pass, if a program was running. -/
def tick (d : Device) : Option Outcome × Device :=
  let (outcome, d) := d.tickProgram
  let d := d.syncStatus
  (outcome, { d with registers := d.registers.updateMotor, ticks := d.ticks + 1 })

/-- Advance by `n` ticks. -/
def runTicks : Nat → Device → Device
  | 0, d => d
  | n + 1, d => runTicks n d.tick.2

/-- Tick at most `max` times, until the program does not run, when `elapsed` ticks have been made
already. -/
def runUntilIdleFrom (elapsed : Nat) : Nat → Device → Option Nat × Device
  | 0, d => (if d.isRunning then none else some elapsed, d)
  | max + 1, d =>
    if d.isRunning then runUntilIdleFrom (elapsed + 1) max d.tick.2 else (some elapsed, d)

/-- Tick until the program does not run, at most `max` times, and count the ticks. There is no count
if the program still runs then. -/
def runUntilIdle (d : Device) (max : Nat) : Option Nat × Device := runUntilIdleFrom 0 max d

/-! ### Time -/

@[simp] theorem runTicks_zero (d : Device) : runTicks 0 d = d := rfl

theorem runTicks_succ (n : Nat) (d : Device) : runTicks (n + 1) d = runTicks n d.tick.2 := rfl

/-- Ticks made in two portions are the same ticks. -/
theorem runTicks_add (m n : Nat) (d : Device) : runTicks (m + n) d = runTicks n (runTicks m d) := by
  induction m generalizing d with
  | zero => simp
  | succ m ih => rw [Nat.succ_add, runTicks_succ, runTicks_succ, ih]

@[simp] theorem isRunning_syncStatus (d : Device) : d.syncStatus.isRunning = d.isRunning := rfl

/-- After it was brought up to date the status says whether the program runs. -/
theorem status_syncStatus (d : Device) :
    d.syncStatus.registers.status =
      if d.isRunning then GlobalVar.statusRunning else GlobalVar.statusStopped := rfl

end Device

end FocusDrive
