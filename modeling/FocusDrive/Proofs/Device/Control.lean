import FocusDrive.Proofs.Device.Standstill
import FocusDrive.Proofs.Interpreter.Control

/-!
# The running program of a module

A module can be given another program at any time at which none runs, and its interpreter keeps the
program counter that the last program left. So the program counter of a module need not be inside
the program that is loaded, and nothing is said about it while no program runs: a start clears it.
While a program runs it is the loaded one, it is not replaced, and control is inside it (`Loaded`).
-/

namespace FocusDrive

namespace Device

/-- A program that runs is loaded, and control is inside it. -/
def Loaded (d : Device) : Prop :=
  d.isRunning = true → ∃ program, d.program = some program ∧ d.interpreter.Within program

variable {d : Device}

/-- With no program running there is nothing to be loaded. -/
theorem loaded_of_idle (h : d.isRunning = false) : d.Loaded := by
  intro hrunning
  rw [h] at hrunning
  cases hrunning

/-- Only the program and the interpreter matter. -/
theorem Loaded.of_eq (h : d.Loaded) {d' : Device} (hprogram : d'.program = d.program)
    (hinterpreter : d'.interpreter = d.interpreter) : d'.Loaded := by
  rw [Loaded, isRunning, hprogram, hinterpreter]
  exact h

/-- No request replaces a program that runs. -/
theorem program_handle_of_running (h : d.isRunning = true) (r : Request) :
    (d.handle r).2.program = d.program :=
  d.program_handle fun _ _ ↦ h

/-- A program is started in the memory that it was loaded into. -/
theorem Loaded.start (d : Device) {program : Program} (hprogram : d.program = some program) :
    (d.start program).Loaded := by
  intro _
  rw [start_eq]
  exact ⟨program, hprogram,
    (Interpreter.run_within (Interpreter.within_started program) _).toWithin⟩

/-- No request replaces a running program. -/
theorem Loaded.handle (h : d.Loaded) (r : Request) : (d.handle r).2.Loaded := by
  cases hcontrol : r.isProgramControl with
  | false => exact h.of_eq (d.handle_frame hcontrol).1 (d.handle_frame hcontrol).2
  | true =>
    cases r with
    | startProgram =>
      rw [Device.handle]
      split
      next => exact h
      next program hprogram => exact .start d hprogram
    | stopProgram => exact loaded_of_idle (Interpreter.isRunning_halt _)
    | upload program =>
      rcases d.handle_upload_cases program with hsame | ⟨hidle, hnew⟩
      · rwa [hsame]
      · -- control is wherever the last program has left it
        rw [hnew]
        exact loaded_of_idle hidle
    | _ => cases hcontrol

/-- The program part of a tick is a tick of the interpreter on the registers. -/
theorem tickProgram_of_program {program : Program} (h : d.program = some program) :
    d.tickProgram =
      ((d.interpreter.tick program d.registers).1,
        { d with
          interpreter := (d.interpreter.tick program d.registers).2.1
          registers := (d.interpreter.tick program d.registers).2.2 }) := by
  rw [tickProgram, h]

/-- A tick does not touch the program memory. -/
theorem Loaded.tick (h : d.Loaded) : d.tick.2.Loaded := by
  cases hrunning : d.isRunning with
  | false =>
    rw [tick_of_idle hrunning]
    exact loaded_of_idle hrunning
  | true =>
    obtain ⟨program, hprogram, hwithin⟩ := h hrunning
    intro _
    rw [tick_eq, tickProgram_of_program hprogram]
    exact ⟨program, hprogram, (Interpreter.tick_within hwithin d.registers).toWithin⟩

/-- Whatever was requested, what runs is what is in the memory. -/
theorem Reachable.loaded (h : d.Reachable) : d.Loaded := by
  induction h with
  | initial position capacity => exact loaded_of_idle rfl
  | handle _ r ih => exact ih.handle r
  | tick _ ih => exact ih.tick

end Device

/-- **Control stays inside the program.** This holds of an interpreter that is used with one program
in any way and with any registers, and every fault tells where its cause is. It holds of a module
that is given one program after the other while it runs any of them, and no request and no tick
replaces a program that runs. -/
theorem control_inside :
    (∀ (program : Program) (m : Interpreter), m.Reached program →
      m.pc ≤ program.size ∧
        ∀ (ρ : Type) [RegisterFile ρ] (regs : ρ) (f : Fault),
          ((m.run program regs).1 = .faulted f →
            f.Arose program (m.run program regs).2.1 ∧
              (m.run program regs).2.1.state = .idle) ∧
          ((m.tick program regs).1 = some (.faulted f) →
            f.Arose program (m.tick program regs).2.1 ∧
              (m.tick program regs).2.1.state = .idle)) ∧
    ∀ d : Device, d.Reachable → d.isRunning = true →
      (∃ program, d.program = some program ∧ d.interpreter.pc ≤ program.size) ∧
        d.tick.2.program = d.program ∧ ∀ r, (d.handle r).2.program = d.program := by
  refine ⟨fun program m hm ↦ ⟨hm.within.pc_le, fun ρ _ regs f ↦ ⟨?_, ?_⟩⟩, fun d hd hrunning ↦ ?_⟩
  · intro hfault
    exact (Interpreter.run_within hm.within regs).arose f (congrArg some hfault)
  · intro hfault
    exact (Interpreter.tick_within hm.within regs).arose f hfault
  · obtain ⟨program, hprogram, hwithin⟩ := hd.loaded hrunning
    exact ⟨⟨program, hprogram, hwithin.pc_le⟩, d.memory_tick.1,
      d.program_handle_of_running hrunning⟩

/-- Waits for two ticks and divides by zero. -/
def dividing : Program where
  instructions := #[.wait 2, .calcX .div]
  size_pos := by decide
  jumps_inside := by decide

/-- The program runs into its division, and a module that has started it is waiting inside it. -/
theorem control_inside_dividing :
    ∃ m : Interpreter, m.Reached dividing ∧ m.pc ≤ dividing.size ∧
      (m.tick dividing (Registers.initial 0)).1 = some (.faulted (.divisionByZero 1)) ∧
      (Fault.divisionByZero 1).Arose dividing (m.tick dividing (Registers.initial 0)).2.1 ∧
      ∃ d : Device, d.Reachable ∧ d.isRunning = true ∧
        ∀ r, (d.handle r).2.program = d.program := by
  have hwaiting : (Interpreter.started.run dividing (Registers.initial 0)).2.1.Reached dividing :=
    .run (.start .initial) _
  have hdue := hwaiting.tick (Registers.initial 0)
  obtain ⟨hpc, hfaults⟩ := control_inside.1 dividing _ hdue
  have hfault := (hfaults Registers (.initial 0) (.divisionByZero 1)).2
  have hdevice := ((Device.Reachable.initial 0 2).handle (.upload dividing)).handle .startProgram
  have hrunning := control_inside.2 _ hdevice (by decide +kernel)
  exact ⟨_, hdue, hpc, by decide +kernel, (hfault (by decide +kernel)).1, _, hdevice,
    by decide +kernel, hrunning.2.2⟩

end FocusDrive
