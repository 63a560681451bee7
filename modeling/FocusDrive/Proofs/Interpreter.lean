import FocusDrive.Interpreter
import Mathlib.Tactic.Linarith

/-!
# Ticks and the registers

Two facts about the interpreter that hold for every program.

`tick_of_isDue` says which ticks run a pass, and that the pass starts where the interpreter stands.

A program changes the registers only through the four accesses of a `RegisterFile`. A property that
all four keep (`RegisterInvariant`) is therefore kept by an instruction, and from there by a pass,
a run and a tick, whatever the program does.
-/

namespace FocusDrive

namespace Interpreter

variable {ρ : Type} [RegisterFile ρ]

/-! ### Ticks that run a pass -/

/-- The next tick runs a pass: the program runs, or its wait is over with that tick. -/
def IsDue (m : Interpreter) : Prop := m.state = .running ∨ ∃ n ≤ 1, m.state = .waiting n

theorem IsDue.isRunning {m : Interpreter} (h : m.IsDue) : m.isRunning = true := by
  rcases h with h | ⟨n, -, h⟩ <;> simp [Interpreter.isRunning, h]

/-- A tick that is due runs a pass from where the interpreter stands. -/
theorem tick_of_isDue {m : Interpreter} (h : m.IsDue) (program : Program) (regs : ρ) :
    m.tick program regs =
      (some (pass program instructionBudget { m with state := .running } regs).1,
        (pass program instructionBudget { m with state := .running } regs).2) := by
  have hrun : ({ m with state := .running } : Interpreter).run program regs =
      pass program instructionBudget { m with state := .running } regs := if_pos rfl
  rcases h with h | ⟨n, hn, h⟩
  · rw [tick, h]
    simp only [hrun]
  · obtain rfl | rfl : n = 0 ∨ n = 1 := by omega
    all_goals
      rw [tick, h]
      simp only [hrun]

/-- A tick does nothing, runs a pass or counts down a wait. -/
theorem idle_or_isDue_or_waiting (m : Interpreter) :
    m.state = .idle ∨ m.IsDue ∨ ∃ n, m.state = .waiting (n + 2) := by
  rcases hstate : m.state with _ | _ | _ | _ | n
  · exact .inl rfl
  · exact .inr (.inl (.inl hstate))
  · exact .inr (.inl (.inr ⟨0, by omega, hstate⟩))
  · exact .inr (.inl (.inr ⟨1, by omega, hstate⟩))
  · exact .inr (.inr ⟨n, rfl⟩)

/-- A wait that is not over is counted down, and nothing else happens. -/
theorem tick_of_waiting {m : Interpreter} {n : ℕ} (h : m.state = .waiting (n + 2))
    (program : Program) (regs : ρ) :
    m.tick program regs = (some .waiting, { m with state := .waiting (n + 1) }, regs) := by
  rw [tick, h]

/-! ### What no access destroys -/

/-- A property of the registers that every access keeps. -/
structure RegisterInvariant (P : ρ → Prop) : Prop where
  /-- It is kept by reading a parameter. -/
  readParam : ∀ p regs, P regs → P (RegisterFile.readParam p regs).2
  /-- It is kept by writing a parameter. -/
  writeParam : ∀ p v regs, P regs → P (RegisterFile.writeParam p v regs)
  /-- It is kept by reading a global variable. -/
  readGlobal : ∀ g regs, P regs → P (RegisterFile.readGlobal g regs).2
  /-- It is kept by writing a global variable. -/
  writeGlobal : ∀ g v regs, P regs → P (RegisterFile.writeGlobal g v regs)

namespace RegisterInvariant

variable {P : ρ → Prop}

omit [RegisterFile ρ] in
theorem accumulate (m : Interpreter) {regs : ρ} (hregs : P regs) (address : Nat)
    (v : Option Int32) : P (m.accumulate regs address v).2.2 := by
  cases v <;> exact hregs

/-- The only instructions that reach the registers are the four accesses. -/
theorem execute (h : RegisterInvariant P) (m : Interpreter) {regs : ρ} (hregs : P regs)
    (address : Nat) (i : Instruction) : P (m.execute regs address i).2.2 := by
  cases i with
  | wait ticks =>
    rw [Interpreter.execute]
    split <;> exact hregs
  | stop => exact hregs
  | getParam p => exact h.readParam p regs hregs
  | setParam p source => exact h.writeParam p _ regs hregs
  | getGlobal g => exact h.readGlobal g regs hregs
  | setGlobal g source => exact h.writeGlobal g _ regs hregs
  | calcImm op v => cases op <;> first | exact hregs | exact accumulate m hregs address _
  | calcX op => cases op <;> first | exact hregs | exact accumulate m hregs address _
  | comp v => exact hregs
  | jumpIf c target =>
    rw [Interpreter.execute]
    split <;> exact hregs
  | jump target => exact hregs

/-- One instruction keeps the property. -/
theorem step (h : RegisterInvariant P) (m : Interpreter) (program : Program) {regs : ρ}
    (hregs : P regs) : P (m.step program regs).2.2 := by
  rw [Interpreter.step]
  split
  · exact hregs
  · exact h.execute _ hregs _ _

/-- A pass keeps the property, since each of its instructions does. -/
theorem pass (h : RegisterInvariant P) (program : Program) (budget : Nat) (m : Interpreter)
    {regs : ρ} (hregs : P regs) : P (Interpreter.pass program budget m regs).2.2 := by
  induction budget generalizing m regs with
  | zero => exact hregs
  | succ budget ih =>
    have hstep := h.step m program hregs
    rcases hs : m.step program regs with ⟨_ | outcome, m', regs'⟩
    · rw [hs] at hstep
      rw [pass_of_step_none hs]
      exact ih m' hstep
    · rw [hs] at hstep
      rw [pass_of_step_some hs]
      exact hstep

theorem run (h : RegisterInvariant P) (m : Interpreter) (program : Program) {regs : ρ}
    (hregs : P regs) : P (m.run program regs).2.2 := by
  rw [Interpreter.run]
  split
  · exact h.pass program _ m hregs
  · exact hregs

/-- A tick keeps the property, whether it runs a pass or not. -/
theorem tick (h : RegisterInvariant P) (m : Interpreter) (program : Program) {regs : ρ}
    (hregs : P regs) : P (m.tick program regs).2.2 := by
  rw [Interpreter.tick]
  split
  · exact hregs
  · exact hregs
  · exact h.run _ program hregs
  · exact h.run _ program hregs

end RegisterInvariant

end Interpreter

end FocusDrive
