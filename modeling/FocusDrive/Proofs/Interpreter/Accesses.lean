import FocusDrive.Interpreter

/-!
# Accesses to the registers

A register file may answer anything, so what a program did with it cannot be read off the registers
that it leaves. `Traced` is a register file that writes every access down, with the value that was
read or written. It answers as the register file underneath does, and therefore a run does not
notice it (`run_traced`, `tick_traced`): the record can be forgotten afterwards.

The reason is more general than that. Two register files between which there is a map that every
access respects (`RegisterFile.IsHom`) cannot be told apart by any program, instruction by
instruction (`RegisterFile.IsHom.execute`) and hence in a pass, a run and a tick.
-/

namespace FocusDrive

/-! ### The record -/

/-- One access to the registers, with the value that was read or written. -/
inductive Access
  /-- A parameter was read. -/
  | readParam (p : AxisParam) (v : Int32)
  /-- A parameter was written. -/
  | writeParam (p : AxisParam) (v : Int32)
  /-- A global variable was read. -/
  | readGlobal (g : GlobalVar) (v : Int32)
  /-- A global variable was written. -/
  | writeGlobal (g : GlobalVar) (v : Int32)
deriving DecidableEq, Repr

namespace Access

/-- Whether something was written. -/
def isWrite : Access → Bool
  | writeParam .. | writeGlobal .. => true
  | readParam .. | readGlobal .. => false

/-- The value, if the parameter was read. -/
def paramRead? (p : AxisParam) : Access → Option Int32
  | readParam q v => if q = p then some v else none
  | _ => none

/-- The value, if the global variable was read. -/
def globalRead? (g : GlobalVar) : Access → Option Int32
  | readGlobal h v => if h = g then some v else none
  | _ => none

end Access

/-- A register file with a record of the accesses, in order. -/
structure Traced (ρ : Type) where
  /-- The register file. -/
  regs : ρ
  /-- The accesses so far. -/
  accesses : List Access

/-- The register file before any access. -/
def traced {ρ : Type} (regs : ρ) : Traced ρ := ⟨regs, []⟩

variable {ρ σ : Type} [RegisterFile ρ] [RegisterFile σ]

instance : RegisterFile (Traced ρ) where
  readParam p t :=
    let (v, regs) := RegisterFile.readParam p t.regs
    (v, ⟨regs, t.accesses ++ [.readParam p v]⟩)
  writeParam p v t := ⟨RegisterFile.writeParam p v t.regs, t.accesses ++ [.writeParam p v]⟩
  readGlobal g t :=
    let (v, regs) := RegisterFile.readGlobal g t.regs
    (v, ⟨regs, t.accesses ++ [.readGlobal g v]⟩)
  writeGlobal g v t := ⟨RegisterFile.writeGlobal g v t.regs, t.accesses ++ [.writeGlobal g v]⟩

/-! ### Register files that no program tells apart -/

/-- Every access gives the same value under the map, and the map goes with it. -/
structure RegisterFile.IsHom (f : ρ → σ) : Prop where
  /-- A parameter reads the same. -/
  readParam : ∀ p regs, RegisterFile.readParam p (f regs) =
    Prod.map id f (RegisterFile.readParam p regs)
  /-- A parameter is written in the same way. -/
  writeParam : ∀ p v regs, RegisterFile.writeParam p v (f regs) =
    f (RegisterFile.writeParam p v regs)
  /-- A global variable reads the same. -/
  readGlobal : ∀ g regs, RegisterFile.readGlobal g (f regs) =
    Prod.map id f (RegisterFile.readGlobal g regs)
  /-- A global variable is written in the same way. -/
  writeGlobal : ∀ g v regs, RegisterFile.writeGlobal g v (f regs) =
    f (RegisterFile.writeGlobal g v regs)

/-- The result of a run on the other register file. -/
def onRegs {α : Type} (f : ρ → σ) : α × Interpreter × ρ → α × Interpreter × σ :=
  Prod.map id (Prod.map id f)

namespace RegisterFile.IsHom

open Interpreter

variable {f : ρ → σ}

omit [RegisterFile ρ] [RegisterFile σ] in
theorem accumulate (f : ρ → σ) (m : Interpreter) (regs : ρ) (address : Nat) (v : Option Int32) :
    m.accumulate (f regs) address v = onRegs f (m.accumulate regs address v) := by
  cases v <;> rfl

/-- One instruction commutes with a map of the registers. -/
theorem execute (h : IsHom f) (m : Interpreter) (regs : ρ) (address : Nat) (i : Instruction) :
    m.execute (f regs) address i = onRegs f (m.execute regs address i) := by
  cases i with
  | wait ticks =>
    rw [Interpreter.execute, Interpreter.execute]
    split <;> rfl
  | getParam p => rw [Interpreter.execute, h.readParam]; rfl
  | setParam p source => rw [Interpreter.execute, h.writeParam]; rfl
  | getGlobal g => rw [Interpreter.execute, h.readGlobal]; rfl
  | setGlobal g source => rw [Interpreter.execute, h.writeGlobal]; rfl
  | calcImm op v => cases op <;> first | rfl | exact accumulate f m regs address _
  | calcX op => cases op <;> first | rfl | exact accumulate f m regs address _
  | stop | comp | jump => rfl
  | jumpIf c target =>
    rw [Interpreter.execute, Interpreter.execute]
    split <;> rfl

/-- One step commutes with a map of the registers. -/
theorem step (h : IsHom f) (m : Interpreter) (program : Program) (regs : ρ) :
    m.step program (f regs) = onRegs f (m.step program regs) := by
  rw [Interpreter.step, Interpreter.step]
  split
  · rfl
  · exact h.execute _ regs _ _

/-- A pass commutes with a map of the registers, by induction on the budget. -/
theorem pass (h : IsHom f) (program : Program) (budget : Nat) (m : Interpreter) (regs : ρ) :
    Interpreter.pass program budget m (f regs) =
      onRegs f (Interpreter.pass program budget m regs) := by
  induction budget generalizing m regs with
  | zero => rfl
  | succ budget ih =>
    have hstep := h.step m program regs
    rcases hs : m.step program regs with ⟨_ | outcome, m', regs'⟩
    all_goals rw [hs] at hstep
    · rw [pass_of_step_none hs, pass_of_step_none hstep]
      exact ih m' regs'
    · rw [pass_of_step_some hs, pass_of_step_some hstep]
      rfl

theorem run (h : IsHom f) (m : Interpreter) (program : Program) (regs : ρ) :
    m.run program (f regs) = onRegs f (m.run program regs) := by
  rw [Interpreter.run, Interpreter.run]
  split
  · exact h.pass program _ m regs
  · rfl

theorem tick (h : IsHom f) (m : Interpreter) (program : Program) (regs : ρ) :
    m.tick program (f regs) = onRegs f (m.tick program regs) := by
  rw [Interpreter.tick, Interpreter.tick]
  split
  · rfl
  · rfl
  all_goals
    rw [h.run]
    rfl

end RegisterFile.IsHom

/-! ### The record can be forgotten -/

/-- Forgetting what was recorded commutes with every access. -/
theorem isHom_regs : RegisterFile.IsHom (fun t : Traced ρ ↦ t.regs) where
  readParam _ _ := rfl
  writeParam _ _ _ := rfl
  readGlobal _ _ := rfl
  writeGlobal _ _ _ := rfl

namespace Interpreter

/-- Recording does not change a run. -/
theorem run_traced (m : Interpreter) (program : Program) (regs : ρ) :
    m.run program regs = onRegs Traced.regs (m.run program (traced regs)) :=
  isHom_regs.run m program (traced regs)

theorem tick_traced (m : Interpreter) (program : Program) (regs : ρ) :
    m.tick program regs = onRegs Traced.regs (m.tick program (traced regs)) :=
  isHom_regs.tick m program (traced regs)

/-- The accesses of a run. -/
def runAccesses (m : Interpreter) (program : Program) (regs : ρ) : List Access :=
  (m.run program (traced regs)).2.2.accesses

/-- The accesses of a tick. -/
def tickAccesses (m : Interpreter) (program : Program) (regs : ρ) : List Access :=
  (m.tick program (traced regs)).2.2.accesses

end Interpreter

end FocusDrive
