import FocusDrive.Program

/-!
# The stored-program interpreter

The module runs its program in *passes*. A pass executes instructions until one of them gives
control back: a wait suspends, a backward jump ends the pass (so that a loop runs once per tick), a
stop or a fault ends the program. A pass that executes `instructionBudget` instructions without any
of these ends as well. Between two passes the device moves its motor.

## Registers are somebody else's

The interpreter owns its accumulator, its second register and the last comparison. Axis parameters
and global variables belong to a `RegisterFile`, which answers reads and takes writes and promises
nothing else: a read may change the registers, and need not return what was written. Whatever is
shown about an arbitrary register file holds in particular of the device's.

## Termination

`pass` recurses on what is left of the budget. The recursion is not what ends a pass in practice: a
jump that does not end the pass goes forward, so the program counter rises with every instruction.
-/

namespace FocusDrive

/-- Read and write access to axis parameters and global variables. -/
class RegisterFile (ρ : Type) where
  /-- Read a parameter. -/
  readParam : AxisParam → ρ → Int32 × ρ
  /-- Write a parameter. -/
  writeParam : AxisParam → Int32 → ρ → ρ
  /-- Read a global variable. -/
  readGlobal : GlobalVar → ρ → Int32 × ρ
  /-- Write a global variable. -/
  writeGlobal : GlobalVar → Int32 → ρ → ρ

/-- Why a program was aborted, with the address of the instruction. -/
inductive Fault
  /-- Division or remainder by zero. -/
  | divisionByZero (address : Nat)
  /-- The instruction does not exist in this form. -/
  | invalidInstruction (address : Nat)
  /-- There is no instruction at the address. -/
  | addressOutOfRange (address : Nat)
deriving DecidableEq, Repr

namespace Fault

/-- Where the fault arose. -/
def address : Fault → Nat
  | divisionByZero a | invalidInstruction a | addressOutOfRange a => a

/-- The wording of the fault. -/
def message : Fault → String
  | divisionByZero a => s!"division by zero at {a}"
  | invalidInstruction a => s!"invalid instruction at {a}"
  | addressOutOfRange a => s!"address {a} outside program"

end Fault

/-- Why the interpreter gave control back. -/
inductive Outcome
  /-- The program waits. -/
  | waiting
  /-- The program jumped backward: one pass of its loop is complete. -/
  | looped
  /-- The budget is used up. -/
  | budget
  /-- The program executed a stop, or was not running. -/
  | halted
  /-- The program was aborted. -/
  | faulted (f : Fault)
deriving DecidableEq, Repr

/-- Whether a program runs. -/
inductive RunState
  | idle
  | running
  /-- Suspended, for `remaining` more ticks. -/
  | waiting (remaining : Nat)
deriving DecidableEq, Repr

/-- The operation on two words, which wraps at 32 bits; nothing for a division by zero. -/
def CalcOp.eval? (op : CalcOp) (a b : Int32) : Option Int32 :=
  match op with
  | add => some (a + b)
  | sub => some (a - b)
  | mul => some (a * b)
  | div => if b = 0 then none else some (a / b)
  | mod => if b = 0 then none else some (a % b)
  | and => some (a &&& b)
  | or => some (a ||| b)
  | xor => some (a ^^^ b)
  | not => some (~~~a)
  | load => some b
  | swap => some a

/-- The interpreter's own state. -/
structure Interpreter where
  /-- Address of the next instruction. -/
  pc : Nat := 0
  /-- The accumulator `A`. -/
  accumulator : Int32 := 0
  /-- The register `X`. -/
  x : Int32 := 0
  /-- Result of the last comparison. -/
  comparison : Ordering := .eq
  /-- Whether a program runs. -/
  state : RunState := .idle
deriving DecidableEq, Repr

namespace Interpreter

/-- Instructions in one pass, at most. -/
def instructionBudget : Nat := 1024

/-- At address `0` with cleared registers, about to run. -/
def started : Interpreter := { state := .running }

/-- End the program; the registers stay. -/
def halt (m : Interpreter) : Interpreter := { m with state := .idle }

/-- Whether a program runs or waits. -/
def isRunning (m : Interpreter) : Bool := m.state != .idle

/-- The value of an operand. -/
def operand (m : Interpreter) : Operand → Int32
  | .value v => v
  | .accumulator => m.accumulator

variable {ρ : Type} [RegisterFile ρ]

/-- Abort the program. -/
def abort (m : Interpreter) (regs : ρ) (f : Fault) : Option Outcome × Interpreter × ρ :=
  (some (.faulted f), m.halt, regs)

/-- Jump from `source`. A target that is not ahead ends the pass. -/
def jumpTo (m : Interpreter) (regs : ρ) (source target : Nat) : Option Outcome × Interpreter × ρ :=
  (if target ≤ source then some .looped else none, { m with pc := target }, regs)

/-- Put the result of a calculation into the accumulator, or abort if there is none. -/
def accumulate (m : Interpreter) (regs : ρ) (address : Nat) :
    Option Int32 → Option Outcome × Interpreter × ρ
  | some v => (none, { m with accumulator := v }, regs)
  | none => m.abort regs (.divisionByZero address)

/-- Execute the instruction found at `address`; the program counter is already past it. The first
component says whether control is given back. -/
def execute (m : Interpreter) (regs : ρ) (address : Nat) :
    Instruction → Option Outcome × Interpreter × ρ
  | .wait ticks =>
    if ticks = 0 then (none, m, regs)
    else (some .waiting, { m with state := .waiting ticks.toNat }, regs)
  | .stop => (some .halted, m.halt, regs)
  | .getParam p =>
    let (v, regs) := RegisterFile.readParam p regs
    (none, { m with accumulator := v }, regs)
  | .setParam p source => (none, m, RegisterFile.writeParam p (m.operand source) regs)
  | .getGlobal g =>
    let (v, regs) := RegisterFile.readGlobal g regs
    (none, { m with accumulator := v }, regs)
  | .setGlobal g source => (none, m, RegisterFile.writeGlobal g (m.operand source) regs)
  | .calcImm .swap _ => m.abort regs (.invalidInstruction address)
  | .calcImm op v => m.accumulate regs address (op.eval? m.accumulator v)
  | .calcX .load => (none, { m with x := m.accumulator }, regs)
  | .calcX .swap => (none, { m with accumulator := m.x, x := m.accumulator }, regs)
  | .calcX op => m.accumulate regs address (op.eval? m.accumulator m.x)
  | .comp v => (none, { m with comparison := compare m.accumulator v }, regs)
  | .jumpIf c target =>
    if c.holds m.comparison then m.jumpTo regs address target else (none, m, regs)
  | .jump target => m.jumpTo regs address target

/-- Fetch and execute one instruction. -/
def step (m : Interpreter) (program : Program) (regs : ρ) : Option Outcome × Interpreter × ρ :=
  match program.get? m.pc with
  | none => m.abort regs (.addressOutOfRange m.pc)
  | some i => { m with pc := m.pc + 1 }.execute regs m.pc i

/-- Execute up to `budget` instructions, until one gives control back. -/
def pass (program : Program) : Nat → Interpreter → ρ → Outcome × Interpreter × ρ
  | 0, m, regs => (.budget, m, regs)
  | budget + 1, m, regs =>
    match m.step program regs with
    | (some outcome, m, regs) => (outcome, m, regs)
    | (none, m, regs) => pass program budget m regs

/-- Run one pass. An interpreter that is idle or waiting does nothing and answers `halted`. -/
def run (m : Interpreter) (program : Program) (regs : ρ) : Outcome × Interpreter × ρ :=
  if m.state = .running then pass program instructionBudget m regs else (.halted, m, regs)

/-- One timer tick: count down a pending wait, and run a pass when it is over. There is no outcome
if no program runs. -/
def tick (m : Interpreter) (program : Program) (regs : ρ) : Option Outcome × Interpreter × ρ :=
  match m.state with
  | .idle => (none, m, regs)
  | .waiting (n + 2) => (some .waiting, { m with state := .waiting (n + 1) }, regs)
  | .waiting _ | .running =>
    let (outcome, m, regs) := { m with state := .running }.run program regs
    (some outcome, m, regs)

/-! ### One instruction after the other -/

/-- An instruction is executed with the program counter already behind it. -/
theorem step_of_get? {m : Interpreter} {program : Program} {i : Instruction}
    (h : program.get? m.pc = some i) (regs : ρ) :
    m.step program regs = { m with pc := m.pc + 1 }.execute regs m.pc i := by
  rw [step, h]

/-- An instruction that keeps control leaves the rest of the pass to what follows it. -/
theorem pass_of_step_none {m m' : Interpreter} {program : Program} {regs regs' : ρ}
    (h : m.step program regs = (none, m', regs')) (budget : Nat) :
    pass program (budget + 1) m regs = pass program budget m' regs' := by
  rw [pass, h]

/-- An instruction that gives control back ends the pass. -/
theorem pass_of_step_some {m m' : Interpreter} {program : Program} {regs regs' : ρ}
    {outcome : Outcome} (h : m.step program regs = (some outcome, m', regs')) (budget : Nat) :
    pass program (budget + 1) m regs = (outcome, m', regs') := by
  rw [pass, h]

/-! ### Runs of no instructions -/

/-- When no program runs, a tick does nothing. -/
theorem tick_of_idle {m : Interpreter} (h : m.state = .idle) (program : Program) (regs : ρ) :
    m.tick program regs = (none, m, regs) := by
  rw [tick, h]

@[simp] theorem isRunning_halt (m : Interpreter) : m.halt.isRunning = false := by
  simp [halt, isRunning]

@[simp] theorem isRunning_started : started.isRunning = true := by
  decide

end Interpreter

end FocusDrive
