import FocusDrive.Proofs.Interpreter

/-!
# Where control can go

`Stepped` says once what the execution of an instruction can do to the interpreter's control: where
the program counter goes, whether control is given back and in which state. It mentions no
registers, since nothing in it depends on what a register file answers.

A program has no jump that leaves it, so the only address outside of it that control can come to is
the one after its last instruction, and only if that instruction passes control on
(`Interpreter.Within`). From this and from `Stepped` follows what each fault tells about the program
(`Fault.Arose`).
-/

namespace FocusDrive

/-! ### Instructions -/

namespace Instruction

/-- Whether the instruction divides by zero, with `x` in the register `X`. -/
def DividesByZero (i : Instruction) (x : Int32) : Prop :=
  ∃ op, (op = .div ∨ op = .mod) ∧ (i = .calcImm op 0 ∨ i = .calcX op ∧ x = 0)

/-- Whether the next address may follow the instruction. -/
def passesOn : Instruction → Bool
  | stop | jump _ => false
  | _ => true

end Instruction

/-- A calculation has no result exactly if it divides by zero. -/
theorem CalcOp.eval?_eq_none {op : CalcOp} {a b : Int32} :
    op.eval? a b = none ↔ (op = .div ∨ op = .mod) ∧ b = 0 := by
  cases op <;> simp [CalcOp.eval?]

namespace Program

/-- The last instruction of the program passes control on to the address after it. -/
def PassesEnd (p : Program) : Prop := ∃ i, p.get? (p.size - 1) = some i ∧ i.passesOn = true

theorem lt_size_of_get? {p : Program} {a : Nat} {i : Instruction} (h : p.get? a = some i) :
    a < p.size := by
  by_contra hle
  rw [get?_eq_none_iff.mpr (Nat.le_of_not_lt hle)] at h
  cases h

end Program

namespace Interpreter

variable {ρ : Type} [RegisterFile ρ] {program : Program} {m m' : Interpreter}
  {o : Option Outcome} {f : Fault}

/-! ### One instruction -/

/-- What an instruction can do to the control of a program. -/
inductive Stepped (program : Program) (m : Interpreter) : Option Outcome → Interpreter → Prop
  /-- Control goes on at the next address. -/
  | next {m' : Interpreter} {i : Instruction} (hget : program.get? m.pc = some i)
      (hpasses : i.passesOn = true) (hpc : m'.pc = m.pc + 1) (hstate : m'.state = m.state) :
      Stepped program m none m'
  /-- Control jumps ahead. -/
  | ahead {m' : Interpreter} {i : Instruction} (hget : program.get? m.pc = some i)
      (htarget : i.jumpTarget? = some m'.pc) (hlt : m.pc < m'.pc) (hstate : m'.state = m.state) :
      Stepped program m none m'
  /-- A jump that does not go ahead gives control back. -/
  | back {m' : Interpreter} {i : Instruction} (hget : program.get? m.pc = some i)
      (htarget : i.jumpTarget? = some m'.pc) (hle : m'.pc ≤ m.pc) (hstate : m'.state = m.state) :
      Stepped program m (some .looped) m'
  /-- The program waits. -/
  | wait {ticks : UInt32} (hget : program.get? m.pc = some (.wait ticks)) (hticks : ticks ≠ 0) :
      Stepped program m (some .waiting)
        { m with pc := m.pc + 1, state := .waiting ticks.toNat }
  /-- The program ends. -/
  | stop (hget : program.get? m.pc = some .stop) :
      Stepped program m (some .halted) { m with pc := m.pc + 1, state := .idle }
  /-- A division by zero. -/
  | divide {i : Instruction} (hget : program.get? m.pc = some i) (hzero : i.DividesByZero m.x) :
      Stepped program m (some (.faulted (.divisionByZero m.pc)))
        { m with pc := m.pc + 1, state := .idle }
  /-- An exchange with an immediate value. -/
  | invalid {v : Int32} (hget : program.get? m.pc = some (.calcImm .swap v)) :
      Stepped program m (some (.faulted (.invalidInstruction m.pc)))
        { m with pc := m.pc + 1, state := .idle }
  /-- There is no instruction. -/
  | outside (hget : program.get? m.pc = none) :
      Stepped program m (some (.faulted (.addressOutOfRange m.pc))) { m with state := .idle }

namespace Stepped

variable {i : Instruction} (hget : program.get? m.pc = some i)

include hget

omit [RegisterFile ρ] in
/-- What ends in the accumulator goes on, unless it divided by zero. -/
theorem accumulate {v : Option Int32} {regs : ρ} (hpasses : i.passesOn = true)
    (hzero : v = none → i.DividesByZero m.x) :
    Stepped program m
      (Interpreter.accumulate { m with pc := m.pc + 1 } regs m.pc v).1
      (Interpreter.accumulate { m with pc := m.pc + 1 } regs m.pc v).2.1 := by
  cases v with
  | some v => exact .next hget hpasses rfl rfl
  | none => exact .divide hget (hzero rfl)

omit [RegisterFile ρ] in
/-- A jump ends at its target, which has to be in the program. -/
theorem jumpTo {target : Nat} {regs : ρ} (htarget : i.jumpTarget? = some target) :
    Stepped program m
      (Interpreter.jumpTo { m with pc := m.pc + 1 } regs m.pc target).1
      (Interpreter.jumpTo { m with pc := m.pc + 1 } regs m.pc target).2.1 := by
  rw [Interpreter.jumpTo]
  split
  next hle => exact .back hget htarget hle rfl
  next hlt => exact .ahead hget htarget (Nat.lt_of_not_le hlt) rfl

/-- One case for every instruction. -/
theorem execute (regs : ρ) :
    Stepped program m
      (Interpreter.execute { m with pc := m.pc + 1 } regs m.pc i).1
      (Interpreter.execute { m with pc := m.pc + 1 } regs m.pc i).2.1 := by
  cases i with
  | wait ticks =>
    rw [Interpreter.execute]
    split
    next => exact .next hget rfl rfl rfl
    next hticks => exact .wait hget hticks
  | stop => exact .stop hget
  | getParam | setParam | getGlobal | setGlobal | comp => exact .next hget rfl rfl rfl
  | calcImm op v =>
    cases op with
    | swap => exact .invalid hget
    | _ =>
      refine accumulate hget rfl fun hnone ↦ ?_
      obtain ⟨hop, rfl⟩ := CalcOp.eval?_eq_none.mp hnone
      exact ⟨_, hop, .inl rfl⟩
  | calcX op =>
    cases op with
    | load | swap => exact .next hget rfl rfl rfl
    | _ =>
      refine accumulate hget rfl fun hnone ↦ ?_
      obtain ⟨hop, hx⟩ := CalcOp.eval?_eq_none.mp hnone
      exact ⟨_, hop, .inr ⟨rfl, hx⟩⟩
  | jumpIf c target =>
    rw [Interpreter.execute]
    split
    next => exact jumpTo hget rfl
    next => exact .next hget rfl rfl rfl
  | jump target => exact jumpTo hget rfl

end Stepped

/-- **One instruction.** -/
theorem step_stepped (m : Interpreter) (program : Program) (regs : ρ) :
    Stepped program m (m.step program regs).1 (m.step program regs).2.1 := by
  cases hget : program.get? m.pc with
  | none =>
    rw [step, hget]
    exact .outside hget
  | some i =>
    rw [step_of_get? hget]
    exact .execute hget regs

/-! ### Inside a program -/

/-- The program counter is inside the program, or just behind it. -/
structure Within (program : Program) (m : Interpreter) : Prop where
  /-- It is at most the program's length. -/
  pc_le : m.pc ≤ program.size
  /-- A program that runs comes behind its end only if its last instruction passes control on. -/
  passesEnd : m.isRunning = true → m.pc = program.size → program.PassesEnd

end Interpreter

/-- What a fault tells about a program and about the interpreter `m` that it has left behind. The
registers of `m` are still those that the instruction found. -/
inductive Fault.Arose (program : Program) (m : Interpreter) : Fault → Prop
  /-- The instruction divides by zero. -/
  | divisionByZero {address : Nat} {i : Instruction} (hget : program.get? address = some i)
      (hzero : i.DividesByZero m.x) : Arose program m (.divisionByZero address)
  /-- The instruction exchanges `A` with an immediate value. -/
  | invalidInstruction {address : Nat} {v : Int32}
      (hget : program.get? address = some (.calcImm .swap v)) :
      Arose program m (.invalidInstruction address)
  /-- The last instruction has passed control on. -/
  | addressOutOfRange (hpasses : program.PassesEnd) :
      Arose program m (.addressOutOfRange program.size)

namespace Interpreter

variable {ρ : Type} [RegisterFile ρ] {program : Program} {m m' : Interpreter}
  {o : Option Outcome} {f : Fault}

/-- A program is started at its first instruction. -/
theorem within_started (program : Program) : Within program started where
  pc_le := Nat.zero_le _
  passesEnd _ hpc := absurd hpc (Nat.ne_of_lt program.size_pos)

theorem Within.of_idle (h : m.pc ≤ program.size) (hidle : m.state = .idle) :
    Within program m where
  pc_le := h
  passesEnd hrunning _ := by simp [isRunning, hidle] at hrunning

theorem Within.withState (h : Within program m) (hrunning : m.isRunning = true)
    (state : RunState) : Within program { m with state } :=
  ⟨h.pc_le, fun _ ↦ h.passesEnd hrunning⟩

/-- An address with an instruction that passes control on has an address behind it, and that is
behind the program only if the instruction is the last one. -/
theorem Within.of_next {i : Instruction} (hget : program.get? m.pc = some i)
    (hpasses : i.passesOn = true) (hpc : m'.pc = m.pc + 1) : Within program m' := by
  have hlt := Program.lt_size_of_get? hget
  refine ⟨by omega, fun _ hend ↦ ⟨i, ?_, hpasses⟩⟩
  rw [show program.size - 1 = m.pc by omega, hget]

/-- A jump that was executed has a valid target. -/
theorem Within.of_jump {a : Nat} {i : Instruction} (hget : program.get? a = some i)
    (htarget : i.jumpTarget? = some m'.pc) : Within program m' := by
  have hlt := Program.jumpTarget_lt hget htarget
  exact ⟨Nat.le_of_lt hlt, fun _ hend ↦ absurd hend (Nat.ne_of_lt hlt)⟩

namespace Stepped

/-- An instruction does not lead out of the program. -/
theorem within (h : Stepped program m o m') (hm : Within program m) : Within program m' := by
  cases h with
  | next hget hpasses hpc => exact .of_next hget hpasses hpc
  | ahead hget htarget => exact .of_jump hget htarget
  | back hget htarget => exact .of_jump hget htarget
  | wait hget => exact .of_next hget rfl rfl
  | stop hget => exact .of_idle (Program.lt_size_of_get? hget) rfl
  | divide hget => exact .of_idle (Program.lt_size_of_get? hget) rfl
  | invalid hget => exact .of_idle (Program.lt_size_of_get? hget) rfl
  | outside => exact .of_idle hm.pc_le rfl

/-- Control that is not given back leaves the program running. -/
theorem state_eq (h : Stepped program m none m') : m'.state = m.state := by
  cases h with
  | next _ _ _ hstate => exact hstate
  | ahead _ _ _ hstate => exact hstate

/-- A fault ends the program, and it arises where its cause is. -/
theorem arose (h : Stepped program m (some (.faulted f)) m') (hm : Within program m)
    (hrunning : m.isRunning = true) : f.Arose program m' ∧ m'.state = .idle := by
  cases h with
  | divide hget hzero => exact ⟨.divisionByZero hget hzero, rfl⟩
  | invalid hget => exact ⟨.invalidInstruction hget, rfl⟩
  | outside hget =>
    have hend : m.pc = program.size :=
      Nat.le_antisymm hm.pc_le (Program.get?_eq_none_iff.mp hget)
    rw [hend]
    exact ⟨.addressOutOfRange (hm.passesEnd hrunning hend), rfl⟩

end Stepped

/-! ### Passes, runs and ticks -/

/-- With this outcome the interpreter is left inside the program, and idle after a fault. -/
structure LeftWithin (program : Program) (o : Option Outcome) (m : Interpreter) : Prop
    extends Within program m where
  /-- A fault has ended the program, and it arose where its cause is. -/
  arose : ∀ f, o = some (.faulted f) → f.Arose program m ∧ m.state = .idle

/-- A pass stays within the program, by induction on the budget. -/
theorem pass_within (budget : Nat) (hm : Within program m) (hrunning : m.isRunning = true)
    (regs : ρ) : LeftWithin program (some (pass program budget m regs).1)
      (pass program budget m regs).2.1 := by
  induction budget generalizing m regs with
  | zero => exact ⟨hm, nofun⟩
  | succ budget ih =>
    have hstep := step_stepped m program regs
    rcases hs : m.step program regs with ⟨_ | outcome, m', regs'⟩
    all_goals rw [hs] at hstep
    · rw [pass_of_step_none hs]
      refine ih (hstep.within hm) ?_ regs'
      rw [isRunning, hstep.state_eq]
      exact hrunning
    · rw [pass_of_step_some hs]
      refine ⟨hstep.within hm, ?_⟩
      rintro f ⟨⟩
      exact hstep.arose hm hrunning

theorem run_within (hm : Within program m) (regs : ρ) :
    LeftWithin program (some (m.run program regs).1) (m.run program regs).2.1 := by
  rw [run]
  split
  next hstate => exact pass_within _ hm (by simp [isRunning, hstate]) regs
  next => exact ⟨hm, by simp⟩

theorem tick_within (hm : Within program m) (regs : ρ) :
    LeftWithin program (m.tick program regs).1 (m.tick program regs).2.1 := by
  rcases m.idle_or_isDue_or_waiting with hidle | hdue | ⟨n, hwaiting⟩
  · rw [tick_of_idle hidle]
    exact ⟨hm, nofun⟩
  · rw [tick_of_isDue hdue]
    exact pass_within instructionBudget (hm.withState hdue.isRunning .running) rfl regs
  · rw [tick_of_waiting hwaiting]
    exact ⟨hm.withState (by simp [isRunning, hwaiting]) _, nofun⟩

/-! ### Reachable interpreters -/

/-- The states of an interpreter that is only used with one program. Each use may find the registers
changed, or other registers altogether. -/
inductive Reached (program : Program) : Interpreter → Prop
  /-- At power-up. -/
  | initial : Reached program {}
  /-- The program is started. -/
  | start {m : Interpreter} (h : Reached program m) : Reached program started
  /-- The program is ended. -/
  | halt {m : Interpreter} (h : Reached program m) : Reached program m.halt
  /-- Time passes. -/
  | tick {m : Interpreter} (h : Reached program m) {ρ : Type} [RegisterFile ρ] (regs : ρ) :
      Reached program (m.tick program regs).2.1
  /-- A pass is run. -/
  | run {m : Interpreter} (h : Reached program m) {ρ : Type} [RegisterFile ρ] (regs : ρ) :
      Reached program (m.run program regs).2.1

/-- However it was started, halted and ticked, the interpreter is within the program. -/
theorem Reached.within (h : Reached program m) : Within program m := by
  induction h with
  | initial => exact .of_idle (Nat.zero_le _) rfl
  | start => exact within_started program
  | halt _ ih => exact .of_idle ih.pc_le rfl
  | tick _ regs ih => exact (tick_within ih regs).toWithin
  | run _ regs ih => exact (run_within ih regs).toWithin

end Interpreter

end FocusDrive
