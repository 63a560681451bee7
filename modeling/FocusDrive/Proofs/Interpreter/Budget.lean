import FocusDrive.Device.Registers
import FocusDrive.Proofs.Interpreter.Accesses
import FocusDrive.Proofs.Interpreter.Pass

/-!
# A pass with and without the budget

A jump that does not go ahead ends the pass. Inside a pass the program counter therefore only rises
(`Stepped.lt_pc`), no instruction is executed twice, and a pass ends by itself within the length of
the program. The budget is not what makes it end; it only cuts a long pass into slices.

`Completes` is the interpreter without a budget, as a relation: execute until an instruction gives
control back. `Interpreter.resume` is the interpreter with the budget, started again as long as the
budget is what stopped it. The two agree (`run_resume`), and with registers that record their
accesses (`Traced`) this covers everything that was read and written on the way.
-/

namespace FocusDrive

namespace Interpreter

variable {ρ : Type} [RegisterFile ρ] {program : Program} {m m' : Interpreter}

/-! ### Definitions -/

/-- The states in which a run executes an instruction. -/
def runTrace (m : Interpreter) (program : Program) (regs : ρ) : List (Interpreter × ρ) :=
  if m.state = .running then trace program instructionBudget m regs else []

/-- The addresses of the instructions that are executed in the given states. A state in which there
is no instruction to execute has none. -/
def executed (program : Program) (states : List (Interpreter × ρ)) : List ℕ :=
  (states.map (·.1.pc)).filter (· < program.size)

/-- The interpreter without a budget: from `m` and the registers the program comes to the given
result when it first gives control back. -/
inductive Completes (program : Program) : Interpreter → ρ → Outcome × Interpreter × ρ → Prop
  /-- The instruction gives control back. -/
  | last {m m' : Interpreter} {regs regs' : ρ} {outcome : Outcome}
      (h : m.step program regs = (some outcome, m', regs')) :
      Completes program m regs (outcome, m', regs')
  /-- The instruction keeps control. -/
  | next {m m' : Interpreter} {regs regs' : ρ} {result : Outcome × Interpreter × ρ}
      (h : m.step program regs = (none, m', regs')) (rest : Completes program m' regs' result) :
      Completes program m regs result

/-- Run, and run again up to `n` times as long as the budget was used up. -/
def resume (program : Program) : ℕ → Interpreter → ρ → Outcome × Interpreter × ρ
  | 0, m, regs => m.run program regs
  | n + 1, m, regs =>
    match m.run program regs with
    | (.budget, m, regs) => resume program n m regs
    | result => result

/-! ### One instruction -/

/-- An instruction that keeps control moves it ahead, inside the program or just behind it. -/
theorem Stepped.lt_pc (h : Stepped program m none m') :
    m.pc < m'.pc ∧ m'.pc ≤ program.size ∧ m.pc < program.size := by
  cases h with
  | next hget _ hpc =>
    have hlt := Program.lt_size_of_get? hget
    omega
  | ahead hget htarget hlt =>
    have hinside := Program.jumpTarget_lt hget htarget
    omega

/-- No instruction ever answers that the budget is used up; only a pass does. -/
theorem Stepped.ne_budget {outcome : Outcome} (h : Stepped program m (some outcome) m') :
    outcome ≠ .budget := by
  cases h <;> exact nofun

/-- What an instruction did, read off its result. -/
theorem stepped_of_step {regs regs' : ρ} {o : Option Outcome}
    (h : m.step program regs = (o, m', regs')) : Stepped program m o m' := by
  have hstep := step_stepped m program regs
  rwa [h] at hstep

/-! ### What a pass executes -/

omit [RegisterFile ρ] in
/-- In a state inside the program one instruction more is executed. -/
theorem executed_cons_of_lt (h : m.pc < program.size) (regs : ρ) (states : List (Interpreter × ρ)) :
    executed program ((m, regs) :: states) = m.pc :: executed program states :=
  List.filter_cons_of_pos (by simpa using h)

/-- A pass executes at most as many instructions as its budget allows, counting an attempt to
execute one behind the end of the program. -/
theorem length_trace_le (program : Program) (budget : ℕ) (m : Interpreter) (regs : ρ) :
    (trace program budget m regs).length ≤ budget := by
  induction budget generalizing m regs with
  | zero => exact le_refl 0
  | succ budget ih =>
    rw [trace, List.length_cons]
    rcases m.step program regs with ⟨_ | outcome, m', regs'⟩
    · exact Nat.succ_le_succ (ih m' regs')
    · exact Nat.succ_le_succ (Nat.zero_le _)

/-- The program counter rises from one instruction to the next. -/
theorem pairwise_trace (program : Program) (budget : ℕ) (m : Interpreter) (regs : ρ) :
    ((trace program budget m regs).map (·.1.pc)).Pairwise (· < ·) ∧
      ∀ a ∈ (trace program budget m regs).map (·.1.pc), m.pc ≤ a := by
  induction budget generalizing m regs with
  | zero => exact ⟨.nil, List.forall_mem_nil _⟩
  | succ budget ih =>
    rw [trace, List.map_cons, List.pairwise_cons, List.forall_mem_cons]
    rcases hs : m.step program regs with ⟨_ | outcome, m', regs'⟩
    · obtain ⟨hpairwise, hle⟩ := ih m' regs'
      have hlt := (stepped_of_step hs).lt_pc.1
      exact ⟨⟨fun a ha ↦ Nat.lt_of_lt_of_le hlt (hle a ha), hpairwise⟩, le_refl _,
        fun a ha ↦ hlt.le.trans (hle a ha)⟩
    · exact ⟨⟨List.forall_mem_nil _, .nil⟩, le_refl _, List.forall_mem_nil _⟩

/-- A pass executes its instructions in the order of their addresses, and none of them twice. -/
theorem pairwise_executed (program : Program) (budget : ℕ) (m : Interpreter) (regs : ρ) :
    (executed program (trace program budget m regs)).Pairwise (· < ·) :=
  (pairwise_trace program budget m regs).1.filter _

/-- The budget bounds the number of instructions that are executed. -/
theorem length_executed_le (program : Program) (budget : ℕ) (m : Interpreter) (regs : ρ) :
    (executed program (trace program budget m regs)).length ≤ budget :=
  (List.length_filter_le _ _).trans
    ((List.length_map _).trans_le (length_trace_le program budget m regs))

/-- A pass that the budget ends has executed as many instructions as the budget allows. Each of them
has moved the program counter ahead, and the program still runs. -/
theorem executed_of_budget {budget : ℕ} {regs : ρ}
    (h : (pass program budget m regs).1 = .budget) :
    (executed program (trace program budget m regs)).length = budget ∧
      m.pc + budget ≤ (pass program budget m regs).2.1.pc ∧
      (0 < budget → (pass program budget m regs).2.1.pc ≤ program.size) ∧
      (pass program budget m regs).2.1.state = m.state := by
  induction budget generalizing m regs with
  | zero => exact ⟨rfl, le_refl _, fun hpos ↦ absurd hpos (Nat.lt_irrefl 0), rfl⟩
  | succ budget ih =>
    rcases hs : m.step program regs with ⟨_ | outcome, m', regs'⟩
    · -- the budget ends the rest of the pass as well
      have hstep := stepped_of_step hs
      obtain ⟨hlt, hle, hinside⟩ := hstep.lt_pc
      rw [pass_of_step_none hs] at h ⊢
      obtain ⟨hlength, hpc, hsize, hstate⟩ := ih h
      have htrace : trace program (budget + 1) m regs =
          (m, regs) :: trace program budget m' regs' := by rw [trace, hs]
      refine ⟨?_, by omega, fun _ ↦ ?_, hstate.trans hstep.state_eq⟩
      · rw [htrace, executed_cons_of_lt hinside, List.length_cons, hlength]
      · rcases budget.eq_zero_or_pos with rfl | hpos
        · exact hle
        · exact hsize hpos
    · rw [pass_of_step_some hs] at h
      exact absurd h (stepped_of_step hs).ne_budget

/-- A budget that exceeds the length of the program is never used up. -/
theorem pass_ne_budget {budget : ℕ} (h : program.size < budget) (m : Interpreter) (regs : ρ) :
    (pass program budget m regs).1 ≠ .budget := by
  intro hbudget
  obtain ⟨-, hpc, hsize, -⟩ := executed_of_budget hbudget
  have hle := hsize (Nat.zero_lt_of_lt h)
  omega

/-! ### Budgets add up -/

/-- A pass that uses up the first part of its budget goes on with the second part from where the
first one left off. -/
theorem pass_add_of_budget {a : ℕ} {regs : ρ} (h : (pass program a m regs).1 = .budget) (b : ℕ) :
    pass program (a + b) m regs =
      pass program b (pass program a m regs).2.1 (pass program a m regs).2.2 := by
  induction a generalizing m regs with
  | zero => rw [Nat.zero_add, pass]
  | succ a ih =>
    rw [Nat.add_right_comm]
    rcases hs : m.step program regs with ⟨_ | outcome, m', regs'⟩
    · rw [pass_of_step_none hs] at h ⊢
      rw [pass_of_step_none hs]
      exact ih h
    · rw [pass_of_step_some hs] at h
      exact absurd h (stepped_of_step hs).ne_budget

/-- A pass that gives control back by itself does not touch what is left of its budget. -/
theorem pass_add_of_ne_budget {a : ℕ} {regs : ρ} (h : (pass program a m regs).1 ≠ .budget) (b : ℕ) :
    pass program (a + b) m regs = pass program a m regs := by
  induction a generalizing m regs with
  | zero => exact absurd rfl h
  | succ a ih =>
    rw [Nat.add_right_comm]
    rcases hs : m.step program regs with ⟨_ | outcome, m', regs'⟩
    · rw [pass_of_step_none hs] at h
      rw [pass_of_step_none hs, pass_of_step_none hs]
      exact ih h
    · rw [pass_of_step_some hs, pass_of_step_some hs]

/-- Whatever the budget, a pass that it does not end comes to the same result. -/
theorem pass_eq_of_ne_budget {a b : ℕ} {regs : ρ} (ha : (pass program a m regs).1 ≠ .budget)
    (hb : (pass program b m regs).1 ≠ .budget) :
    pass program a m regs = pass program b m regs := by
  rw [← pass_add_of_ne_budget ha b, ← pass_add_of_ne_budget hb a, Nat.add_comm]

/-- A program that runs again after each slice is a pass with as many budgets. -/
theorem resume_eq_pass (hrunning : m.state = .running) (n : ℕ) (regs : ρ) :
    resume program n m regs = pass program (instructionBudget * (n + 1)) m regs := by
  induction n generalizing m regs with
  | zero => rw [resume, run, if_pos hrunning, Nat.zero_add, Nat.mul_one]
  | succ n ih =>
    have hmul : instructionBudget * (n + 1 + 1) =
        instructionBudget + instructionBudget * (n + 1) := by
      rw [Nat.mul_succ, Nat.add_comm]
    rw [resume, run, if_pos hrunning, hmul]
    split
    next m' regs' hpass =>
      have hbudget : (pass program instructionBudget m regs).1 = .budget := by rw [hpass]
      have hstate := (executed_of_budget hbudget).2.2.2
      rw [pass_add_of_budget hbudget, hpass]
      rw [hpass] at hstate
      exact ih (hstate.trans hrunning) regs'
    next hne =>
      refine (pass_add_of_ne_budget (fun hbudget ↦ ?_) _).symm
      exact hne _ _ (Prod.ext hbudget rfl)

/-! ### Without a budget -/

/-- The interpreter without a budget does what one with a sufficient budget does. -/
theorem completes_iff {regs : ρ} {result : Outcome × Interpreter × ρ} :
    Completes program m regs result ↔
      ∃ budget, pass program budget m regs = result ∧ result.1 ≠ .budget := by
  constructor
  · intro h
    induction h with
    | last h => exact ⟨1, pass_of_step_some h 0, (stepped_of_step h).ne_budget⟩
    | next h _ ih =>
      obtain ⟨budget, hpass, hne⟩ := ih
      exact ⟨budget + 1, (pass_of_step_none h budget).trans hpass, hne⟩
  · rintro ⟨budget, hpass, hne⟩
    induction budget generalizing m regs with
    | zero =>
      rw [← hpass] at hne
      exact absurd rfl hne
    | succ budget ih =>
      rcases hs : m.step program regs with ⟨_ | outcome, m', regs'⟩
      · exact .next hs (ih ((pass_of_step_none hs budget).symm.trans hpass))
      · rw [← hpass, pass_of_step_some hs]
        exact .last hs

/-- **The budget only cuts a pass into slices.** A run executes instructions in the states of its
trace, one after the other, and comes to what they come to; a tick of a running program is a run.
The addresses of the executed instructions rise, so none is executed twice. The budget ends the run
only after that many instructions, all of them ahead of each other. Running again until the budget
is no longer used up comes, with all accesses to the registers, to the one result that the
interpreter without a budget has. -/
theorem run_resume (hrunning : m.state = .running) (program : Program) (regs : ρ) :
    Executes program m regs (m.runTrace program regs) (m.run program regs) ∧
    m.tickTrace program regs = m.runTrace program regs ∧
    m.tick program regs = (some (m.run program regs).1, (m.run program regs).2) ∧
    (executed program (m.runTrace program regs)).Pairwise (· < ·) ∧
    (executed program (m.runTrace program regs)).length ≤ instructionBudget ∧
    (executed program (m.tickTrace program regs)).Nodup ∧
    ((m.run program regs).1 = .budget →
      (executed program (m.runTrace program regs)).length = instructionBudget ∧
        m.pc + instructionBudget ≤ (m.run program regs).2.1.pc) ∧
    (program.size < instructionBudget → (m.run program regs).1 ≠ .budget) ∧
    ∃ n ≤ program.size / instructionBudget, (resume program n m (traced regs)).1 ≠ .budget ∧
      ∀ result, Completes program m (traced regs) result ↔
        result = resume program n m (traced regs) := by
  have hm : ({ m with state := .running } : Interpreter) = m := by rw [← hrunning]
  have htrace : m.runTrace program regs = trace program instructionBudget m regs := if_pos hrunning
  have hrun : m.run program regs = pass program instructionBudget m regs := if_pos hrunning
  have htick : m.tickTrace program regs = trace program instructionBudget m regs := by
    rw [tickTrace, hrunning]
    exact congrArg (trace program instructionBudget · regs) hm
  rw [tick_of_isDue (.inl hrunning), hm, htrace, htick, hrun]
  have hpairwise := pairwise_executed program instructionBudget m regs
  refine ⟨executes_trace program instructionBudget m regs, rfl, rfl, hpairwise,
    length_executed_le program instructionBudget m regs, hpairwise.imp Nat.ne_of_lt,
    fun hbudget ↦ ?_, fun hsize ↦ pass_ne_budget hsize m regs,
    program.size / instructionBudget, le_refl _, ?_⟩
  · obtain ⟨hlength, hpc, -, -⟩ := executed_of_budget hbudget
    exact ⟨hlength, hpc⟩
  · -- so many slices are more budget than there are addresses to move ahead
    have hlt : program.size < instructionBudget * (program.size / instructionBudget + 1) :=
      Nat.lt_mul_div_succ _ (by decide)
    have hne := pass_ne_budget hlt m (traced regs)
    rw [resume_eq_pass hrunning]
    refine ⟨hne, fun result ↦ completes_iff.trans ⟨?_, ?_⟩⟩
    · rintro ⟨budget, rfl, hne'⟩
      exact pass_eq_of_ne_budget hne' hne
    · rintro rfl
      exact ⟨_, rfl, hne⟩

/-- Additions only use the budget up. -/
theorem pass_of_additions {budget : ℕ} {v : Int32}
    (h : ∀ a < m.pc + budget, program.get? a = some (.calcImm .add v)) (regs : ρ) :
    (pass program budget m regs).1 = .budget := by
  induction budget generalizing m with
  | zero => rfl
  | succ budget ih =>
    have hstep := step_of_get? (h m.pc (by omega)) regs
    rw [pass_of_step_none (hstep.trans rfl)]
    exact ih fun a ha ↦ h a (by rw [← Nat.succ_add_eq_add_succ]; exact ha)

/-- Ten additions more than the budget covers, and a stop. -/
def counting : Program where
  instructions := (Array.replicate 1034 (.calcImm .add 1)).push .stop
  size_pos := by simp
  jumps_inside := by simp [Instruction.jumpTarget?]

/-- The first slice ends inside the additions, and resuming it completes the program. -/
theorem run_resume_counting :
    started.state = .running ∧ (started.run counting (Registers.initial 0)).1 = .budget ∧
      Executes counting started (Registers.initial 0)
        (started.runTrace counting (Registers.initial 0))
        (started.run counting (Registers.initial 0)) ∧
      (executed counting (started.runTrace counting (Registers.initial 0))).length =
        instructionBudget ∧
      ∃ n ≤ counting.size / instructionBudget,
        (resume counting n started (traced (Registers.initial 0))).1 ≠ .budget ∧
        ∀ result, Completes counting started (traced (Registers.initial 0)) result ↔
          result = resume counting n started (traced (Registers.initial 0)) := by
  have hrunning : started.state = .running := rfl
  have hadditions (a : ℕ) (ha : a < 1034) : counting.get? a = some (.calcImm .add 1) := by
    simp [Program.get?, counting, Array.getElem?_push, ha, Nat.ne_of_lt ha]
  have hbudget : (started.run counting (Registers.initial 0)).1 = .budget := by
    rw [run, if_pos hrunning]
    exact pass_of_additions (fun a ha ↦ hadditions a (ha.trans (by decide))) _
  obtain ⟨hexecutes, -, -, -, -, -, hexecuted, -, hresume⟩ :=
    run_resume hrunning counting (Registers.initial 0)
  exact ⟨hrunning, hbudget, hexecutes, (hexecuted hbudget).1, hresume⟩

end Interpreter

end FocusDrive
