import FocusDrive.Proofs.Interpreter.Control

/-!
# What a pass executes, and what its outcome tells

A pass answers with an outcome and leaves an interpreter behind, and the two agree: the program is
over after a stop or a fault, and only then (`isRunning_pass`). That is a fact about single
instructions (`Stepped.isRunning_eq`). A pass adds nothing to it, since an instruction that keeps
control leaves the program running.

`Interpreter.trace` lists the states in which a pass executes an instruction, so that something can
be said about an instruction at the moment at which it is executed. The pass is what these
instructions come to, one after the other (`executes_trace`), and from each of them on it is a pass
of its own (`pass_of_trace_eq`). What no access to the registers destroys holds in all of these
states (`RegisterInvariant.trace`).
-/

namespace FocusDrive

namespace Outcome

/-- Whether the program is over when control is given back with this outcome. -/
def isFinal : Outcome → Bool
  | halted | faulted _ => true
  | waiting | looped | budget => false

end Outcome

namespace Interpreter

variable {ρ : Type} [RegisterFile ρ] {program : Program} {m m' : Interpreter}

/-! ### Outcomes -/

theorem isRunning_eq_false_iff : m.isRunning = false ↔ m.state = .idle := by
  rw [isRunning, bne_eq_false_iff_eq]

/-- An instruction that gives control back ends the program exactly if it says so. -/
theorem Stepped.isRunning_eq {outcome : Outcome} (h : Stepped program m (some outcome) m')
    (hrunning : m.isRunning = true) : m'.isRunning = !outcome.isFinal := by
  cases h with
  | back _ _ _ hstate =>
    rw [isRunning, hstate]
    exact hrunning
  | _ => rfl

/-- A pass of a running program ends it exactly if its outcome says so. -/
theorem isRunning_pass (hrunning : m.isRunning = true) (budget : Nat) (regs : ρ) :
    (pass program budget m regs).2.1.isRunning = !(pass program budget m regs).1.isFinal := by
  induction budget generalizing m regs with
  | zero => exact hrunning
  | succ budget ih =>
    have hstep := step_stepped m program regs
    rcases hs : m.step program regs with ⟨_ | outcome, m', regs'⟩
    all_goals rw [hs] at hstep
    · rw [pass_of_step_none hs]
      refine ih ?_ regs'
      rw [isRunning, hstep.state_eq]
      exact hrunning
    · rw [pass_of_step_some hs]
      exact hstep.isRunning_eq hrunning

/-- A program that runs has an outcome in every tick, and the outcome says whether it still runs. -/
theorem isRunning_tick (hrunning : m.isRunning = true) (program : Program) (regs : ρ) :
    ∃ outcome, (m.tick program regs).1 = some outcome ∧
      (m.tick program regs).2.1.isRunning = !outcome.isFinal := by
  rcases m.idle_or_isDue_or_waiting with hidle | hdue | ⟨n, hwaiting⟩
  · rw [isRunning_eq_false_iff.mpr hidle] at hrunning
    cases hrunning
  · rw [tick_of_isDue hdue]
    exact ⟨_, rfl, isRunning_pass rfl instructionBudget regs⟩
  · rw [tick_of_waiting hwaiting]
    exact ⟨.waiting, rfl, rfl⟩

/-! ### Executed instructions -/

/-- The states in which a pass executes an instruction, in order. -/
def trace (program : Program) : Nat → Interpreter → ρ → List (Interpreter × ρ)
  | 0, _, _ => []
  | budget + 1, m, regs =>
    (m, regs) ::
      match m.step program regs with
      | (some _, _, _) => []
      | (none, m, regs) => trace program budget m regs

/-- The states in which a tick executes an instruction. -/
def tickTrace (m : Interpreter) (program : Program) (regs : ρ) : List (Interpreter × ρ) :=
  match m.state with
  | .idle | .waiting (_ + 2) => []
  | .waiting _ | .running => trace program instructionBudget { m with state := .running } regs

/-- Instructions are executed in the states of the list, one after the other from the first state
on, and come to the result: the outcome of the last instruction, or that the budget is used up if
that one too kept control. -/
inductive Executes (program : Program) :
    Interpreter → ρ → List (Interpreter × ρ) → Outcome × Interpreter × ρ → Prop
  /-- No instruction is left to execute. -/
  | exhausted (m : Interpreter) (regs : ρ) : Executes program m regs [] (.budget, m, regs)
  /-- The instruction gives control back, and is the last one. -/
  | last {m m' : Interpreter} {regs regs' : ρ} {outcome : Outcome}
      (h : m.step program regs = (some outcome, m', regs')) :
      Executes program m regs [(m, regs)] (outcome, m', regs')
  /-- The instruction keeps control, and the others follow. -/
  | next {m m' : Interpreter} {regs regs' : ρ} {states : List (Interpreter × ρ)}
      {result : Outcome × Interpreter × ρ} (h : m.step program regs = (none, m', regs'))
      (rest : Executes program m' regs' states result) :
      Executes program m regs ((m, regs) :: states) result

/-- A pass is the execution of its trace: it executes an instruction in these states, in no others,
and answers with what they come to. -/
theorem executes_trace (program : Program) (budget : Nat) (m : Interpreter) (regs : ρ) :
    Executes program m regs (trace program budget m regs) (pass program budget m regs) := by
  induction budget generalizing m regs with
  | zero => exact .exhausted m regs
  | succ budget ih =>
    rcases hs : m.step program regs with ⟨_ | outcome, m', regs'⟩
    · rw [trace, hs, pass_of_step_none hs]
      exact .next hs (ih m' regs')
    · rw [trace, hs, pass_of_step_some hs]
      exact .last hs

/-- From every state of its trace a pass goes on as if it had begun there, with what is left of the
budget. -/
theorem pass_of_trace_eq {budget : Nat} {regs : ρ} {before after : List (Interpreter × ρ)}
    {s : Interpreter × ρ} (h : trace program budget m regs = before ++ s :: after) :
    ∃ rest, budget = before.length + (rest + 1) ∧
      pass program budget m regs = pass program (rest + 1) s.1 s.2 ∧
      trace program (rest + 1) s.1 s.2 = s :: after := by
  induction budget generalizing m regs before with
  | zero => simp [trace] at h
  | succ budget ih =>
    cases before with
    | nil =>
      obtain rfl : (m, regs) = s := (List.cons.inj h).1
      exact ⟨budget, (Nat.zero_add _).symm, rfl, h⟩
    | cons first before =>
      have htail := (List.cons.inj h).2
      rcases hstep : m.step program regs with ⟨_ | outcome, m', regs'⟩
      all_goals rw [hstep] at htail
      · obtain ⟨rest, hbudget, hpass, htrace⟩ := ih htail
        refine ⟨rest, ?_, (pass_of_step_none hstep budget).trans hpass, htrace⟩
        rw [List.length_cons, hbudget]
        omega
      · simp at htail

namespace RegisterInvariant

variable {P : ρ → Prop}

/-- What every access keeps holds whenever a pass executes an instruction. -/
theorem trace (h : RegisterInvariant P) (program : Program) (budget : Nat) (m : Interpreter)
    {regs : ρ} (hregs : P regs) : ∀ s ∈ Interpreter.trace program budget m regs, P s.2 := by
  induction budget generalizing m regs with
  | zero => exact List.forall_mem_nil _
  | succ budget ih =>
    rw [Interpreter.trace, List.forall_mem_cons]
    refine ⟨hregs, ?_⟩
    have hstep := h.step m program hregs
    rcases hs : m.step program regs with ⟨_ | outcome, m', regs'⟩
    · rw [hs] at hstep
      exact ih m' hstep
    · exact List.forall_mem_nil _

/-- Whatever writes keep holds at every instruction of a tick. -/
theorem tickTrace (h : RegisterInvariant P) (m : Interpreter) (program : Program) {regs : ρ}
    (hregs : P regs) : ∀ s ∈ m.tickTrace program regs, P s.2 := by
  rw [Interpreter.tickTrace]
  split
  · exact List.forall_mem_nil _
  · exact List.forall_mem_nil _
  · exact h.trace program _ _ hregs
  · exact h.trace program _ _ hregs

end RegisterInvariant

end Interpreter

end FocusDrive
