import FocusDrive.Proofs.Device.Reachable
import FocusDrive.Proofs.Interpreter.Budget

/-!
# Waiting

A wait gives control back and is counted down by the ticks that follow. The tick that executes the
wait is not one of them: a wait of `n` ticks keeps the program still for `n - 1` further ticks, and
the one after these is a run from behind the wait.

Between two ticks the device moves its motor and the host may write, so every tick finds registers
of its own. `afterTicks` lets it: the tick number `k` finds the registers `found k`, whatever they
are. What a wait leaves alone is then the interpreter (`afterTicks_of_waiting`), and that a tick
leaves the registers alone is said of each tick (`Suspends`).

A wait of no ticks is an instruction without effect. It goes on with the next instruction like any
other instruction that keeps control, and like any other it uses up the budget: if it is the last
one that the budget allows, what is behind it is left to the next run.
-/

namespace FocusDrive

namespace Interpreter

variable {ρ : Type} [RegisterFile ρ] {program : Program} {m : Interpreter}

/-! ### Definitions -/

/-- The interpreter before the tick number `k`, when each tick finds the given registers. -/
def afterTicks (program : Program) (found : ℕ → ρ) (m : Interpreter) : ℕ → Interpreter
  | 0 => m
  | k + 1 => ((afterTicks program found m k).tick program (found k)).2.1

/-- The interpreter where it is, with `n` ticks of a wait to come. -/
def suspended (m : Interpreter) (n : ℕ) : Interpreter := { m with state := .waiting n }

/-- The result of a run as that of the tick that makes it. -/
def inTick (result : Outcome × Interpreter × ρ) : Option Outcome × Interpreter × ρ :=
  (some result.1, result.2)

/-- What happens to `m`, which is about to go on behind a wait of `n` ticks, when the ticks that
follow find the given registers. -/
structure Suspends (program : Program) (m : Interpreter) (n : ℕ) (found : ℕ → ρ) : Prop where
  /-- Each tick but the last only counts. -/
  waits : ∀ k, k + 1 < n →
    (afterTicks program found (m.suspended n) k).tick program (found k) =
      (some .waiting, m.suspended (n - (k + 1)), found k) ∧
    (afterTicks program found (m.suspended n) k).tickAccesses program (found k) = []
  /-- The last tick is a run from behind the wait. -/
  resumes : (afterTicks program found (m.suspended n) (n - 1)).tick program (found (n - 1)) =
    inTick ({ m with state := .running }.run program (found (n - 1)))
  /-- If the program is ended before, no tick does anything any more. -/
  ends : ∀ k (later : ℕ → ρ) (j : ℕ),
    (afterTicks program later (afterTicks program found (m.suspended n) k).halt j).tick
        program (later j) =
      (none, (afterTicks program found (m.suspended n) k).halt, later j)

/-! ### Counting down -/

/-- A wait that is not over has been counted down, and nothing else has changed. -/
theorem afterTicks_of_waiting {n k : ℕ} (found : ℕ → ρ) (hk : k < n) :
    afterTicks program found (m.suspended n) k = m.suspended (n - k) := by
  induction k with
  | zero => rfl
  | succ k ih =>
    obtain ⟨left, hleft⟩ : ∃ left, n - k = left + 2 := ⟨n - k - 2, by omega⟩
    have hnext : n - (k + 1) = left + 1 := by omega
    rw [afterTicks, ih (by omega), hleft, hnext, tick_of_waiting rfl]
    rfl

/-- An interpreter that is idle stays idle. -/
theorem afterTicks_of_idle (h : m.state = .idle) (found : ℕ → ρ) (k : ℕ) :
    afterTicks program found m k = m := by
  induction k with
  | zero => rfl
  | succ k ih => rw [afterTicks, ih, tick_of_idle h]

theorem run_of_running (h : m.state = .running) (program : Program) (regs : ρ) :
    m.run program regs = pass program instructionBudget m regs :=
  if_pos h

/-- A wait with one tick left is over with that tick. -/
theorem tick_of_waiting_one (program : Program) (m : Interpreter) (regs : ρ) :
    (m.suspended 1).tick program regs =
      inTick (({ m with state := .running } : Interpreter).run program regs) := by
  rw [tick_of_isDue (.inr ⟨1, le_rfl, rfl⟩), run_of_running rfl, inTick]
  rfl

/-- **A wait lasts as long as it says.** -/
theorem suspends {n : ℕ} (hn : 0 < n) (program : Program) (m : Interpreter) (found : ℕ → ρ) :
    Suspends program m n found where
  waits k hk := by
    obtain ⟨left, hleft⟩ : ∃ left, n - k = left + 2 := ⟨n - k - 2, by omega⟩
    have hnext : n - (k + 1) = left + 1 := by omega
    rw [afterTicks_of_waiting found (by omega), hleft, hnext, tickAccesses, tick_of_waiting rfl,
      tick_of_waiting rfl]
    exact ⟨rfl, rfl⟩
  resumes := by
    have hlast : n - (n - 1) = 1 := by omega
    rw [afterTicks_of_waiting found (by omega), hlast]
    exact tick_of_waiting_one program m _
  ends k later j := by
    rw [afterTicks_of_idle rfl, tick_of_idle rfl]

/-! ### Where a wait is executed -/

/-- A wait suspends the program for as many ticks as it says. -/
theorem execute_wait {ticks : UInt32} (hticks : ticks ≠ 0) (regs : ρ) (address : ℕ) :
    m.execute regs address (.wait ticks) = (some .waiting, m.suspended ticks.toNat, regs) :=
  if_neg hticks

theorem execute_wait_zero (regs : ρ) (address : ℕ) :
    m.execute regs address (.wait 0) = (none, m, regs) := by
  rw [execute, if_pos rfl]

/-- **Waiting.** Let a run execute a wait, and let `behind` be the interpreter about to go on behind
it. A wait of some ticks gives control back and suspends the program for as many ticks. A wait of
none changes nothing: the run goes on behind it with what is left of the budget, and if anything is
left the next instruction is executed there, with the same registers. Whatever is pending, a start
begins at address `0` with cleared registers. -/
theorem run_wait {regs : ρ} {before after : List (Interpreter × ρ)} {s : Interpreter × ρ}
    {ticks : UInt32} (htrace : m.runTrace program regs = before ++ s :: after)
    (hget : program.get? s.1.pc = some (.wait ticks)) :
    let behind : Interpreter := { s.1 with pc := s.1.pc + 1 }
    (ticks ≠ 0 →
      m.run program regs = (.waiting, behind.suspended ticks.toNat, s.2) ∧
      ∀ found : ℕ → ρ, Suspends program behind ticks.toNat found) ∧
    (ticks = 0 →
      m.run program regs = pass program (instructionBudget - (before.length + 1)) behind s.2 ∧
      (before.length + 1 < instructionBudget → ∃ more, after = (behind, s.2) :: more)) ∧
    ∀ (d : Device) (pending : Interpreter),
      { d with interpreter := pending }.start program = d.start program ∧
      (d.start program).interpreter = ((⟨0, 0, 0, .eq, .running⟩ : Interpreter).run program
        { d.registers with status := GlobalVar.statusRunning }).2.1 := by
  intro behind
  have hrunning : m.state = .running := by
    by_contra hne
    rw [runTrace, if_neg hne] at htrace
    cases before <;> cases htrace
  rw [runTrace, if_pos hrunning] at htrace
  obtain ⟨rest, hbudget, hpass, htail⟩ := pass_of_trace_eq htrace
  have hstep := step_of_get? hget s.2
  rw [run_of_running hrunning, hpass]
  refine ⟨fun hticks ↦ ?_, ?_, fun d pending ↦ ⟨?_, ?_⟩⟩
  · have hpos : 0 < ticks.toNat := Nat.pos_of_ne_zero fun hzero ↦ hticks (UInt32.toNat_inj.mp hzero)
    exact ⟨pass_of_step_some (hstep.trans (execute_wait hticks s.2 s.1.pc)) rest,
      suspends hpos program behind⟩
  · -- the wait is passed over, at the cost of one instruction
    rintro rfl
    have hnone : s.1.step program s.2 = (none, behind, s.2) :=
      hstep.trans (execute_wait_zero s.2 s.1.pc)
    have hrest : instructionBudget - (before.length + 1) = rest := by omega
    rw [pass_of_step_none hnone, hrest]
    refine ⟨rfl, fun hleft ↦ ?_⟩
    obtain ⟨rest, rfl⟩ : ∃ r, rest = r + 1 := ⟨rest - 1, by omega⟩
    have hafter : trace program (rest + 1) behind s.2 = after := by
      rw [trace, hnone] at htail
      exact (List.cons.inj htail).2
    rw [trace] at hafter
    exact ⟨_, hafter.symm⟩
  · rw [Device.start_eq, Device.start_eq]
  · rw [Device.start_eq]
    rfl

/-- Goes on at once, waits for three ticks, commands a speed and stops. -/
def resting : Program where
  instructions := #[.wait 0, .wait 3, .setParam .targetSpeed (.value 5), .stop]
  size_pos := by decide
  jumps_inside := by decide

/-- The wait is executed in the run that starts the program. Two ticks only count, each with other
registers, and the third commands the speed. -/
theorem run_wait_resting :
    let found : ℕ → Registers := fun k ↦ .initial (.ofNat k)
    let behind : Interpreter := { started with pc := 2 }
    started.runTrace resting (Registers.initial 0) =
        [(started, Registers.initial 0), ({ started with pc := 1 }, Registers.initial 0)] ∧
      resting.get? 1 = some (.wait 3) ∧
      started.run resting (Registers.initial 0) =
        (.waiting, behind.suspended 3, Registers.initial 0) ∧
      (∀ k < 2, (afterTicks resting found (behind.suspended 3) k).tick resting (found k) =
        (some .waiting, behind.suspended (3 - (k + 1)), found k)) ∧
      (afterTicks resting found (behind.suspended 3) 2).tick resting (found 2) =
        (some .halted, { behind with pc := 4, state := .idle },
          (found 2).storeParam .targetSpeed 5) := by
  intro found behind
  have htrace : started.runTrace resting (Registers.initial 0) =
      [(started, Registers.initial 0)] ++ [({ started with pc := 1 }, Registers.initial 0)] := rfl
  have hget : resting.get? 1 = some (.wait 3) := by decide
  obtain ⟨hwait, -, -⟩ := run_wait htrace hget
  obtain ⟨hrun, hsuspends⟩ := hwait (by decide)
  refine ⟨htrace, hget, hrun, fun k hk ↦ ?_, ?_⟩
  · exact ((hsuspends found).waits k (Nat.succ_lt_succ hk)).1
  · exact (hsuspends found).resumes.trans rfl

/-- A pass through waits of no ticks executes one after the other. -/
theorem trace_of_waits {budget : ℕ}
    (h : ∀ a < m.pc + budget, program.get? a = some (.wait 0)) (regs : ρ) :
    trace program budget m regs =
        (List.range budget).map (fun i ↦ ({ m with pc := m.pc + i }, regs)) ∧
      pass program budget m regs = (.budget, { m with pc := m.pc + budget }, regs) := by
  induction budget generalizing m with
  | zero => exact ⟨rfl, rfl⟩
  | succ budget ih =>
    have hstep : m.step program regs = (none, { m with pc := m.pc + 1 }, regs) :=
      (step_of_get? (h m.pc (by omega)) regs).trans (execute_wait_zero regs m.pc)
    obtain ⟨htrace, hpass⟩ := ih (m := { m with pc := m.pc + 1 }) fun a ha ↦ h a (by
      rw [← Nat.succ_add_eq_add_succ]
      exact ha)
    have hpc (i : ℕ) : m.pc + 1 + i = m.pc + (i + 1) := Nat.add_right_comm _ _ _
    rw [trace, hstep, pass_of_step_none hstep]
    refine ⟨?_, hpass.trans (by rw [hpc])⟩
    rw [List.range_succ_eq_map, List.map_cons, List.map_map]
    exact congrArg _ (htrace.trans (List.map_congr_left fun i _ ↦ by
      rw [Function.comp_apply, hpc]))

/-- As many waits of no ticks as the budget covers, and a stop. -/
def idling : Program where
  instructions := (Array.replicate instructionBudget (.wait 0)).push .stop
  size_pos := by simp
  jumps_inside i hi := by
    rcases Array.mem_push.mp hi with hi | rfl
    · rw [Array.eq_of_mem_replicate hi]
      rfl
    · rfl

/-- A wait of no ticks does not go on with the next instruction if it is the last that the budget
allows: the stop behind it is left to the next run. -/
theorem wait_zero_at_budget :
    ∃ before s, started.runTrace idling (Registers.initial 0) = before ++ [s] ∧
      idling.get? s.1.pc = some (.wait 0) ∧ idling.get? (s.1.pc + 1) = some .stop ∧
      started.run idling (Registers.initial 0) =
        (.budget, { s.1 with pc := s.1.pc + 1 }, Registers.initial 0) := by
  have hwaits (a : ℕ) (ha : a < started.pc + instructionBudget) :
      idling.get? a = some (.wait 0) := by
    rw [started, Nat.zero_add] at ha
    simp [Program.get?, idling, Array.getElem?_push, ha, Nat.ne_of_lt ha]
  have hstop : idling.get? instructionBudget = some .stop := by
    rw [Program.get?, idling, Array.getElem?_push, Array.size_replicate, if_pos rfl]
  have hrunning : started.state = .running := rfl
  obtain ⟨htrace, hpass⟩ := trace_of_waits hwaits (Registers.initial 0)
  rw [runTrace, if_pos hrunning, htrace, run_of_running hrunning, hpass]
  obtain ⟨last, hlast⟩ : ∃ last, instructionBudget = last + 1 := ⟨1023, rfl⟩
  rw [hlast] at hwaits hstop ⊢
  rw [List.range_succ, List.map_append, List.map_singleton]
  have hpc : started.pc + last = last := Nat.zero_add last
  refine ⟨_, _, rfl, hwaits _ (Nat.lt_succ_self _), ?_, rfl⟩
  rw [hpc]
  exact hstop

end Interpreter

end FocusDrive
