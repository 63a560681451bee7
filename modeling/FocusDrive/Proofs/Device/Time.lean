import FocusDrive.Device.Basic
import Mathlib.Order.Bounds.Basic
import Mathlib.Tactic.Linarith

/-!
# Ticking until the program stops

`Device.runUntilIdle` looks before it ticks. If the program runs during the first `n` ticks and not
after them, the answer is `n` and the module has made exactly these ticks, provided that so many
were allowed (`runUntilIdle_eq_some`). If it runs during all that were allowed, and after the last
one too, there is no answer and the module has made them all (`runUntilIdle_eq_none`).

One of the two is the case (`runUntilIdle_cases`), so the answer is the least number of ticks after
which the program does not run, as far as it is within the bound.
-/

namespace FocusDrive

namespace Device

variable {d : Device}

theorem runTicks_succ' (n : ℕ) (d : Device) : runTicks (n + 1) d = (runTicks n d).tick.2 := by
  rw [runTicks_add]
  rfl

/-- The loop of `runUntilIdle` stops at the first idle module; the induction is on the bound. -/
theorem runUntilIdleFrom_eq_some {n max : ℕ} (elapsed : ℕ) (hn : n ≤ max)
    (hrun : ∀ k < n, (runTicks k d).isRunning = true) (hidle : (runTicks n d).isRunning = false) :
    runUntilIdleFrom elapsed max d = (some (elapsed + n), runTicks n d) := by
  induction n generalizing elapsed max d with
  | zero =>
    rw [runTicks_zero] at hidle ⊢
    cases max <;> rw [runUntilIdleFrom, if_neg (by simp [hidle])] <;> rfl
  | succ n ih =>
    obtain ⟨max, rfl⟩ : ∃ m, max = m + 1 := ⟨max - 1, by omega⟩
    have hfirst : d.isRunning = true := hrun 0 n.succ_pos
    rw [runUntilIdleFrom, if_pos hfirst, ih (elapsed + 1) (by omega)
      (fun k hk ↦ hrun (k + 1) (by omega)) hidle]
    rw [runTicks_succ, Nat.add_right_comm, Nat.add_assoc]

/-- The first idle module is found if it comes within the bound. -/
theorem runUntilIdle_eq_some {n max : ℕ} (hn : n ≤ max)
    (hrun : ∀ k < n, (runTicks k d).isRunning = true) (hidle : (runTicks n d).isRunning = false) :
    d.runUntilIdle max = (some n, runTicks n d) := by
  rw [runUntilIdle, runUntilIdleFrom_eq_some 0 hn hrun hidle, Nat.zero_add]

/-- If every module up to the bound runs, the loop ends with the bound. -/
theorem runUntilIdleFrom_eq_none {max : ℕ} (elapsed : ℕ)
    (hrun : ∀ k ≤ max, (runTicks k d).isRunning = true) :
    runUntilIdleFrom elapsed max d = (none, runTicks max d) := by
  have hfirst : d.isRunning = true := hrun 0 max.zero_le
  induction max generalizing elapsed d with
  | zero =>
    rw [runUntilIdleFrom, if_pos hfirst]
    rfl
  | succ max ih =>
    have hrest (k : ℕ) (hk : k ≤ max) : (runTicks k d.tick.2).isRunning = true :=
      hrun (k + 1) (Nat.succ_le_succ hk)
    rw [runUntilIdleFrom, if_pos hfirst, ih (elapsed + 1) hrest (hrest 0 max.zero_le),
      runTicks_succ]

/-- If no module up to the bound is idle then none is found. -/
theorem runUntilIdle_eq_none {max : ℕ} (hrun : ∀ k ≤ max, (runTicks k d).isRunning = true) :
    d.runUntilIdle max = (none, runTicks max d) :=
  runUntilIdleFrom_eq_none 0 hrun

/-- The numbers of ticks after which the program does not run. -/
def idleAfter (d : Device) : Set ℕ := {k | (runTicks k d).isRunning = false}

theorem mem_idleAfter {k : ℕ} : k ∈ d.idleAfter ↔ (runTicks k d).isRunning = false := Iff.rfl

theorem notMem_idleAfter {k : ℕ} : k ∉ d.idleAfter ↔ (runTicks k d).isRunning = true := by
  rw [mem_idleAfter, Bool.not_eq_false]

/-- The program stops within the bound, or it runs throughout. -/
theorem runUntilIdle_cases (d : Device) (max : ℕ) :
    (∃ n ≤ max, IsLeast d.idleAfter n ∧ d.runUntilIdle max = (some n, runTicks n d)) ∨
      (∀ k ≤ max, k ∉ d.idleAfter) ∧ d.runUntilIdle max = (none, runTicks max d) := by
  by_cases hstops : ∃ k ≤ max, k ∈ d.idleAfter
  · obtain ⟨k, hk, hidle⟩ := hstops
    have hexists : ∃ k, (runTicks k d).isRunning = false := ⟨k, hidle⟩
    have hleast : IsLeast d.idleAfter (Nat.find hexists) :=
      ⟨Nat.find_spec hexists, fun j hj ↦ Nat.find_min' hexists hj⟩
    have hle : Nat.find hexists ≤ max := (hleast.2 hidle).trans hk
    refine .inl ⟨Nat.find hexists, hle, hleast, runUntilIdle_eq_some hle (fun j hj ↦ ?_) hleast.1⟩
    exact notMem_idleAfter.mp fun hmem ↦ Nat.not_le_of_lt hj (hleast.2 hmem)
  · have hrun : ∀ k ≤ max, k ∉ d.idleAfter := fun k hk hmem ↦ hstops ⟨k, hk, hmem⟩
    exact .inr ⟨hrun, runUntilIdle_eq_none fun k hk ↦ notMem_idleAfter.mp (hrun k hk)⟩

theorem ticks_tick (d : Device) : d.tick.2.ticks = d.ticks + 1 := by
  have hprogram : d.tickProgram.2.ticks = d.ticks := by
    rw [tickProgram]
    split <;> rfl
  rw [← hprogram]
  rfl

/-- Every tick is counted. -/
theorem ticks_runTicks (n : ℕ) (d : Device) : (runTicks n d).ticks = d.ticks + n := by
  induction n with
  | zero => rfl
  | succ n ih => rw [runTicks_succ', ticks_tick, ih, Nat.add_assoc]

/-- **Ticks are counted exactly.** The answer is the least number of ticks after which the program
does not run, provided that it is within the bound. There is none if the program runs after every
number of ticks up to the bound. The module has made as many ticks as the answer says, or as many as
were allowed. -/
theorem runUntilIdle_isLeast (d : Device) (max : ℕ) :
    (∀ n, (d.runUntilIdle max).1 = some n ↔ n ≤ max ∧ IsLeast d.idleAfter n) ∧
      ((d.runUntilIdle max).1 = none ↔ ∀ k ≤ max, (runTicks k d).isRunning = true) ∧
      ∃ made, (d.runUntilIdle max).1.getD max = made ∧
        (d.runUntilIdle max).2 = runTicks made d ∧
        (d.runUntilIdle max).2.ticks = d.ticks + made := by
  simp only [← notMem_idleAfter]
  rcases runUntilIdle_cases d max with ⟨n, hn, hleast, hrun⟩ | ⟨hrunning, hrun⟩
  all_goals rw [hrun]
  · refine ⟨fun k ↦ ⟨?_, ?_⟩, ⟨nofun, fun hnone ↦ absurd hleast.1 (hnone n hn)⟩, n, rfl, rfl,
      ticks_runTicks n d⟩
    · rintro ⟨⟩
      exact ⟨hn, hleast⟩
    · rintro ⟨-, hk⟩
      rw [hleast.unique hk]
  · refine ⟨fun k ↦ ⟨nofun, ?_⟩, ⟨fun _ ↦ hrunning, fun _ ↦ rfl⟩, max, rfl, rfl,
      ticks_runTicks max d⟩
    rintro ⟨hk, hleast⟩
    exact absurd hleast.1 (hrunning k hk)

end Device

end FocusDrive
