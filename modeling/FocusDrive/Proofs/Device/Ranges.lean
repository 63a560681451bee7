import FocusDrive.Proofs.Device.Reachable

/-!
# The register bank

There are three ways for a parameter to change: the host writes it after a check, a program writes
it and it is clamped, and the motor moves. Each of them keeps every parameter in its range
(`Registers.InRange`), although the values are kept in two places, the table of settings and the
motor. Only the motor needs an argument about numbers: a ramp toward a speed that is in range does
not leave the range, whatever the limits are.

The user variables are kept in a table that has a word for every byte. The module has only some of
these variables, and it is the checks before a write that keep the other words at `0`
(`Registers.NoStrays`).

A program sees the registers between two of its own instructions as well, and so both properties are
stated about these too (`Device.Shows`).
-/

namespace FocusDrive

/-- All words are a position. -/
theorem AxisParam.accepts_of_position {p : AxisParam}
    (h : p.range = ⟨Int32.minValue, Int32.maxValue⟩) (v : Int32) : p.accepts v = true := by
  rw [accepts, h, Bounds.contains_iff]
  exact ⟨Int32.minValue_le v, Int32.le_maxValue v⟩

/-- The speeds that an axis accepts. -/
theorem contains_speed_iff {v : Int32} :
    (Bounds.symmetric maxSpeed).contains v = true ↔ |v.toInt| ≤ 2047 := by
  have hlo : (-maxSpeed).toInt = -2047 := by decide
  have hhi : maxSpeed.toInt = 2047 := by decide
  rw [Bounds.contains_iff, Bounds.symmetric, Int32.le_iff_toInt_le, Int32.le_iff_toInt_le, hlo, hhi,
    abs_le]

namespace Registers

/-- Every parameter is in its range. -/
def InRange (r : Registers) : Prop := ∀ p : AxisParam, p.accepts (r.param p) = true

namespace InRange

variable {r : Registers}

/-- With any motor whose speeds are in range. -/
theorem withMotor (h : r.InRange) {motor : Motor} (htarget : |motor.targetSpeed.toInt| ≤ 2047)
    (hactual : |motor.actualSpeed.toInt| ≤ 2047) : InRange { r with motor } := by
  intro p
  cases p with
  | targetSpeed => exact contains_speed_iff.mpr htarget
  | actualSpeed => exact contains_speed_iff.mpr hactual
  | encoderPosition => exact AxisParam.accepts_of_position rfl _
  | _ => exact h _

theorem abs_targetSpeed (h : r.InRange) : |r.motor.targetSpeed.toInt| ≤ 2047 :=
  contains_speed_iff.mp (h .targetSpeed)

theorem abs_actualSpeed (h : r.InRange) : |r.motor.actualSpeed.toInt| ≤ 2047 :=
  contains_speed_iff.mp (h .actualSpeed)

end InRange

/-- A module starts in range. -/
theorem inRange_initial (position : Int32) : (initial position).InRange := by
  intro p
  cases p with
  | encoderPosition => exact AxisParam.accepts_of_position rfl position
  | _ => rfl

/-- Nothing takes a parameter out of its range. -/
theorem invariant_inRange : Invariant InRange where
  storeParam r p v hv h := by
    intro q
    rcases eq_or_ne p q with rfl | hne
    · rw [param_storeParam_self r hv]
      exact hv
    · rw [param_storeParam_of_ne r hne]
      exact h q
  storeUser r n v _ h p := (congrArg p.accepts (r.param_storeUser n v p)).trans (h p)
  withStatus r _ h p := by cases p <;> exact h _
  stop r h := by
    have hzero : |(0 : Int32).toInt| ≤ 2047 := by decide
    exact h.withMotor hzero hzero
  updateMotor r h := h.withMotor h.abs_targetSpeed (Motor.abs_nextSpeed _ _ h.abs_actualSpeed)

/-- Nothing is kept for a variable that the module does not have. -/
def NoStrays (r : Registers) : Prop :=
  ∀ n : UInt8, (GlobalVar.user n).isValid = false → r.global (.user n) = 0

theorem noStrays_initial (position : Int32) : (initial position).NoStrays :=
  fun n _ ↦ UserTable.get_zeros n

/-- Nothing is ever stored for such a variable. -/
theorem invariant_noStrays : Invariant NoStrays where
  storeParam r p v _ h n hn := (r.global_storeParam p v (.user n)).trans (h n hn)
  storeUser r k v hk h n hn := by
    have hne : k ≠ n := by
      rintro rfl
      rw [hk] at hn
      contradiction
    exact (UserTable.get_set_of_ne _ hne v).trans (h n hn)
  withStatus _ _ h := h
  stop _ h := h
  updateMotor _ h := h

end Registers

/-- Requests and programs store accepted words only. -/
theorem Device.Reachable.inRange {d : Device} (h : d.Reachable) : d.registers.InRange :=
  Registers.invariant_inRange.reachable Registers.inRange_initial h

theorem Device.Reachable.noStrays {d : Device} (h : d.Reachable) : d.registers.NoStrays :=
  Registers.invariant_noStrays.reachable Registers.noStrays_initial h

/-! ### What a program does with the bank -/

namespace GlobalVar

/-- There are 56 user variables. -/
theorem not_isValid_of_lt {n : UInt8} (h : 55 < n.toNat) : (user n).isValid = false :=
  decide_eq_false (Nat.not_le_of_lt h)

end GlobalVar

/-- What the bank promises to a program that finds the registers `r`. -/
structure Registers.Bank (r : Registers) : Prop where
  /-- Every parameter is in its range. -/
  accepts_param : ∀ p : AxisParam, p.accepts (r.param p) = true
  /-- In particular the commanded speed. -/
  abs_targetSpeed : |(r.param .targetSpeed).toInt| ≤ 2047
  /-- And the current one. -/
  abs_actualSpeed : |(r.param .actualSpeed).toInt| ≤ 2047
  /-- A variable that the module does not have holds nothing. -/
  global_absent : ∀ n : UInt8, 55 < n.toNat → r.global (.user n) = 0
  /-- A program that reads such a variable reads `0`. -/
  read_absent : ∀ (program : Program) (m : Interpreter) (n : UInt8), 55 < n.toNat →
    program.get? m.pc = some (.getGlobal (.user n)) →
    m.step program r = (none, { m with pc := m.pc + 1, accumulator := 0 }, r)
  /-- A program that writes to such a variable, or to the status, changes nothing. -/
  write_ignored : ∀ (program : Program) (m : Interpreter) (g : GlobalVar) (source : Operand),
    g = .status ∨ g.isValid = false → program.get? m.pc = some (.setGlobal g source) →
    m.step program r = (none, { m with pc := m.pc + 1 }, r)
  /-- A parameter that a program writes reads back clamped into its range. -/
  write_clamped : ∀ (program : Program) (m : Interpreter) (p : AxisParam) (source : Operand),
    program.get? m.pc = some (.setParam p source) →
    ∃ r' : Registers, m.step program r = (none, { m with pc := m.pc + 1 }, r') ∧
      r'.param p = p.range.clamp (m.operand source)

theorem Registers.InRange.bank {r : Registers} (h : r.InRange) (hstrays : r.NoStrays) : r.Bank where
  accepts_param := h
  abs_targetSpeed := h.abs_targetSpeed
  abs_actualSpeed := h.abs_actualSpeed
  global_absent n hn := hstrays n (GlobalVar.not_isValid_of_lt hn)
  read_absent program m n hn hget := by
    have hzero : r.global (.user n) = 0 := hstrays n (GlobalVar.not_isValid_of_lt hn)
    rw [Interpreter.step_of_get? hget, ← hzero]
    rfl
  write_ignored program m g source hg hget := by
    rw [Interpreter.step_of_get? hget]
    cases g with
    | status => rfl
    | user n =>
      have habsent : (GlobalVar.user n).isValid = false := hg.resolve_left nofun
      rw [Interpreter.execute, writeGlobal_user, habsent]
      rfl
  write_clamped program m p source hget := by
    rw [Interpreter.step_of_get? hget]
    exact ⟨_, rfl, r.param_storeParam_self (p.accepts_clamp _)⟩

namespace Device

variable {d : Device}

/-- The registers that can be found in a module: those between two requests, and those that a
program finds between two of its instructions. -/
def Shows (d : Device) (r : Registers) : Prop :=
  ∃ status program n m, r = (Interpreter.pass program n m { d.registers with status }).2.2

/-- **The register bank.** However a module is used and whatever programs it runs, its registers
keep their promises, also while a program is in the middle of a pass. The host can write a parameter
exactly in its range, and what it writes it reads; it cannot write to a variable that the module
does not have. -/
theorem Reachable.bank_invariant (h : d.Reachable) :
    (∀ r, d.Shows r → r.Bank) ∧ d.registers.Bank ∧
      (∀ p v, ((d.handle (.setParam p v)).1 = .ok () ↔ p.accepts v = true) ∧
        (p.accepts v = true → (d.handle (.setParam p v)).2.registers.param p = v)) ∧
      ∀ (n : UInt8) (v : Int32), 55 < n.toNat →
        d.handle (.setGlobal (.user n) v) = (.error (.unwritable (.user n)), d) := by
  refine ⟨?_, h.inRange.bank h.noStrays, fun p v ↦ ⟨?_, ?_⟩, ?_⟩
  · rintro _ ⟨status, program, n, m, rfl⟩
    have hrange := Registers.invariant_inRange
    have hstrays := Registers.invariant_noStrays
    exact (hrange.registerInvariant.pass program n m (hrange.withStatus _ status h.inRange)).bank
      (hstrays.registerInvariant.pass program n m (hstrays.withStatus _ status h.noStrays))
  · rw [Device.handle]
    split
    next hv => exact ⟨fun _ ↦ hv, fun _ ↦ rfl⟩
    next hv => exact ⟨by simp, fun hv' ↦ absurd hv' hv⟩
  · intro hv
    rw [Device.handle, if_pos hv]
    exact d.registers.param_storeParam_self hv
  · intro n v hn
    rw [Device.handle_setGlobal_user, GlobalVar.not_isValid_of_lt hn]
    rfl

/-- Writes a speed limit that no axis has, and a variable that the module does not have. -/
def trespassing : Program where
  instructions := #[.setParam .maximumSpeed (.value 5000), .setGlobal (.user 200) (.value 7), .stop]
  size_pos := by decide
  jumps_inside := by decide

/-- The limit reads back clamped, and the host can lower it. -/
theorem Reachable.bank_invariant_trespassing :
    ∃ d : Device, d.Reachable ∧ d.registers.param .maximumSpeed = 2047 ∧
      d.registers.global (.user 200) = 0 ∧
      (d.handle (.setParam .maximumSpeed 100)).2.registers.param .maximumSpeed = 100 := by
  have hloaded := (Reachable.initial 0 3).handle (.upload trespassing)
  have hstarted := hloaded.handle .startProgram
  obtain ⟨-, hbank, hhost, -⟩ := hstarted.bank_invariant
  exact ⟨_, hstarted, by decide +kernel, hbank.global_absent 200 (by decide),
    (hhost .maximumSpeed 100).2 (by decide)⟩

end Device

end FocusDrive
