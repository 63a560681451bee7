import FocusDrive.Device.Registers
import FocusDrive.Profile
import FocusDrive.Proofs.Interpreter

/-!
# One pass of the profile program

The interpreter executes the profile's loop one instruction at a time. Here the same pass is written
as what it does to the registers: which it reads, in which order, what it computes, which it writes.
`pass_loopStart` says that the two agree for every register file, however it answers. The budget
does not matter, as long as it covers the loop once.

## The order of the parts

The program is a sequence of parts (`Profile.distanceLines` to `Profile.commandLines`), and the
effect of the loop is a sequence of functions, one for each part that ends in a jump. The
lemmas `pass_command`, `pass_limit`, … start at the address of a part and run to the end of the
pass, so each is proved from the next one. A branch that skips instructions leaves some of the
budget over; that is why every one of them holds for any surplus `n`.

## Reads are not trusted

The speed is read three times and the stored distance twice, and a register file may answer
differently each time. The functions below keep these reads apart. For the module's own registers
they agree, and the pass becomes a change of three registers (`loop_of_ne_target`).
-/

namespace FocusDrive

namespace Profile

/-! ### What the program computes -/

/-- The distance at which braking has to begin at speed `v`, with the sign of `w`. -/
def brakingWord (v w : Int32) : Int32 :=
  if 0 ≤ w then v * v / decelerationDivisor else v * v / decelerationDivisor * -1

/-- The blend of the speed `v` with the distance `x` that is left after braking. -/
def blendWord (v x : Int32) : Int32 := (v + x) * 2 / 3

/-- The blend within the speed limit. -/
def limitWord (s : Int32) : Int32 := (Bounds.symmetric speedLimit).clamp s

variable {ρ : Type} [RegisterFile ρ]

/-! ### What the parts do -/

/-- Command the speed `s`, or the stored distance if `s` is `0`. -/
def command (s x : Int32) (regs : ρ) : Outcome × Interpreter × ρ :=
  let (c, regs) := if s = 0 then RegisterFile.readGlobal remainingDistance regs else (s, regs)
  (.looped, ⟨loopStart, c, x, compare s 0, .running⟩, RegisterFile.writeParam .targetSpeed c regs)

/-- Blend the speed with what the stored distance exceeds the braking distance `b` by. -/
def blend (b : Int32) (regs : ρ) : Outcome × Interpreter × ρ :=
  let (d, regs) := RegisterFile.readGlobal remainingDistance regs
  let (v, regs) := RegisterFile.readParam .actualSpeed regs
  command (limitWord (blendWord v (d - b))) (d - b) regs

/-- Store the braking distance and go on. -/
def brake (regs : ρ) : Outcome × Interpreter × ρ :=
  let (v, regs) := RegisterFile.readParam .actualSpeed regs
  let (w, regs) := RegisterFile.readParam .actualSpeed regs
  blend (brakingWord v w) (RegisterFile.writeGlobal decelerationTrigger (brakingWord v w) regs)

/-- Stop the motor and end the program, which has `e` in `X`. -/
def arrive (e : Int32) (regs : ρ) : Outcome × Interpreter × ρ :=
  (.halted, ⟨11, 0, e, .eq, .idle⟩,
    RegisterFile.writeParam .actualSpeed 0 (RegisterFile.writeParam .targetSpeed 0 regs))

/-- The whole pass: store the distance, and end the program or command a speed. -/
def loop (regs : ρ) : Outcome × Interpreter × ρ :=
  let (e, regs) := RegisterFile.readParam .encoderPosition regs
  let (g, regs) := RegisterFile.readGlobal targetPosition regs
  let regs := RegisterFile.writeGlobal remainingDistance (g - e) regs
  if g - e = 0 then arrive e regs else brake regs

/-! ### Comparisons of words -/

theorem holds_ne_compare {a b : Int32} : Condition.ne.holds (compare a b) = true ↔ a ≠ b := by
  have h : compare a b = .eq ↔ a = b := Std.compare_eq_iff_eq
  rw [Condition.holds, ne_eq, ← h]
  cases compare a b <;> decide

theorem holds_ge_compare {a b : Int32} : Condition.ge.holds (compare a b) = true ↔ b ≤ a :=
  Std.LawfulOrderOrd.isGE_compare a b

theorem holds_gt_compare {a b : Int32} : Condition.gt.holds (compare a b) = true ↔ b < a := by
  rw [Condition.holds, ← Int32.not_le, ← Std.LawfulOrderOrd.isLE_compare a b]
  cases compare a b <;> decide

theorem holds_lt_compare {a b : Int32} : Condition.lt.holds (compare a b) = true ↔ a < b := by
  rw [Condition.holds, ← Int32.not_le, ← Std.LawfulOrderOrd.isGE_compare a b]
  cases compare a b <;> decide

/-! ### Jumps inside a pass -/

section Jumps

variable {program : Program} {source target : Nat} {c : Condition} {o : Ordering}

/-- A jump that is taken costs one instruction. -/
theorem pass_jumpIf_of_holds (hi : program.get? source = some (.jumpIf c target))
    (hlt : source < target) (h : c.holds o = true) (n : Nat) (a x : Int32) (st : RunState)
    (regs : ρ) :
    Interpreter.pass program (n + 1) ⟨source, a, x, o, st⟩ regs =
      Interpreter.pass program n ⟨target, a, x, o, st⟩ regs := by
  refine Interpreter.pass_of_step_none ?_ n
  rw [Interpreter.step_of_get? hi, Interpreter.execute, if_pos h, Interpreter.jumpTo,
    if_neg (Nat.not_le.mpr hlt)]

theorem pass_jumpIf_of_not_holds (hi : program.get? source = some (.jumpIf c target))
    (h : ¬c.holds o = true) (n : Nat) (a x : Int32) (st : RunState) (regs : ρ) :
    Interpreter.pass program (n + 1) ⟨source, a, x, o, st⟩ regs =
      Interpreter.pass program n ⟨source + 1, a, x, o, st⟩ regs := by
  refine Interpreter.pass_of_step_none ?_ n
  rw [Interpreter.step_of_get? hi, Interpreter.execute, if_neg h]

end Jumps

/-! ### The conditional jumps of the program -/

theorem get?_arrival : profile.get? 7 = some (.jumpIf .ne 11) := rfl

theorem get?_sign : profile.get? 19 = some (.jumpIf .ge 21) := rfl

theorem get?_above : profile.get? 31 = some (.jumpIf .gt 35) := rfl

theorem get?_below : profile.get? 33 = some (.jumpIf .lt 37) := rfl

theorem get?_nonzero : profile.get? 39 = some (.jumpIf .ne 41) := rfl

/-! ### From the address of a part to the end of the pass

Straight-line code is executed by computation (`rfl`), up to the next conditional jump, where the
value of a comparison decides. -/

/-- The end of the loop: a zero speed is replaced and the rest is commanded. -/
theorem pass_command (n : Nat) (s x : Int32) (c : Ordering) (regs : ρ) :
    Interpreter.pass profile (n + 5) ⟨38, s, x, c, .running⟩ regs = command s x regs := by
  have hcomp : Interpreter.pass profile (n + 5) ⟨38, s, x, c, .running⟩ regs =
      Interpreter.pass profile (n + 4) ⟨39, s, x, compare s 0, .running⟩ regs := rfl
  rw [hcomp, command]
  by_cases hs : s = 0
  · rw [pass_jumpIf_of_not_holds get?_nonzero (fun h ↦ holds_ne_compare.mp h hs), if_pos hs]
    rfl
  · rw [pass_jumpIf_of_holds get?_nonzero (by decide) (holds_ne_compare.mpr hs), if_neg hs]
    rfl

/-- From the comparison with the upper limit on the speed is limited and commanded. -/
theorem pass_limit (n : Nat) (s x : Int32) (c : Ordering) (regs : ρ) :
    Interpreter.pass profile (n + 11) ⟨30, s, x, c, .running⟩ regs =
      command (limitWord s) x regs := by
  have hcomp : Interpreter.pass profile (n + 11) ⟨30, s, x, c, .running⟩ regs =
      Interpreter.pass profile (n + 10) ⟨31, s, x, compare s speedLimit, .running⟩ regs := rfl
  rw [hcomp, limitWord, Bounds.clamp, Bounds.symmetric]
  by_cases hgt : speedLimit < s
  · have hlo : ¬s < -speedLimit := by
      have horder : -speedLimit < speedLimit := by decide
      exact fun h ↦ Int32.lt_irrefl (Int32.lt_trans (Int32.lt_trans h horder) hgt)
    rw [pass_jumpIf_of_holds get?_above (by decide) (holds_gt_compare.mpr hgt), if_neg hlo,
      if_pos hgt, ← pass_command (n + 2) speedLimit x (compare s speedLimit)]
    rfl
  · rw [pass_jumpIf_of_not_holds get?_above (mt holds_gt_compare.mp hgt)]
    have hcomp : Interpreter.pass profile (n + 9) ⟨32, s, x, compare s speedLimit, .running⟩ regs =
        Interpreter.pass profile (n + 8) ⟨33, s, x, compare s (-speedLimit), .running⟩ regs := rfl
    rw [hcomp]
    by_cases hlt : s < -speedLimit
    · rw [pass_jumpIf_of_holds get?_below (by decide) (holds_lt_compare.mpr hlt), if_pos hlt,
        ← pass_command (n + 1) (-speedLimit) x (compare s (-speedLimit))]
      rfl
    · rw [pass_jumpIf_of_not_holds get?_below (mt holds_lt_compare.mp hlt), if_neg hlt, if_neg hgt,
        ← pass_command (n + 1) s x (compare s (-speedLimit))]
      rfl

/-- From the braking distance on the pass blends, limits and commands. -/
theorem pass_blend (n : Nat) (b x : Int32) (c : Ordering) (regs : ρ) :
    Interpreter.pass profile (n + 19) ⟨22, b, x, c, .running⟩ regs = blend b regs :=
  pass_limit n _ _ _ _

/-- The braking distance is stored before it is used. -/
theorem pass_store (n : Nat) (b x : Int32) (c : Ordering) (regs : ρ) :
    Interpreter.pass profile (n + 20) ⟨21, b, x, c, .running⟩ regs =
      blend b (RegisterFile.writeGlobal decelerationTrigger b regs) := by
  rw [← pass_blend n b x c]
  exact Interpreter.pass_of_step_none rfl _

/-- A negative speed makes a negative braking distance. -/
theorem pass_negate (n : Nat) (q x : Int32) (c : Ordering) (regs : ρ) :
    Interpreter.pass profile (n + 21) ⟨20, q, x, c, .running⟩ regs =
      Interpreter.pass profile (n + 20) ⟨21, q * -1, x, c, .running⟩ regs :=
  Interpreter.pass_of_step_none rfl _

/-- From the speed on the pass brakes, by the sign of the speed. -/
theorem pass_brake (n : Nat) (a x : Int32) (c : Ordering) (regs : ρ) :
    Interpreter.pass profile (n + 30) ⟨11, a, x, c, .running⟩ regs = brake regs := by
  let v := RegisterFile.readParam .actualSpeed regs
  let w := RegisterFile.readParam .actualSpeed v.2
  -- the second exchange brings the quotient back into `A` and keeps the comparison of `w`
  have hread : Interpreter.pass profile (n + 30) ⟨11, a, x, c, .running⟩ regs =
      Interpreter.pass profile (n + 22)
        ⟨19, v.1 * v.1 / decelerationDivisor, w.1, compare w.1 0, .running⟩ w.2 := rfl
  have hbrake : brake regs = blend (brakingWord v.1 w.1)
      (RegisterFile.writeGlobal decelerationTrigger (brakingWord v.1 w.1) w.2) := rfl
  rw [hread, hbrake, brakingWord]
  by_cases hw : 0 ≤ w.1
  · rw [pass_jumpIf_of_holds get?_sign (by decide) (holds_ge_compare.mpr hw), if_pos hw,
      pass_store (n + 1)]
  · rw [pass_jumpIf_of_not_holds get?_sign (mt holds_ge_compare.mp hw), if_neg hw, pass_negate,
      pass_store]

/-- One pass from the start of the loop. The final state of the interpreter is part of it, and
nothing that the interpreter held before is. -/
theorem pass_loopStart (n : Nat) (a x : Int32) (c : Ordering) (regs : ρ) :
    Interpreter.pass profile (n + 37) ⟨loopStart, a, x, c, .running⟩ regs = loop regs := by
  let e := RegisterFile.readParam .encoderPosition regs
  let g := RegisterFile.readGlobal targetPosition e.2
  have hread : Interpreter.pass profile (n + 37) ⟨loopStart, a, x, c, .running⟩ regs =
      Interpreter.pass profile (n + 31)
        ⟨7, g.1 - e.1, e.1, compare (g.1 - e.1) 0, .running⟩
        (RegisterFile.writeGlobal remainingDistance (g.1 - e.1) g.2) := rfl
  have hloop : loop regs =
      if g.1 - e.1 = 0 then
        arrive e.1 (RegisterFile.writeGlobal remainingDistance (g.1 - e.1) g.2)
      else brake (RegisterFile.writeGlobal remainingDistance (g.1 - e.1) g.2) := rfl
  rw [hread, hloop]
  by_cases hd : g.1 - e.1 = 0
  · rw [pass_jumpIf_of_not_holds get?_arrival (fun h ↦ holds_ne_compare.mp h hd), if_pos hd, hd]
    rfl
  · rw [pass_jumpIf_of_holds get?_arrival (by decide) (holds_ne_compare.mpr hd), if_neg hd,
      pass_brake]

/-- A tick that runs a pass from the start of the loop. -/
theorem tick_loopStart {m : Interpreter} (hdue : m.IsDue) (hpc : m.pc = loopStart) (regs : ρ) :
    m.tick profile regs = (some (loop regs).1, (loop regs).2) := by
  have hpass : Interpreter.pass profile Interpreter.instructionBudget
      { m with state := .running } regs = loop regs := by
    show Interpreter.pass profile Interpreter.instructionBudget
      ⟨m.pc, m.accumulator, m.x, m.comparison, .running⟩ regs = _
    rw [hpc]
    exact pass_loopStart 987 _ _ _ _
  rw [Interpreter.tick_of_isDue hdue, hpass]

/-! ### The module's own registers -/

/-- The speed that is commanded at speed `v` and distance `d`. -/
def commandWord (v d : Int32) : Int32 :=
  let s := limitWord (blendWord v (d - brakingWord v v))
  if s = 0 then d else s

variable {regs : Registers}

/-- Writing the commanded speed limits it once, though both the registers and the motor do. -/
theorem writeParam_targetSpeed (v : Int32) :
    RegisterFile.writeParam .targetSpeed v regs =
      { regs with motor := regs.motor.setTargetSpeed v } := by
  have hclamp : (Bounds.symmetric maxSpeed).clamp ((Bounds.symmetric maxSpeed).clamp v) =
      (Bounds.symmetric maxSpeed).clamp v :=
    Bounds.clamp_of_contains (Bounds.contains_clamp (by decide) v)
  show { regs with motor := regs.motor.setTargetSpeed ((Bounds.symmetric maxSpeed).clamp v) } = _
  rw [Motor.setTargetSpeed, hclamp, Motor.setTargetSpeed]

/-- On the registers of the module the command is a target speed. -/
theorem command_registers (s x : Int32) {d : Int32} (hd : regs.global remainingDistance = d) :
    command s x regs =
      (.looped, ⟨loopStart, if s = 0 then d else s, x, compare s 0, .running⟩,
        { regs with motor := regs.motor.setTargetSpeed (if s = 0 then d else s) }) := by
  by_cases hs : s = 0
  · rw [command, if_pos hs, if_pos hs, ← hd, ← writeParam_targetSpeed]
    rfl
  · rw [command, if_neg hs, if_neg hs, ← writeParam_targetSpeed]

theorem blend_registers (b : Int32) {d : Int32} (hd : regs.global remainingDistance = d) :
    blend b regs =
      command (limitWord (blendWord regs.motor.actualSpeed (d - b))) (d - b) regs := by
  rw [← hd]
  rfl

theorem brake_registers :
    brake regs = blend (brakingWord regs.motor.actualSpeed regs.motor.actualSpeed)
      (regs.storeUser 2 (brakingWord regs.motor.actualSpeed regs.motor.actualSpeed)) :=
  rfl

/-- On the registers of the module a turn of the loop either arrives or brakes. -/
theorem loop_registers :
    loop regs =
      if regs.global targetPosition - regs.motor.encoder = 0 then
        arrive regs.motor.encoder
          (regs.storeUser 1 (regs.global targetPosition - regs.motor.encoder))
      else brake (regs.storeUser 1 (regs.global targetPosition - regs.motor.encoder)) :=
  rfl

/-- The pass on target: the motor is stopped and the program ends. -/
theorem loop_of_eq_target (h : regs.global targetPosition = regs.motor.encoder) :
    loop regs = (.halted, ⟨11, 0, regs.motor.encoder, .eq, .idle⟩,
      { regs with users := regs.users.set 1 0, motor := regs.motor.stop }) := by
  have hd : regs.global targetPosition - regs.motor.encoder = 0 := by rw [h, Int32.sub_self]
  rw [loop_registers, if_pos hd, hd]
  rfl

/-- The pass away from the target: the distance and the braking distance are stored, and a speed is
commanded. Nothing else changes. -/
theorem loop_of_ne_target (h : regs.global targetPosition ≠ regs.motor.encoder) :
    ∃ a x c, loop regs = (.looped, ⟨loopStart, a, x, c, .running⟩,
      { regs with
        users := (regs.users.set 1 (regs.global targetPosition - regs.motor.encoder)).set 2
          (brakingWord regs.motor.actualSpeed regs.motor.actualSpeed)
        motor := regs.motor.setTargetSpeed
          (commandWord regs.motor.actualSpeed
            (regs.global targetPosition - regs.motor.encoder)) }) := by
  have hd : regs.global targetPosition - regs.motor.encoder ≠ 0 := fun hd ↦
    h ((Int32.sub_eq_iff_eq_add.mp hd).trans (Int32.zero_add _))
  rw [loop_registers, if_neg hd]
  generalize regs.global targetPosition - regs.motor.encoder = d
  have hstored (b : Int32) :
      ((regs.storeUser 1 d).storeUser 2 b).global remainingDistance = d := by
    show ((regs.users.set 1 d).set 2 b).get 1 = d
    rw [UserTable.get_set_of_ne _ (by decide), UserTable.get_set_self]
  rw [brake_registers, blend_registers _ (hstored _), command_registers _ _ (hstored _)]
  exact ⟨_, _, _, rfl⟩

end Profile

end FocusDrive
