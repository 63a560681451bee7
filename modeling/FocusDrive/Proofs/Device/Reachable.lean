import FocusDrive.Device.Host
import FocusDrive.Proofs.Device.Parameters
import FocusDrive.Proofs.Interpreter
import FocusDrive.Proofs.Motor

/-!
# Reachable modules

A module is powered up, answers requests and ticks, in any order. Little can happen to its registers
on the way: a parameter is stored that is in its range, a user variable that the module has, the
status, and the motor is stopped or advances. What none of these destroys (`Registers.Invariant`) is
destroyed by no program and by no request, and it holds in every state that is reached
(`Registers.Invariant.reachable`).

Two things hold in all these states whatever the programs (`Device.Sound`): the motor carries less
than one count of travel, and the status register says whether a program runs. The first is such an
invariant. The second is not about the registers alone; the module writes the status whenever the
state of the interpreter may have changed.
-/

namespace FocusDrive

namespace Registers

/-- A program writes the user variables that the module has, and no others. -/
theorem writeGlobal_user (r : Registers) (n : UInt8) (v : Int32) :
    RegisterFile.writeGlobal (.user n) v r =
      if (GlobalVar.user n).isValid then r.storeUser n v else r := rfl

/-- A property of the registers that nothing destroys which can happen to them. -/
structure Invariant (P : Registers → Prop) : Prop where
  /-- A parameter is stored in its range. -/
  storeParam : ∀ r p v, p.accepts v = true → P r → P (r.storeParam p v)
  /-- A user variable is stored that the module has. -/
  storeUser : ∀ r n v, (GlobalVar.user n).isValid = true → P r → P (r.storeUser n v)
  /-- The status is written. -/
  withStatus : ∀ r status, P r → P { r with status }
  /-- The motor is stopped. -/
  stop : ∀ r, P r → P { r with motor := r.motor.stop }
  /-- The motor advances. -/
  updateMotor : ∀ r, P r → P r.updateMotor

namespace Invariant

variable {P : Registers → Prop} {r : Registers}

theorem storeParams (hP : Invariant P) (h : P r) {writes : List (AxisParam × Int32)}
    (hwrites : ∀ w ∈ writes, w.1.accepts w.2 = true) : P (r.storeParams writes) := by
  induction writes generalizing r with
  | nil => exact h
  | cons write writes ih =>
    obtain ⟨hfirst, hrest⟩ := List.forall_mem_cons.mp hwrites
    exact ih (hP.storeParam r write.1 write.2 hfirst h) hrest

/-- A program stores no parameter out of its range, and no variable that the module does not
have. -/
theorem registerInvariant (hP : Invariant P) : Interpreter.RegisterInvariant P where
  readParam _ _ h := h
  writeParam p v r h := hP.storeParam r p _ (p.accepts_clamp v) h
  readGlobal _ _ h := h
  writeGlobal g v r h := by
    cases g with
    | status => exact h
    | user n =>
      rw [writeGlobal_user]
      split
      next hvalid => exact hP.storeUser r n v hvalid h
      next => exact h

end Invariant

theorem invariant_carry : Invariant fun r ↦ |r.motor.carry.toInt| < 64 where
  storeParam r p v _ h := by
    cases p with
    | encoderPosition =>
      -- a new encoder count discards the travel
      show |(0 : Int32).toInt| < 64
      decide
    | _ => exact h
  storeUser _ _ _ _ h := h
  withStatus _ _ h := h
  stop _ h := h
  updateMotor _ _ := Motor.abs_carry_update _ _

end Registers

/-- Whether the request is about the program and not about registers. -/
def Request.isProgramControl : Request → Bool
  | startProgram | stopProgram | upload _ => true
  | _ => false

namespace Device

/-- The states of a module that was powered up and then used in any way. -/
inductive Reachable : Device → Prop
  /-- Power-up. -/
  | initial (position : Int32) (capacity : Nat) : Reachable (initial position capacity)
  /-- A request is answered. -/
  | handle {d : Device} (h : Reachable d) (r : Request) : Reachable (d.handle r).2
  /-- Time passes. -/
  | tick {d : Device} (h : Reachable d) : Reachable d.tick.2

/-- What holds of a module under any program. -/
structure Sound (d : Device) : Prop where
  /-- The motor carries less than one count. -/
  abs_carry : |d.registers.motor.carry.toInt| < 64
  /-- The status register says whether a program runs. -/
  status : d.registers.status =
    if d.isRunning then GlobalVar.statusRunning else GlobalVar.statusStopped

variable {d : Device}

theorem sound_initial (position : Int32) (capacity : Nat) : (initial position capacity).Sound where
  abs_carry := by
    show |(0 : Int32).toInt| < 64
    decide
  status := rfl

/-- A tick makes any module sound. -/
theorem sound_tick (d : Device) : d.tick.2.Sound where
  abs_carry := Motor.abs_carry_update _ _
  status := rfl

/-- Only a start, a stop and a download touch the program or its interpreter. -/
theorem handle_frame (d : Device) {r : Request} (h : r.isProgramControl = false) :
    (d.handle r).2.program = d.program ∧ (d.handle r).2.interpreter = d.interpreter := by
  cases r with
  | getParam | stop => exact ⟨rfl, rfl⟩
  | startProgram | stopProgram | upload => cases h
  | setGlobal g v =>
    cases g with
    | status => exact ⟨rfl, rfl⟩
    | user n =>
      rw [handle_setGlobal_user]
      split <;> exact ⟨rfl, rfl⟩
  | _ =>
    rw [Device.handle]
    split <;> exact ⟨rfl, rfl⟩

/-- Only a download replaces the program, and none does while a program runs. -/
theorem program_handle (d : Device) {r : Request}
    (hr : ∀ program, r = .upload program → d.isRunning = true) :
    (d.handle r).2.program = d.program := by
  cases hcontrol : r.isProgramControl with
  | false => exact (d.handle_frame hcontrol).1
  | true =>
    cases r with
    | startProgram =>
      rw [Device.handle]
      split <;> rfl
    | stopProgram => rfl
    | upload program => rw [Device.handle, if_pos (hr program rfl)]
    | _ => cases hcontrol

/-- A download puts its program in the place of one that does not run, or it changes nothing. -/
theorem handle_upload_cases (d : Device) (program : Program) :
    (d.handle (.upload program)).2 = d ∨ d.isRunning = false ∧
      (d.handle (.upload program)).2 = { d with program := some program } := by
  rw [Device.handle]
  split
  next => exact .inl rfl
  next hidle =>
    split
    · exact .inl rfl
    · exact .inr ⟨Bool.eq_false_of_not_eq_true hidle, rfl⟩

/-- Only a start and a stop change the status. -/
theorem status_handle (d : Device) {r : Request} (h : r.isProgramControl = false) :
    (d.handle r).2.registers.status = d.registers.status := by
  cases r with
  | getParam | stop => rfl
  | startProgram | stopProgram | upload => cases h
  | setParam p v =>
    rw [Device.handle]
    split
    · exact d.registers.global_storeParam p v .status
    · rfl
  | setParams writes =>
    rw [Device.handle]
    split
    · rfl
    · exact d.registers.global_storeParams writes .status
  | setGlobal g v =>
    cases g with
    | status => rfl
    | user n =>
      rw [handle_setGlobal_user]
      split <;> rfl
  | _ =>
    rw [Device.handle]
    split <;> rfl

theorem start_eq (d : Device) (program : Program) :
    d.start program =
      { d with
        interpreter := (Interpreter.started.run program
          { d.registers with status := GlobalVar.statusRunning }).2.1
        registers := (Interpreter.started.run program
          { d.registers with status := GlobalVar.statusRunning }).2.2 }.syncStatus :=
  rfl

/-! ### What holds of the registers -/

end Device

namespace Registers.Invariant

open Device

variable {P : Registers → Prop} {d : Device}

theorem start (hP : Invariant P) (h : P d.registers) (program : Program) :
    P (d.start program).registers := by
  rw [start_eq]
  exact hP.withStatus _ _ (hP.registerInvariant.run _ program (hP.withStatus _ _ h))

/-- No request destroys the property. -/
theorem handle (hP : Invariant P) (h : P d.registers) (r : Request) :
    P (d.handle r).2.registers := by
  cases r with
  | getParam => exact h
  | setParam p v =>
    rw [Device.handle]
    split
    next hv => exact hP.storeParam _ p v hv h
    next => exact h
  | setParams writes =>
    rw [Device.handle]
    split
    next => exact h
    next hfirst => exact hP.storeParams h (accepts_of_firstOutOfRange? hfirst)
  | getGlobal g =>
    rw [Device.handle]
    split <;> exact h
  | setGlobal g v =>
    cases g with
    | status => exact h
    | user n =>
      rw [handle_setGlobal_user]
      split
      next hvalid => exact hP.storeUser _ n v hvalid h
      next => exact h
  | rotate v =>
    rw [Device.handle]
    split
    next hv => exact hP.storeParam _ .targetSpeed v hv h
    next => exact h
  | stop => exact hP.stop _ h
  | startProgram =>
    rw [Device.handle]
    split
    next => exact h
    next => exact hP.start h _
  | stopProgram => exact hP.withStatus _ _ h
  | upload program =>
    rcases d.handle_upload_cases program with hsame | ⟨-, hnew⟩
    · rwa [hsame]
    · rw [hnew]
      exact h

/-- No tick destroys the property. -/
theorem tick (hP : Invariant P) (h : P d.registers) : P d.tick.2.registers := by
  have hprogram : P d.tickProgram.2.registers := by
    rw [tickProgram]
    split
    · exact h
    · exact hP.registerInvariant.tick _ _ h
  exact hP.updateMotor _ (hP.withStatus _ _ hprogram)

/-- What holds at power-up holds of every module, whatever it was asked and whatever programs it was
given. -/
theorem reachable (hP : Invariant P) (hinitial : ∀ position, P (initial position))
    (h : d.Reachable) : P d.registers := by
  induction h with
  | initial position capacity => exact hinitial position
  | handle _ r ih => exact hP.handle ih r
  | tick _ ih => exact hP.tick ih

end Registers.Invariant

namespace Device

variable {d : Device}

namespace Sound

theorem withRegisters (h : d.Sound) {r : Registers} (hcarry : |r.motor.carry.toInt| < 64)
    (hstatus : r.status = d.registers.status) : (d.withRegisters r).Sound where
  abs_carry := hcarry
  status := hstatus.trans h.status

theorem start (h : d.Sound) (program : Program) : (d.start program).Sound where
  abs_carry := Registers.invariant_carry.start h.abs_carry program
  status := status_syncStatus _

/-- No request makes a sound module unsound. -/
theorem handle (h : d.Sound) (r : Request) : (d.handle r).2.Sound := by
  refine ⟨Registers.invariant_carry.handle h.abs_carry r, ?_⟩
  cases hcontrol : r.isProgramControl with
  | false =>
    -- neither the status nor what it tells has changed
    rw [d.status_handle hcontrol, isRunning, (d.handle_frame hcontrol).2]
    exact h.status
  | true =>
    cases r with
    | startProgram =>
      rw [Device.handle]
      split
      next => exact h.status
      next => exact (h.start _).status
    | stopProgram => exact status_syncStatus _
    | upload program =>
      rcases d.handle_upload_cases program with hsame | ⟨-, hnew⟩
      · rw [hsame]
        exact h.status
      · rw [hnew]
        exact h.status
    | _ => cases hcontrol

end Sound

theorem Reachable.sound (h : d.Reachable) : d.Sound := by
  induction h with
  | initial position capacity => exact sound_initial position capacity
  | handle _ r ih => exact ih.handle r
  | tick => exact sound_tick _

end Device

end FocusDrive
