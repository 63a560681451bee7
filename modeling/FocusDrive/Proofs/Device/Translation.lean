import FocusDrive.Proofs.Device.Drive

/-!
# Motion does not depend on where it happens

Two modules under the profile program that differ in where the axis has its zero move in the same
way (`observe_shifted`). The positions are words, and the difference `c` is any word, so the encoder
of one may wrap while that of the other does not.

Nothing else has to agree but what `Drive` holds. In particular what a pass leaves behind in the
interpreter and in its scratch variables may differ, also because a host writes other values there,
and other variables, at other times (`ShiftedInputs.left`, `ShiftedInputs.right`).
-/

namespace FocusDrive

/-- The same motor along an axis that counts from `c` lower. -/
def Motor.shift (c : Int32) (m : Motor) : Motor := { m with encoder := m.encoder + c }

/-- A command does not look at the encoder. -/
theorem Motor.setTargetSpeed_shift (c : Int32) (m : Motor) (v : Int32) :
    (m.shift c).setTargetSpeed v = (m.setTargetSpeed v).shift c := by
  rw [setTargetSpeed, shift, setTargetSpeed, shift]

/-- The motor moves by differences only. -/
theorem Motor.update_shift (c : Int32) (m : Motor) (s a : Int32) :
    (m.shift c).update s a = (m.update s a).shift c := by
  have hencoder : m.encoder + c + m.counts s a = m.encoder + m.counts s a + c := by
    rw [Int32.add_assoc, Int32.add_comm c, ← Int32.add_assoc]
  show ({ m.update s a with encoder := m.encoder + c + m.counts s a } : Motor) = _
  rw [hencoder, shift, encoder_update]

namespace Drive

/-- The same drive along an axis that counts from `c` lower. -/
def shift (c : Int32) (v : Drive) : Drive :=
  { v with motor := v.motor.shift c, target := v.target + c }

variable (c : Int32) (v : Drive)

/-- What remains is a difference, so it is not shifted. Wrap-around included. -/
theorem remaining_shift : (v.shift c).remaining = v.remaining := by
  show v.target + c - (v.motor.encoder + c) = v.target - v.motor.encoder
  grind

theorem commanded_shift : (v.shift c).commanded = v.commanded.shift c := by
  rw [commanded, remaining_shift, commanded, ← Motor.setTargetSpeed_shift]
  rfl

/-- A pass of the shifted drive is the shifted pass. -/
theorem pass_shift : (v.shift c).pass = (v.pass.1, v.pass.2.1, v.pass.2.2.shift c) := by
  rw [pass, pass, remaining_shift, commanded_shift]
  split <;> rfl

/-- The control part of a tick goes the same way on the shifted drive. -/
theorem control_shift :
    (v.shift c).control = (v.control.1, v.control.2.1, v.control.2.2.shift c) := by
  rcases v.idle_or_isDue_or_waiting with hidle | hdue | ⟨n, hn⟩
  · rw [control_of_idle hidle]
    exact control_of_idle hidle
  · rw [control_of_due hdue, control_of_due (v := v.shift c) hdue, pass_shift]
  · rw [control_of_waiting hn]
    exact control_of_waiting hn

/-- A tick of the shifted drive is the shifted tick. -/
theorem tick_shift : (v.shift c).tick = (v.tick.1, v.tick.2.shift c) := by
  rw [tick, control_shift, tick]
  show (_, { v.shift c with
    state := v.control.2.1
    motor := (v.control.2.2.shift c).update v.maximumSpeed v.maximumAcceleration }) = _
  rw [Motor.update_shift]
  rfl

end Drive

namespace Device

variable {c : Int32} {d e : Device}

/-! ### Two modules -/

/-- Two modules under the profile program, in the same state but for a shift of the positions by
`c`. Whatever is not mentioned may differ. -/
structure Shifted (c : Int32) (d e : Device) : Prop where
  /-- The profile program drives the first. -/
  left : d.Driven
  /-- The profile program drives the second. -/
  right : e.Driven
  /-- Both have ended, wait equally long, or run. -/
  state : e.interpreter.state = d.interpreter.state
  /-- The speeds and the carried travel agree, and the encoder is shifted. -/
  motor : e.registers.motor = { d.registers.motor with encoder := d.registers.motor.encoder + c }
  /-- The target is shifted. -/
  target : e.registers.global Profile.targetPosition =
    d.registers.global Profile.targetPosition + c
  /-- The speed settings agree. -/
  maximumSpeed : e.registers.param .maximumSpeed = d.registers.param .maximumSpeed
  /-- The acceleration settings agree. -/
  maximumAcceleration :
    e.registers.param .maximumAcceleration = d.registers.param .maximumAcceleration

/-- Modules are shifted exactly if their drives are; everything else is free. -/
theorem shifted_iff : Shifted c d e ↔ d.Driven ∧ e.Driven ∧ e.drive = d.drive.shift c := by
  constructor
  · rintro ⟨hleft, hright, hstate, hmotor, htarget, hspeed, hacceleration⟩
    refine ⟨hleft, hright, ?_⟩
    rw [drive, hstate, hmotor, htarget, hspeed, hacceleration]
    rfl
  · rintro ⟨hleft, hright, hdrive⟩
    exact ⟨hleft, hright, congrArg Drive.state hdrive, congrArg Drive.motor hdrive,
      congrArg Drive.target hdrive, congrArg Drive.maximumSpeed hdrive,
      congrArg Drive.maximumAcceleration hdrive⟩

/-- The results of two ticks that differ by the shift only, seen from outside: the same outcome, and
after a pass that went on the same scratch variables. -/
structure ShiftedTick (c : Int32) (t u : Option Outcome × Device) : Prop where
  /-- The outcomes agree. -/
  outcome : u.1 = t.1
  /-- The modules are shifted. -/
  device : Shifted c t.2 u.2
  /-- The distance that a pass stored is the same. -/
  remaining : t.1 = some .looped → u.2.registers.global Profile.remainingDistance =
    t.2.registers.global Profile.remainingDistance
  /-- The braking distance that a pass stored is the same. -/
  trigger : t.1 = some .looped → u.2.registers.global Profile.decelerationTrigger =
    t.2.registers.global Profile.decelerationTrigger

/-- The step lemma: a tick keeps the shift and shows the same outcome. -/
theorem Shifted.tick (h : Shifted c d e) : ShiftedTick c d.tick e.tick := by
  obtain ⟨hleft, hright, hdrive⟩ := shifted_iff.mp h
  have htick : e.drive.tick = (d.drive.tick.1, d.drive.tick.2.shift c) := by
    rw [hdrive, Drive.tick_shift]
  have houtcome : e.tick.1 = d.tick.1 := by
    rw [hright.outcome_tick, hleft.outcome_tick, htick]
  have hdevice : Shifted c d.tick.2 e.tick.2 := by
    refine shifted_iff.mpr ⟨hleft.tick, hright.tick, ?_⟩
    rw [hright.drive_tick, hleft.drive_tick, htick]
  refine ⟨houtcome, hdevice, fun hlooped ↦ ?_, fun hlooped ↦ ?_⟩
  · rw [(hleft.scratch_tick hlooped).1, (hright.scratch_tick (houtcome.trans hlooped)).1, hdrive,
      Drive.remaining_shift]
  · rw [(hleft.scratch_tick hlooped).2, (hright.scratch_tick (houtcome.trans hlooped)).2, hdrive]
    rfl

/-! ### What a host does meanwhile -/

/-- What happens to a module. -/
inductive Input
  /-- Time passes. -/
  | tick
  /-- A request arrives. -/
  | request (r : Request)

/-- The results of the ticks, while the inputs arrive in order. -/
def observe : List Input → Device → List (Option Outcome × Device)
  | [], _ => []
  | .tick :: inputs, d => d.tick :: observe inputs d.tick.2
  | .request r :: inputs, d => observe inputs (d.handle r).2

/-- Inputs of two modules that differ by a shift of the positions. The target and the encoder are
written to both, shifted. Any other variable may be written to one of the two, or to both with
different values. -/
inductive ShiftedInputs (c : Int32) : List Input → List Input → Prop
  /-- Nothing happens. -/
  | nil : ShiftedInputs c [] []
  /-- Time passes for both. -/
  | tick {s t : List Input} (h : ShiftedInputs c s t) : ShiftedInputs c (.tick :: s) (.tick :: t)
  /-- A new target. -/
  | retarget {s t : List Input} (h : ShiftedInputs c s t) (v : Int32) :
      ShiftedInputs c (.request (.setGlobal Profile.targetPosition v) :: s)
        (.request (.setGlobal Profile.targetPosition (v + c)) :: t)
  /-- The encoder is overwritten. -/
  | setEncoder {s t : List Input} (h : ShiftedInputs c s t) (v : Int32) :
      ShiftedInputs c (.request (.setParam .encoderPosition v) :: s)
        (.request (.setParam .encoderPosition (v + c)) :: t)
  /-- Another variable of the first is overwritten. -/
  | left {s t : List Input} (h : ShiftedInputs c s t) {n : UInt8} (hn : n ≠ 0) (v : Int32) :
      ShiftedInputs c (.request (.setGlobal (.user n) v) :: s) t
  /-- Another variable of the second is overwritten. -/
  | right {s t : List Input} (h : ShiftedInputs c s t) {n : UInt8} (hn : n ≠ 0) (v : Int32) :
      ShiftedInputs c s (.request (.setGlobal (.user n) v) :: t)

namespace Driven

/-- Requests other than start, stop and upload leave the program in its loop. -/
theorem handle (h : d.Driven) {r : Request} (hr : r.isProgramControl = false) :
    (d.handle r).2.Driven := by
  obtain ⟨hprogram, hinterpreter⟩ := d.handle_frame hr
  refine ⟨hprogram.trans h.program, fun hrunning ↦ ?_⟩
  rw [hinterpreter]
  exact h.pc (by rwa [isRunning, ← hinterpreter])

end Driven

/-- Retargeting changes the target of the drive. -/
theorem drive_handle_retarget (d : Device) (v : Int32) :
    (d.handle (.setGlobal Profile.targetPosition v)).2.drive = { d.drive with target := v } := by
  have htarget : (d.registers.users.set 0 v).get 0 = v := UserTable.get_set_self _ _ v
  exact congrArg (fun t ↦ ({ d.drive with target := t } : Drive)) htarget

theorem drive_handle_setEncoder (d : Device) (v : Int32) :
    (d.handle (.setParam .encoderPosition v)).2.drive =
      { d.drive with motor := d.drive.motor.setEncoder v } := by
  have haccepts : AxisParam.accepts .encoderPosition v = true := by
    have hlo := v.minValue_le
    have hhi := v.le_maxValue
    exact Bounds.contains_iff.mpr ⟨hlo, hhi⟩
  rw [Device.handle, if_pos haccepts]
  rfl

/-- The drive does not see the variables other than the target. -/
theorem drive_handle_setGlobal (d : Device) {n : UInt8} (hn : n ≠ 0) (v : Int32) :
    (d.handle (.setGlobal (.user n) v)).2.drive = d.drive := by
  rw [handle_setGlobal_user]
  split
  · have htarget : (d.registers.users.set n v).get 0 = d.registers.users.get 0 :=
      UserTable.get_set_of_ne _ hn v
    exact congrArg (fun t ↦ ({ d.drive with target := t } : Drive)) htarget
  · rfl

/-- **Translation invariance.** Two modules that are shifted against each other, with inputs that
are shifted in the same way, give the same outcomes, speeds and carried travel in every tick. The
encoders stay shifted, and a pass that went on leaves the same scratch variables behind. -/
theorem observe_shifted (h : Shifted c d e) {s t : List Input} (hinputs : ShiftedInputs c s t) :
    List.Forall₂ (ShiftedTick c) (observe s d) (observe t e) := by
  induction hinputs generalizing d e with
  | nil => exact .nil
  | tick _ ih => exact .cons h.tick (ih h.tick.device)
  | retarget _ v ih =>
    obtain ⟨hleft, hright, hdrive⟩ := shifted_iff.mp h
    refine ih (shifted_iff.mpr ⟨hleft.handle rfl, hright.handle rfl, ?_⟩)
    rw [drive_handle_retarget, drive_handle_retarget, hdrive]
    rfl
  | setEncoder _ v ih =>
    obtain ⟨hleft, hright, hdrive⟩ := shifted_iff.mp h
    refine ih (shifted_iff.mpr ⟨hleft.handle rfl, hright.handle rfl, ?_⟩)
    rw [drive_handle_setEncoder, drive_handle_setEncoder, hdrive]
    rfl
  | left _ hn v ih =>
    obtain ⟨hleft, hright, hdrive⟩ := shifted_iff.mp h
    refine ih (shifted_iff.mpr ⟨hleft.handle rfl, hright, ?_⟩)
    rw [drive_handle_setGlobal d hn, hdrive]
  | right _ hn v ih =>
    obtain ⟨hleft, hright, hdrive⟩ := shifted_iff.mp h
    refine ih (shifted_iff.mpr ⟨hleft, hright.handle rfl, ?_⟩)
    rw [drive_handle_setGlobal e hn, hdrive]

/-- The module of `reversing`, shifted by the greatest word, with other scratch values. -/
def reversingFar : Device :=
  { reversing with
    registers :=
      { ((Registers.initial 0).storeUser 0 (-200000 + 2147483647)).storeUser 1 99 with
        motor :=
          { targetSpeed := -2000, actualSpeed := -1500, encoder := -2147383649, carry := -5 } }
    interpreter := { pc := 1, accumulator := -1, x := 12, comparison := .lt, state := .running }
    capacity := 100 }

/-- The shifted encoder has wrapped. After the first tick one host overwrites the stored distance,
and both choose another target. -/
theorem observe_shifted_reversing :
    Shifted 2147483647 reversing reversingFar ∧
    ShiftedInputs 2147483647
      [.tick, .request (.setGlobal (.user 1) 8),
        .request (.setGlobal Profile.targetPosition 300000), .tick]
      [.tick, .request (.setGlobal Profile.targetPosition (300000 + 2147483647)), .tick] ∧
    List.Forall₂ (ShiftedTick 2147483647)
      (observe [.tick, .request (.setGlobal (.user 1) 8),
        .request (.setGlobal Profile.targetPosition 300000), .tick] reversing)
      (observe [.tick, .request (.setGlobal Profile.targetPosition (300000 + 2147483647)), .tick]
        reversingFar) := by
  have hshifted : Shifted 2147483647 reversing reversingFar :=
    ⟨⟨rfl, fun _ ↦ rfl⟩, ⟨rfl, fun _ ↦ rfl⟩, rfl, by decide, by decide, by decide, by decide⟩
  have hinputs : ShiftedInputs 2147483647
      [.tick, .request (.setGlobal (.user 1) 8),
        .request (.setGlobal Profile.targetPosition 300000), .tick]
      [.tick, .request (.setGlobal Profile.targetPosition (300000 + 2147483647)), .tick] :=
    .tick (.left (.retarget (.tick .nil) 300000) (by decide) 8)
  exact ⟨hshifted, hinputs, observe_shifted hshifted hinputs⟩

end Device

end FocusDrive
