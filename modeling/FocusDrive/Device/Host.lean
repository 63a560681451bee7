import FocusDrive.Device.Basic
import FocusDrive.Request

/-!
# How the simulated module answers its host

`Device.handle` answers one request. A request is either carried out or refused for a cause, and a
refused request leaves the module as it was; that is visible in the code, where every branch that
refuses returns the state it was given.

`Device.bus` presents the same function to the host side, where a refusal has become text.
-/

namespace FocusDrive

/-- Why the module refuses a request. -/
inductive Refusal
  /-- The value is outside the parameter's range. -/
  | valueOutOfRange (p : AxisParam) (v : Int32)
  /-- A read of a variable that the module does not have. -/
  | unreadable (g : GlobalVar)
  /-- A write to a variable that the module does not have. -/
  | unwritable (g : GlobalVar)
  /-- A write to a variable that only the module writes. -/
  | readOnly (g : GlobalVar)
  /-- The speed is beyond what the axis can do. -/
  | speedOutOfRange (v : Int32)
  /-- A start without a program. -/
  | noProgram
  /-- A download while a program runs. -/
  | programRunning
  /-- A download of more instructions than program memory holds. -/
  | programTooLong (size capacity : Nat)
deriving DecidableEq, Repr

namespace Refusal

/-- The command that is refused. -/
def command : Refusal → String
  | valueOutOfRange .. => "SAP"
  | unreadable _ => "GGP"
  | unwritable _ | readOnly _ => "SGP"
  | speedOutOfRange _ => "ROR"
  | noProgram => "RUN"
  | programRunning | programTooLong .. => "download"

/-- The reason given. -/
def reason : Refusal → String
  | valueOutOfRange p v => s!"{p.name} = {v.toInt} outside {p.range.text}"
  | unreadable g | unwritable g => s!"no such variable {g.name}"
  | readOnly g => s!"{g.name} is read-only"
  | speedOutOfRange v => s!"speed {v.toInt} out of range"
  | noProgram => "no program loaded"
  | programRunning => "program running"
  | programTooLong size capacity => s!"{size} instructions exceed program memory of {capacity}"

/-- The refusal as the host sees it. -/
def toModuleError (r : Refusal) : ModuleError := .rejected r.command r.reason

end Refusal

namespace Device

/-- Change the registers only. -/
def withRegisters (d : Device) (registers : Registers) : Device := { d with registers }

/-- Start the program at address `0` and run it up to where it first gives control back. -/
def start (d : Device) (program : Program) : Device :=
  let registers := { d.registers with status := GlobalVar.statusRunning }
  let (_, interpreter, registers) := Interpreter.started.run program registers
  { d with interpreter, registers }.syncStatus

/-- End the program. -/
def haltProgram (d : Device) : Device := { d with interpreter := d.interpreter.halt }.syncStatus

/-- The first write whose value is outside its range. -/
def firstOutOfRange? (writes : List (AxisParam × Int32)) : Option (AxisParam × Int32) :=
  writes.find? fun (p, v) ↦ !p.accepts v

/-- Answer a request. -/
def handle (d : Device) : (r : Request) → Except Refusal r.Answer × Device
  | .getParam p => (.ok (d.registers.param p), d)
  | .setParam p v =>
    if p.accepts v then (.ok (), d.withRegisters (d.registers.storeParam p v))
    else (.error (.valueOutOfRange p v), d)
  | .setParams writes =>
    match firstOutOfRange? writes with
    | some (p, v) => (.error (.valueOutOfRange p v), d)
    | none => (.ok (), d.withRegisters (d.registers.storeParams writes))
  | .getGlobal g =>
    if g.isValid then (.ok (d.registers.global g), d) else (.error (.unreadable g), d)
  | .setGlobal g v =>
    if !g.isWritable then (.error (.readOnly g), d)
    else
      match g with
      | .status => (.error (.unwritable g), d)
      | .user n =>
        if g.isValid then (.ok (), d.withRegisters (d.registers.storeUser n v))
        else (.error (.unwritable g), d)
  | .rotate v =>
    if (Bounds.symmetric maxSpeed).contains v then
      (.ok (), d.withRegisters { d.registers with motor := d.registers.motor.setTargetSpeed v })
    else (.error (.speedOutOfRange v), d)
  | .stop => (.ok (), d.withRegisters { d.registers with motor := d.registers.motor.stop })
  | .startProgram =>
    match d.program with
    | none => (.error .noProgram, d)
    | some program => (.ok (), d.start program)
  | .stopProgram => (.ok (), d.haltProgram)
  | .upload program =>
    if d.isRunning then (.error .programRunning, d)
    else if d.capacity < program.size then
      (.error (.programTooLong program.size d.capacity), d)
    else (.ok (), { d with program := some program })

/-- The module as the host reaches it. -/
def bus : Bus Device := fun r d ↦
  let (answer, d) := d.handle r
  (answer.mapError Refusal.toModuleError, d)

/-- If no write of a list is out of range, all of them are accepted. -/
theorem accepts_of_firstOutOfRange? {writes : List (AxisParam × Int32)}
    (h : firstOutOfRange? writes = none) : ∀ w ∈ writes, w.1.accepts w.2 = true := by
  intro w hw
  simpa using List.find?_eq_none.mp h w hw

/-- The host writes a user variable if the module has it. -/
theorem handle_setGlobal_user (d : Device) (n : UInt8) (v : Int32) :
    d.handle (.setGlobal (.user n) v) =
      if (GlobalVar.user n).isValid then (.ok (), d.withRegisters (d.registers.storeUser n v))
      else (.error (.unwritable (.user n)), d) := rfl

/-- A refused request changes nothing. -/
theorem handle_of_error {d : Device} {r : Request} {e : Refusal} (h : (d.handle r).1 = .error e) :
    (d.handle r).2 = d := by
  cases r with
  | getParam | stop | stopProgram => simp [handle] at h
  | setGlobal g v =>
    cases g with
    | status => rfl
    | user n =>
      rw [handle_setGlobal_user] at h ⊢
      split at h <;> simp_all
  | upload program =>
    simp only [handle] at h ⊢
    split at h
    · simp_all
    · split at h <;> simp_all
  | _ =>
    simp only [handle] at h ⊢
    split at h <;> simp_all

end Device

end FocusDrive
