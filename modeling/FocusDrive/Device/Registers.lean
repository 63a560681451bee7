import FocusDrive.Config.Basic
import FocusDrive.Interpreter
import FocusDrive.Motor

/-!
# The registers of the simulated module

Axis parameters and global variables as a stored program and the host see them. The two speeds and
the encoder are the motor's; the other parameters are cells of a table. A global variable is the
program status or one of the user variables `gp0` to `gp55`.

There are two ways to write. `Registers.storeParam` and `Registers.storeUser` store what they are
given; the host uses them after its own check. The `RegisterFile` instance is what a stored program
uses: it clamps a parameter into its range, and it ignores a write to a variable that is read-only
or does not exist.
-/

namespace FocusDrive

/-- The parameter's place in a table. -/
def AxisParam.slot : AxisParam → Fin 16
  | targetPosition => 0
  | actualPosition => 1
  | targetSpeed => 2
  | actualSpeed => 3
  | maximumSpeed => 4
  | maximumAcceleration => 5
  | maximumCurrent => 6
  | standbyCurrent => 7
  | microstepResolution => 8
  | rampDivisor => 9
  | pulseDivisor => 10
  | mixedDecayThreshold => 11
  | stallDetectionThreshold => 12
  | encoderPosition => 13
  | encoderPrescaler => 14
  | fullstepThreshold => 15

/-- Different parameters are kept in different slots. -/
theorem AxisParam.slot_injective {p q : AxisParam} (h : p.slot = q.slot) : p = q := by
  cases p <;> cases q <;> first | rfl | exact absurd h (by decide)

/-! ### Tables -/

/-- A word for every axis parameter. -/
structure ParamTable where
  /-- The words, by slot. -/
  cells : Vector Int32 16
deriving DecidableEq

namespace ParamTable

/-- All words `0`. -/
def zeros : ParamTable := ⟨.replicate 16 0⟩

/-- The word of a parameter. -/
def get (t : ParamTable) (p : AxisParam) : Int32 := t.cells[p.slot]

/-- Replace the word of a parameter. -/
def set (t : ParamTable) (p : AxisParam) (v : Int32) : ParamTable := ⟨t.cells.set p.slot v⟩

@[simp] theorem get_zeros (p : AxisParam) : zeros.get p = 0 := by
  simp [zeros, get]

/-- What was stored as a parameter is read. -/
@[simp] theorem get_set_self (t : ParamTable) (p : AxisParam) (v : Int32) :
    (t.set p v).get p = v := by
  simp [get, set]

/-- The other parameters keep their words. -/
theorem get_set_of_ne (t : ParamTable) {p q : AxisParam} (h : p ≠ q) (v : Int32) :
    (t.set p v).get q = t.get q := by
  have hslot : p.slot.val ≠ q.slot.val := fun e ↦ h (AxisParam.slot_injective (Fin.ext e))
  simp [get, set, Vector.getElem_set_ne, hslot]

end ParamTable

/-- A word for every byte that can be the number of a user variable. The table does not know which
of these variables the module has. -/
structure UserTable where
  /-- The words, by number. -/
  cells : Vector Int32 256
deriving DecidableEq

namespace UserTable

/-- All words `0`. -/
def zeros : UserTable := ⟨.replicate 256 0⟩

/-- The word of variable `n`. -/
def get (t : UserTable) (n : UInt8) : Int32 := t.cells[n.toFin]

/-- Replace the word of variable `n`. -/
def set (t : UserTable) (n : UInt8) (v : Int32) : UserTable := ⟨t.cells.set n.toFin v⟩

@[simp] theorem get_zeros (n : UInt8) : zeros.get n = 0 := by
  simp [zeros, get]

@[simp] theorem get_set_self (t : UserTable) (n : UInt8) (v : Int32) : (t.set n v).get n = v := by
  simp [get, set]

theorem get_set_of_ne (t : UserTable) {n k : UInt8} (h : n ≠ k) (v : Int32) :
    (t.set n v).get k = t.get k := by
  have hn : n.toNat ≠ k.toNat := fun e ↦ h (UInt8.toNat_inj.mp e)
  simp [get, set, Vector.getElem_set_ne, hn]

end UserTable

/-! ### The registers -/

/-- Everything that can be read and written by name. -/
structure Registers where
  /-- The parameters that are settings. -/
  settings : ParamTable
  /-- The user variables. -/
  users : UserTable
  /-- The parameters that are the motor's. -/
  motor : Motor
  /-- The program status. -/
  status : Int32
deriving DecidableEq

namespace Registers

/-- At power-up: the default configuration, and the motor at rest. -/
def initial (position : Int32) : Registers where
  settings := ({} : DeviceConfig).params.foldl (fun t (p, v) ↦ t.set p v) .zeros
  users := .zeros
  motor := .atRest position
  status := GlobalVar.statusStopped

/-- The value of a parameter. -/
def param (r : Registers) : AxisParam → Int32
  | .targetSpeed => r.motor.targetSpeed
  | .actualSpeed => r.motor.actualSpeed
  | .encoderPosition => r.motor.encoder
  | p => r.settings.get p

/-- Store a value as a parameter. -/
def storeParam (r : Registers) (p : AxisParam) (v : Int32) : Registers :=
  match p with
  | .targetSpeed => { r with motor := r.motor.setTargetSpeed v }
  | .actualSpeed => { r with motor := r.motor.setActualSpeed v }
  | .encoderPosition => { r with motor := r.motor.setEncoder v }
  | p => { r with settings := r.settings.set p v }

/-- Store several parameters, in order. -/
def storeParams (r : Registers) (writes : List (AxisParam × Int32)) : Registers :=
  writes.foldl (fun r (p, v) ↦ r.storeParam p v) r

/-- The value of a global variable; one that was never written reads `0`. -/
def global (r : Registers) : GlobalVar → Int32
  | .status => r.status
  | .user n => r.users.get n

/-- Store a value as user variable `n`. -/
def storeUser (r : Registers) (n : UInt8) (v : Int32) : Registers :=
  { r with users := r.users.set n v }

/-- Advance the motor by one tick, under the stored limits. -/
def updateMotor (r : Registers) : Registers :=
  { r with motor := r.motor.update (r.param .maximumSpeed) (r.param .maximumAcceleration) }

/-- What a stored program may do to the registers. -/
instance : RegisterFile Registers where
  readParam p r := (r.param p, r)
  writeParam p v r := r.storeParam p (p.range.clamp v)
  readGlobal g r := (r.global g, r)
  writeGlobal g v r :=
    match g with
    | .status => r
    | .user n => if g.isValid then r.storeUser n v else r

end Registers

end FocusDrive
