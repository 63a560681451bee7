import FocusDrive.AxisParam

/-!
# The motor and its encoder

The motor's speed ramps toward the commanded speed, by at most one `Motor.step` per tick, and the
encoder counts the travel: `speedPerCount` units of speed are one count per tick. What is left of a
tick's travel below one count is carried to the next tick, so slow motion still counts, one count at
a time.

The quantities of an update are definitions of their own, in the order in which they arise: the
step, the limit, the wanted speed, the next speed, the travel, the counts. `Motor.update` only puts
them together. All of them are 32-bit words; only the encoder is meant to wrap.
-/

namespace FocusDrive

/-- The motor's state. -/
structure Motor where
  /-- Commanded speed. -/
  targetSpeed : Int32 := 0
  /-- Current speed. -/
  actualSpeed : Int32 := 0
  /-- Encoder count. -/
  encoder : Int32 := 0
  /-- Travel below one count, carried to the next tick. -/
  carry : Int32 := 0
deriving DecidableEq, Repr

namespace Motor

/-- Units of speed that move the encoder by one count per tick. -/
def speedPerCount : Int32 := 64

/-- Units of the acceleration setting that allow one unit of speed change per tick. -/
def accelerationScale : Int32 := 100

/-- At rest at an encoder count. -/
def atRest (position : Int32) : Motor := { encoder := position }

/-! ### Commands -/

/-- Command a speed, limited to what the axis can do. -/
def setTargetSpeed (m : Motor) (v : Int32) : Motor :=
  { m with targetSpeed := (Bounds.symmetric maxSpeed).clamp v }

/-- Overwrite the current speed, limited to what the axis can do. -/
def setActualSpeed (m : Motor) (v : Int32) : Motor :=
  { m with actualSpeed := (Bounds.symmetric maxSpeed).clamp v }

/-- Overwrite the encoder count; carried travel is discarded. -/
def setEncoder (m : Motor) (position : Int32) : Motor :=
  { m with encoder := position, carry := 0 }

/-- Stop at once. -/
def stop (m : Motor) : Motor := { m with targetSpeed := 0, actualSpeed := 0 }

/-! ### One tick -/

/-- The largest speed change in one tick under an acceleration setting, at least `1`. -/
def step (maximumAcceleration : Int32) : Int32 :=
  let s := maximumAcceleration / accelerationScale
  if s < 1 then 1 else s

/-- The speed limit that a setting stands for. -/
def limit (maximumSpeed : Int32) : Int32 := Bounds.clamp ⟨0, maxSpeed⟩ maximumSpeed

/-- The speed that the motor ramps toward. -/
def wanted (m : Motor) (maximumSpeed : Int32) : Int32 :=
  (Bounds.symmetric (limit maximumSpeed)).clamp m.targetSpeed

/-- The speed after this tick. -/
def nextSpeed (m : Motor) (maximumSpeed maximumAcceleration : Int32) : Int32 :=
  m.actualSpeed +
    (Bounds.symmetric (step maximumAcceleration)).clamp (m.wanted maximumSpeed - m.actualSpeed)

/-- The travel that this tick has to count, with what was carried. -/
def travel (m : Motor) (maximumSpeed maximumAcceleration : Int32) : Int32 :=
  m.carry + m.nextSpeed maximumSpeed maximumAcceleration

/-- The counts in this tick's travel, toward zero. -/
def counts (m : Motor) (maximumSpeed maximumAcceleration : Int32) : Int32 :=
  m.travel maximumSpeed maximumAcceleration / speedPerCount

/-- Advance by one tick under the given settings. -/
def update (m : Motor) (maximumSpeed maximumAcceleration : Int32) : Motor where
  targetSpeed := m.targetSpeed
  actualSpeed := m.nextSpeed maximumSpeed maximumAcceleration
  encoder := m.encoder + m.counts maximumSpeed maximumAcceleration
  carry := m.travel maximumSpeed maximumAcceleration -
    m.counts maximumSpeed maximumAcceleration * speedPerCount

end Motor

end FocusDrive
