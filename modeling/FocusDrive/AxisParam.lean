import FocusDrive.Bounds

/-!
# Axis parameters

The indexed registers of a one-axis motion module: positions, speeds, currents, the encoder and the
driver's tuning values. Every parameter has the number under which stored programs name it, the
snake-case name that configuration files and messages use, and the interval of values that the
module accepts.

Three of them are not stored settings but the motor itself: `targetSpeed`, `actualSpeed` and
`encoderPosition`. This module only names them; the device routes them.
-/

namespace FocusDrive

/-- Largest speed magnitude an axis accepts. -/
def maxSpeed : Int32 := 2047

/-- The registers of one axis, in the order of their numbers. -/
inductive AxisParam
  /-- Target of the internal ramp generator. -/
  | targetPosition
  /-- Position of the internal ramp generator. -/
  | actualPosition
  /-- Commanded speed. -/
  | targetSpeed
  /-- Current speed. -/
  | actualSpeed
  /-- Speed limit. -/
  | maximumSpeed
  /-- Acceleration limit. -/
  | maximumAcceleration
  /-- Peak motor current. -/
  | maximumCurrent
  /-- Current while the motor rests. -/
  | standbyCurrent
  /-- Microsteps per step, as a power of two. -/
  | microstepResolution
  /-- Ramp divisor. -/
  | rampDivisor
  /-- Pulse divisor. -/
  | pulseDivisor
  /-- Speed up to which mixed decay is on; `-1` keeps it on always. -/
  | mixedDecayThreshold
  /-- Stall detection threshold; `0` turns detection off. -/
  | stallDetectionThreshold
  /-- Encoder count. -/
  | encoderPosition
  /-- Encoder prescaler. -/
  | encoderPrescaler
  /-- Speed above which the driver takes full steps. -/
  | fullstepThreshold
deriving DecidableEq, Repr

namespace AxisParam

/-- Every parameter, in the order of the numbers. -/
def all : List AxisParam :=
  [targetPosition, actualPosition, targetSpeed, actualSpeed, maximumSpeed, maximumAcceleration,
    maximumCurrent, standbyCurrent, microstepResolution, rampDivisor, pulseDivisor,
    mixedDecayThreshold, stallDetectionThreshold, encoderPosition, encoderPrescaler,
    fullstepThreshold]

/-- The number under which stored programs name the parameter. -/
def number : AxisParam → Nat
  | targetPosition => 0
  | actualPosition => 1
  | targetSpeed => 2
  | actualSpeed => 3
  | maximumSpeed => 4
  | maximumAcceleration => 5
  | maximumCurrent => 6
  | standbyCurrent => 7
  | microstepResolution => 140
  | rampDivisor => 153
  | pulseDivisor => 154
  | mixedDecayThreshold => 203
  | stallDetectionThreshold => 205
  | encoderPosition => 209
  | encoderPrescaler => 210
  | fullstepThreshold => 211

/-- The name used in configuration files and messages. -/
def name : AxisParam → String
  | targetPosition => "target_position"
  | actualPosition => "actual_position"
  | targetSpeed => "target_speed"
  | actualSpeed => "actual_speed"
  | maximumSpeed => "maximum_speed"
  | maximumAcceleration => "maximum_acceleration"
  | maximumCurrent => "maximum_current"
  | standbyCurrent => "standby_current"
  | microstepResolution => "microstep_resolution"
  | rampDivisor => "ramp_divisor"
  | pulseDivisor => "pulse_divisor"
  | mixedDecayThreshold => "mixed_decay_threshold"
  | stallDetectionThreshold => "stall_detection_threshold"
  | encoderPosition => "encoder_position"
  | encoderPrescaler => "encoder_prescaler"
  | fullstepThreshold => "fullstep_threshold"

instance : ToString AxisParam := ⟨name⟩

/-- The parameter called `s`. -/
def ofName? (s : String) : Option AxisParam := all.find? (·.name == s)

/-- The values that the module accepts. -/
def range : AxisParam → Bounds
  | targetPosition | actualPosition | encoderPosition => ⟨Int32.minValue, Int32.maxValue⟩
  | targetSpeed | actualSpeed => .symmetric maxSpeed
  | maximumSpeed | maximumAcceleration => ⟨0, maxSpeed⟩
  | maximumCurrent | standbyCurrent => ⟨0, 255⟩
  | microstepResolution => ⟨0, 6⟩
  | rampDivisor | pulseDivisor => ⟨0, 13⟩
  | mixedDecayThreshold => ⟨-1, 2048⟩
  | stallDetectionThreshold => ⟨-64, 63⟩
  | encoderPrescaler => ⟨0, 65535⟩
  | fullstepThreshold => ⟨0, 2048⟩

/-- Whether the module accepts `v` as the parameter's value. -/
def accepts (p : AxisParam) (v : Int32) : Bool := p.range.contains v

/-! ### Names and ranges -/

/-- No parameter is missing from the list. -/
theorem mem_all (p : AxisParam) : p ∈ all := by
  cases p <;> decide

/-- Parameters have different names, so a name tells which parameter is meant. -/
theorem ofName?_name (p : AxisParam) : ofName? p.name = some p := by
  cases p <;> decide

/-- Every parameter accepts some value. -/
theorem lo_le_hi_range (p : AxisParam) : p.range.lo ≤ p.range.hi := by
  cases p <;> decide

/-- A value that was clamped into the parameter's range is accepted. -/
theorem accepts_clamp (p : AxisParam) (v : Int32) : p.accepts (p.range.clamp v) = true :=
  Bounds.contains_clamp p.lo_le_hi_range v

end AxisParam

end FocusDrive
