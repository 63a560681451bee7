import FocusDrive.AxisParam

/-!
# Configuration

Three sections make up the configuration of the driver: what it shares with other programs, the
motor parameters that are written to the module once at the start, and the settings of the simulated
module. Every value has a default, and the defaults are those of the structures below.

`DeviceConfig.params` is the order in which the parameters are written, and with it the order in
which they are checked.
-/

namespace FocusDrive

/-- Instructions that program memory holds, unless configured otherwise. -/
def programMemory : Nat := 2048

/-- The name under which the driver reports. -/
def serviceName : String := "mfc"

/-- Where the configuration file is looked for, unless another one is named. -/
def defaultConfigPath : String := "/etc/mfc/mfc.toml"

/-- How much is logged. -/
inductive LogLevel
  | trace | debug | info | warn | error
deriving DecidableEq, Repr

namespace LogLevel

/-- The level's name, in configuration files and as a log filter. -/
def name : LogLevel → String
  | trace => "trace"
  | debug => "debug"
  | info => "info"
  | warn => "warn"
  | error => "error"

/-- Every level. -/
def all : List LogLevel := [trace, debug, info, warn, error]

/-- The level called `s`. -/
def ofName? (s : String) : Option LogLevel := all.find? (·.name == s)

/-- Levels have different names, so a name tells which level is meant. -/
theorem ofName?_name (l : LogLevel) : ofName? l.name = some l := by
  cases l <;> decide

end LogLevel

/-- Settings shared with other programs. -/
structure SharedConfig where
  /-- How much is logged. -/
  logLevel : LogLevel := .info
  /-- The name of this instance. -/
  serviceName : String := FocusDrive.serviceName
deriving DecidableEq, Repr

/-- Motor parameters, as the drive was tuned. -/
structure DeviceConfig where
  /-- Peak motor current. -/
  maximumCurrent : Int32 := 50
  /-- Acceleration limit. -/
  maximumAcceleration : Int32 := 1000
  /-- Speed limit. -/
  maximumSpeed : Int32 := 2000
  /-- Ramp divisor. -/
  rampDivisor : Int32 := 7
  /-- Pulse divisor. -/
  pulseDivisor : Int32 := 3
  /-- Current at rest. -/
  standbyCurrent : Int32 := 0
  /-- Mixed decay is on at all speeds, which makes the microsteps more even. -/
  mixedDecayThreshold : Int32 := -1
  /-- One count per encoder step. -/
  encoderPrescaler : Int32 := 8192
  /-- 32 microsteps. -/
  microstepResolution : Int32 := 5
  /-- Speed above which full steps are taken. -/
  fullstepThreshold : Int32 := 0
  /-- No stall detection. -/
  stallDetectionThreshold : Int32 := 0
deriving DecidableEq, Repr

/-- The parameter writes that the configuration stands for, in order. -/
def DeviceConfig.params (c : DeviceConfig) : List (AxisParam × Int32) :=
  [(.maximumCurrent, c.maximumCurrent),
    (.maximumAcceleration, c.maximumAcceleration),
    (.maximumSpeed, c.maximumSpeed),
    (.rampDivisor, c.rampDivisor),
    (.pulseDivisor, c.pulseDivisor),
    (.standbyCurrent, c.standbyCurrent),
    (.mixedDecayThreshold, c.mixedDecayThreshold),
    (.encoderPrescaler, c.encoderPrescaler),
    (.microstepResolution, c.microstepResolution),
    (.fullstepThreshold, c.fullstepThreshold),
    (.stallDetectionThreshold, c.stallDetectionThreshold)]

namespace DeviceConfig

/-- The value that the configuration has for a parameter, and `0` for a parameter that is not part
of a configuration. -/
def get (c : DeviceConfig) (p : AxisParam) : Int32 := (c.params.lookup p).getD 0

/-- The configuration with the values that `f` gives to the parameters. -/
def ofFunction (f : AxisParam → Int32) : DeviceConfig where
  maximumCurrent := f .maximumCurrent
  maximumAcceleration := f .maximumAcceleration
  maximumSpeed := f .maximumSpeed
  rampDivisor := f .rampDivisor
  pulseDivisor := f .pulseDivisor
  standbyCurrent := f .standbyCurrent
  mixedDecayThreshold := f .mixedDecayThreshold
  encoderPrescaler := f .encoderPrescaler
  microstepResolution := f .microstepResolution
  fullstepThreshold := f .fullstepThreshold
  stallDetectionThreshold := f .stallDetectionThreshold

/-- The configuration with the given values in place of its own. -/
def override (c : DeviceConfig) (values : List (AxisParam × Int32)) : DeviceConfig :=
  ofFunction fun p ↦ (values.lookup p).getD (c.get p)

end DeviceConfig

/-- Settings of the simulated module. -/
structure SimulationConfig where
  /-- Length of a tick in microseconds. -/
  tickMicros : Nat := 10000
  /-- Instructions that program memory holds. -/
  programCapacity : Nat := programMemory
  /-- Encoder count at power-up. -/
  initialPosition : Int32 := 0
deriving DecidableEq, Repr

/-- The whole configuration. -/
structure DriverConfig where
  /-- Settings shared with other programs. -/
  shared : SharedConfig := {}
  /-- Motor parameters. -/
  device : DeviceConfig := {}
  /-- Settings of the simulated module. -/
  simulation : SimulationConfig := {}
deriving DecidableEq, Repr

end FocusDrive
