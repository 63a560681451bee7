import FocusDrive.Config.Basic

/-!
# Validation of a configuration

A configuration that can be written down is not yet one that the module accepts. `validate` names
the first fault, in the order shared settings, motor parameters, simulation. For the motor
parameters it is the first one outside its range, in the order in which they would be written.
-/

namespace FocusDrive

/-- What is wrong with a configuration. -/
inductive ConfigFault
  /-- The instance has no name. -/
  | emptyServiceName
  /-- A motor parameter is outside its range. -/
  | valueOutOfRange (p : AxisParam) (v : Int32)
  /-- A tick has no length. -/
  | zeroTick
  /-- Program memory holds nothing. -/
  | zeroCapacity
deriving DecidableEq, Repr

/-- The wording of the fault. -/
def ConfigFault.message : ConfigFault → String
  | emptyServiceName => "service_name cannot be empty"
  | valueOutOfRange p v => s!"{p.name} = {v.toInt} is outside {p.range.text}"
  | zeroTick => "tick_us must be greater than 0"
  | zeroCapacity => "program_capacity must be greater than 0"

/-- Why no configuration can be had from a file. -/
inductive ConfigError
  /-- There is no such file. -/
  | fileNotFound
  /-- The file is no text, no document, or does not have the expected shape. -/
  | unreadable
  /-- The configuration in the file is faulty. -/
  | invalid (fault : ConfigFault)
deriving DecidableEq, Repr

/-- The wording of the error. -/
def ConfigError.message : ConfigError → String
  | fileNotFound => "Configuration file not found"
  | unreadable => "Failed to parse configuration"
  | invalid fault => s!"Configuration validation failed: {fault.message}"

/-- The fault of the shared settings, if they have one. -/
def SharedConfig.fault? (c : SharedConfig) : Option ConfigFault :=
  if c.serviceName.isEmpty then some .emptyServiceName else none

/-- The first fault of the motor parameters. -/
def DeviceConfig.fault? (c : DeviceConfig) : Option ConfigFault :=
  (c.params.find? fun (p, v) ↦ !p.accepts v).map fun (p, v) ↦ .valueOutOfRange p v

/-- The first fault of the simulation settings. -/
def SimulationConfig.fault? (c : SimulationConfig) : Option ConfigFault :=
  if c.tickMicros = 0 then some .zeroTick
  else if c.programCapacity = 0 then some .zeroCapacity
  else none

namespace DriverConfig

/-- The first fault of the configuration. -/
def fault? (c : DriverConfig) : Option ConfigFault :=
  c.shared.fault? <|> c.device.fault? <|> c.simulation.fault?

/-- The configuration itself, if it has no fault. -/
def validate (c : DriverConfig) : Except ConfigFault DriverConfig :=
  match c.fault? with
  | some fault => .error fault
  | none => .ok c

/-- The defaults pass the check that they are subject to. -/
theorem fault?_default : ({} : DriverConfig).fault? = none := by decide

end DriverConfig

end FocusDrive
