import FocusDrive.Config.Validation
import FocusDrive.Toml.Reader

/-!
# Configuration from a file

A configuration file is a TOML document with the tables `shared`, `device` and `simulation`. What is
not given keeps its default, with one exception: shared settings that are given must name the
instance.

Unknown keys are refused, except among the shared settings, which other programs read too. What is
found under them does not matter, but the reader of the document must be able to pass over it.

An array may stand for a table; its items are then the values of the keys in the order of their
declaration. Nobody looks at surplus items, whatever they contain.

An integer is accepted if the field's machine word can hold it. Whether the module accepts it is a
question for `DriverConfig.fault?`, which is asked only when the whole document could be decoded. Of
the two kinds of failure the one of decoding therefore wins, wherever in the document the other one
stands.
-/

namespace FocusDrive

open Toml (Value)

variable [Toml.Reader]

/-! ### Fields -/

/-- The word that an integer stands for. -/
def decodeWord? : Value → Option Int32
  | .integer n =>
    if Int32.minValue.toInt ≤ n ∧ n ≤ Int32.maxValue.toInt then some (Int32.ofInt n) else none
  | _ => none

/-- The unsigned number that an integer stands for, if 64 bits hold it. -/
def decodeNatural? : Value → Option Nat
  | .integer n => if 0 ≤ n ∧ n < UInt64.size then some n.toNat else none
  | _ => none

/-- A string. -/
def decodeString? : Value → Option String
  | .string s => some s
  | _ => none

/-- A table or array without contents. -/
def isEmptyCollection : Value → Bool
  | .table [] | .array [] => true
  | _ => false

/-- A log level: its name, or a table with the name as its only key and nothing under it. -/
def LogLevel.decode? : Value → Option LogLevel
  | .string s => LogLevel.ofName? s
  | .table [(name, contents)] => if isEmptyCollection contents then LogLevel.ofName? name else none
  | _ => none

/-- The fields of a section: the entries of a table, or the items of an array under the names of the
fields. Surplus items are left out. -/
def sectionFields? (names : List String) : Value → Option (List (String × Value))
  | .table entries => some entries
  | .array items => some (names.zip items)
  | _ => none

/-- A field, or its default where it is missing. -/
def fieldOr (fields : List (String × Value)) (name : String) (decode? : Value → Option α)
    (default : α) : Option α :=
  match fields.lookup name with
  | none => some default
  | some v => decode? v

/-- Whether every field has one of the names. -/
def onlyFields (names : List String) (fields : List (String × Value)) : Bool :=
  fields.all fun (name, _) ↦ names.contains name

/-- Whether the fields that have none of the names can be passed over. -/
def othersSkipped (names : List String) (fields : List (String × Value)) : Bool :=
  fields.all fun (name, v) ↦ names.contains name || Toml.Reader.skips v

/-! ### Sections -/

/-- The fields of the shared settings. -/
def SharedConfig.fieldNames : List String := ["log_level", "service_name"]

/-- The shared settings that a value stands for. -/
def SharedConfig.decode? (v : Value) : Option SharedConfig := do
  let fields ← sectionFields? fieldNames v
  guard (othersSkipped fieldNames fields)
  let logLevel ← fieldOr fields "log_level" LogLevel.decode? .info
  let serviceName ← fields.lookup "service_name" >>= decodeString?
  return { logLevel, serviceName }

namespace DeviceConfig

/-- The fields of the motor parameters. -/
def fieldNames : List String := ({} : DeviceConfig).params.map (·.1.name)

/-- One parameter of a configuration. -/
def decodeField? (field : String × Value) : Option (AxisParam × Int32) := do
  guard (fieldNames.contains field.1)
  return (← AxisParam.ofName? field.1, ← decodeWord? field.2)

/-- The motor parameters that a value stands for. -/
def decode? (v : Value) : Option DeviceConfig := do
  let fields ← sectionFields? fieldNames v
  return ({} : DeviceConfig).override (← fields.mapM decodeField?)

end DeviceConfig

/-- The fields of the simulation settings. -/
def SimulationConfig.fieldNames : List String := ["tick_us", "program_capacity", "initial_position"]

/-- The simulation settings that a value stands for. -/
def SimulationConfig.decode? (v : Value) : Option SimulationConfig := do
  let fields ← sectionFields? fieldNames v
  guard (onlyFields fieldNames fields)
  let tickMicros ← fieldOr fields "tick_us" decodeNatural? 10000
  let programCapacity ← fieldOr fields "program_capacity" decodeNatural? programMemory
  let initialPosition ← fieldOr fields "initial_position" decodeWord? 0
  return { tickMicros, programCapacity, initialPosition }

/-! ### The whole configuration -/

namespace DriverConfig

/-- The sections of a configuration. -/
def fieldNames : List String := ["shared", "device", "simulation"]

/-- The configuration that a value stands for. -/
def decode? (v : Value) : Option DriverConfig := do
  let fields ← sectionFields? fieldNames v
  guard (onlyFields fieldNames fields)
  let shared ← fieldOr fields "shared" SharedConfig.decode? {}
  let device ← fieldOr fields "device" DeviceConfig.decode? {}
  let simulation ← fieldOr fields "simulation" SimulationConfig.decode? {}
  return { shared, device, simulation }

end DriverConfig

/-! ### Loading -/

/-- What the contents of a file stand for. No contents means that there is no such file. -/
def loadWith (decode? : Value → Option α) : Option ByteArray → Except ConfigError α
  | none => .error .fileNotFound
  | some contents =>
    match Toml.Reader.readBytes? contents >>= decode? with
    | none => .error .unreadable
    | some a => .ok a

namespace DriverConfig

/-- The configuration in a file, as it is. -/
def load (file : Option ByteArray) : Except ConfigError DriverConfig := loadWith decode? file

/-- The configuration in a file, if it is without fault. -/
def loadValidated (file : Option ByteArray) : Except ConfigError DriverConfig := do
  (← load file).validate.mapError .invalid

/-- The faultless configuration in a file, or the defaults if there is no file; the flag says
whether there is one. -/
def loadOrDefault (file : Option ByteArray) : Except ConfigError (DriverConfig × Bool) :=
  match loadValidated file with
  | .ok c => .ok (c, true)
  | .error .fileNotFound => .ok ({}, false)
  | .error e => .error e

end DriverConfig

end FocusDrive
