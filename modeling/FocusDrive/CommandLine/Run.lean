import FocusDrive.CommandLine.Arguments
import FocusDrive.CommandLine.Report
import FocusDrive.Config.Decode
import FocusDrive.Controller
import FocusDrive.Device.Host
import FocusDrive.Toml.Document

/-!
# Running a command

A command drives the simulated module, and time is simulated with it. The host looks at the module
every `pollInterval` milliseconds; between two looks the module makes the ticks that fall into the
interval. Requests take no time.

A move is given up at the first look at or after its timeout: it is stopped, and the last look
reports what became of it. The number of looks before that is known from the start, and the loop
recurses on it.
-/

namespace FocusDrive.CommandLine

/-- Milliseconds between two looks at the module. -/
def pollInterval : Nat := 20

/-- Why a command failed. -/
inductive RunError
  /-- There is no usable configuration. -/
  | config (e : ConfigError)
  /-- The drive failed. -/
  | drive (e : DriveError)
deriving DecidableEq, Repr

/-- The wording of the error. -/
def RunError.message : RunError → String
  | config e => e.message
  | drive e => e.message

/-- Number of intervals until a number of milliseconds has passed. -/
def pollsIn (ms : Nat) : Nat := (ms + pollInterval - 1) / pollInterval

/-- Number of ticks that the module has made after a number of milliseconds. -/
def ticksIn (tickMicros ms : Nat) : Nat := ms * 1000 / tickMicros

/-- Let the module make the ticks between two times, in milliseconds. -/
def passTime (tickMicros start finish : Nat) : Operation Device Unit :=
  modify fun s ↦
    { s with link := s.link.runTicks (ticksIn tickMicros finish - ticksIn tickMicros start) }

/-- Look at a move until it is decided, at most `polls` more times before it is given up. The second
component is the time at the end. -/
def awaitMove (tickMicros id elapsed : Nat) : Nat → Operation Device (MoveRecord × Nat)
  | 0 => do
    let record ← Controller.moveStatus Device.bus id true
    if record.status.isTerminal then
      return (record, elapsed)
    else
      Controller.stop Device.bus
      return (← Controller.moveStatus Device.bus id true, elapsed)
  | polls + 1 => do
    let record ← Controller.moveStatus Device.bus id true
    if record.status.isTerminal then
      return (record, elapsed)
    else
      passTime tickMicros elapsed (elapsed + pollInterval)
      awaitMove tickMicros id (elapsed + pollInterval) polls

/-- Carry out a command on a module that is set up. -/
def perform (tickMicros : Nat) : Command → Operation Device Output
  | .move position timeoutMs => do
    let id ← Controller.moveTo Device.bus position
    let (record, elapsedMs) ← awaitMove tickMicros id 0 (pollsIn timeoutMs)
    let position ← Controller.position Device.bus
    return .report { command := "move", move := some record, position, elapsedMs }
  | .rotate speed durationMs => do
    let elapsedMs := pollsIn durationMs * pollInterval
    Controller.rotate Device.bus speed
    passTime tickMicros 0 elapsedMs
    Controller.stop Device.bus
    let position ← Controller.position Device.bus
    return .report { command := "rotate", move := none, position, elapsedMs }
  | .program => return .listing profile

/-- Set a simulated module up and carry out a command on it. -/
def drive (config : DriverConfig) (command : Command) : Except DriveError Output :=
  match (connect Device.bus config.device).run.run (.ofConfig config.simulation) with
  | (.error e, _) => .error e
  | (.ok controller, link) =>
    ((perform config.simulation.tickMicros command).run.run { controller, link }).1

/-- Carry out a command, given the contents of the configuration file if there is one. The program
is listed without touching a module. -/
def run (command : Command) (file : Option ByteArray) : Except RunError Output :=
  match DriverConfig.loadOrDefault file with
  | .error e => .error (.config e)
  | .ok (config, _) =>
    match command with
    | .program => .ok (.listing profile)
    | command => (drive config command).mapError .drive

end FocusDrive.CommandLine
