import FocusDrive.Bounds
import FocusDrive.AxisParam
import FocusDrive.GlobalVar
import FocusDrive.Instruction
import FocusDrive.Program
import FocusDrive.Profile
import FocusDrive.Interpreter
import FocusDrive.Motor
import FocusDrive.Config.Basic
import FocusDrive.Config.Validation
import FocusDrive.Config.Decode
import FocusDrive.Toml.Value
import FocusDrive.Toml.Reader
import FocusDrive.Toml.Range
import FocusDrive.Toml.Text
import FocusDrive.Toml.Quoted
import FocusDrive.Toml.Unquoted
import FocusDrive.Toml.Tree
import FocusDrive.Toml.Expression
import FocusDrive.Toml.Document
import FocusDrive.Request
import FocusDrive.Device.Registers
import FocusDrive.Device.Basic
import FocusDrive.Device.Host
import FocusDrive.Move.Basic
import FocusDrive.Move.Registry
import FocusDrive.DriveError
import FocusDrive.Controller
import FocusDrive.CommandLine.Arguments
import FocusDrive.CommandLine.Report
import FocusDrive.CommandLine.Run
import FocusDrive.Main
import FocusDrive.Proofs.Word
import FocusDrive.Proofs.Program.Listing
import FocusDrive.Proofs.Toml.Reader
import FocusDrive.Proofs.Toml.Distinct
import FocusDrive.Proofs.Toml.Reorder
import FocusDrive.Proofs.Config.Decode
import FocusDrive.Proofs.Config.Order
import FocusDrive.Proofs.Config.Load
import FocusDrive.Proofs.Interpreter
import FocusDrive.Proofs.Interpreter.Control
import FocusDrive.Proofs.Interpreter.Pass
import FocusDrive.Proofs.Interpreter.Accesses
import FocusDrive.Proofs.Interpreter.Budget
import FocusDrive.Proofs.Motor
import FocusDrive.Proofs.Motor.Travel
import FocusDrive.Proofs.Motor.Ramp
import FocusDrive.Proofs.Profile.Pass
import FocusDrive.Proofs.Profile.Safety
import FocusDrive.Proofs.Profile.ControlLaw
import FocusDrive.Proofs.Profile.Wraparound
import FocusDrive.Proofs.Profile.Course
import FocusDrive.Proofs.Device.Time
import FocusDrive.Proofs.Device.Loop
import FocusDrive.Proofs.Device.Arrival
import FocusDrive.Proofs.Device.Reachable
import FocusDrive.Proofs.Interpreter.Wait
import FocusDrive.Proofs.Device.Profiled
import FocusDrive.Proofs.Device.Drive
import FocusDrive.Proofs.Device.Standstill
import FocusDrive.Proofs.Device.Parameters
import FocusDrive.Proofs.Device.Ranges
import FocusDrive.Proofs.Device.Control
import FocusDrive.Proofs.Device.Status
import FocusDrive.Proofs.Device.Refusal
import FocusDrive.Proofs.Device.Command
import FocusDrive.Proofs.Device.Translation
import FocusDrive.Proofs.Device.Mirror
import FocusDrive.Proofs.Move.Coherent
import FocusDrive.Proofs.Controller.Contract
import FocusDrive.Proofs.Controller.Run
import FocusDrive.Proofs.Controller.Parallel
import FocusDrive.Proofs.Controller.Registry
import FocusDrive.Proofs.Controller.Exchanges
import FocusDrive.Proofs.Controller.Inspection
import FocusDrive.Proofs.Controller.Clocked
import FocusDrive.Proofs.Controller.Agreement
import FocusDrive.Proofs.Controller.Setup
import FocusDrive.Proofs.Controller.Event
import FocusDrive.Proofs.Controller.LifeCycle
import FocusDrive.Proofs.Controller.Supersession
import FocusDrive.Proofs.Controller.Losses
import FocusDrive.Proofs.Controller.Stop
import FocusDrive.Proofs.Controller.Succession
import FocusDrive.Proofs.Controller.Still
