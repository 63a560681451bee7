import FocusDrive.Program

/-!
# Requests to a module

What a host can ask of a motion module, what an answer to each request looks like, and how a request
can fail. The type of an answer depends on the request, so a host that reads a register gets a word
and one that gives a command gets nothing.

A `Bus` carries requests to a module with state `σ`. It is a plain function: it may answer anything,
fail at any time, and change the state in any way, also when it fails. The host side of this library
is written against an arbitrary bus; the simulated module provides one (`Device.bus`).
-/

namespace FocusDrive

/-- What a host asks of a module. -/
inductive Request
  /-- Read an axis parameter. -/
  | getParam (p : AxisParam)
  /-- Write an axis parameter. -/
  | setParam (p : AxisParam) (v : Int32)
  /-- Write several axis parameters, all or none. -/
  | setParams (writes : List (AxisParam × Int32))
  /-- Read a global variable. -/
  | getGlobal (g : GlobalVar)
  /-- Write a global variable. -/
  | setGlobal (g : GlobalVar) (v : Int32)
  /-- Turn at a constant speed. -/
  | rotate (speed : Int32)
  /-- Stop the motor. -/
  | stop
  /-- Start the stored program at address `0`. -/
  | startProgram
  /-- Stop the stored program. -/
  | stopProgram
  /-- Replace program memory. -/
  | upload (program : Program)
deriving DecidableEq, Repr

/-- What a successful answer holds. -/
abbrev Request.Answer : Request → Type
  | getParam _ | getGlobal _ => Int32
  | setParam .. | setParams _ | setGlobal .. | rotate _ | stop | startProgram | stopProgram
  | upload _ => Unit

/-- How a request fails, as the host sees it. -/
inductive ModuleError
  /-- The connection failed. -/
  | communication (detail : String)
  /-- The reply could not be understood. -/
  | malformedReply (detail : String)
  /-- The module answered that it refuses the command. -/
  | rejected (command reason : String)
deriving DecidableEq, Repr

/-- The wording of the error. -/
def ModuleError.message : ModuleError → String
  | communication detail => s!"Communication error: {detail}"
  | malformedReply detail => s!"Malformed reply: {detail}"
  | rejected command reason => s!"{command} rejected: {reason}"

/-- Carries requests to a module and brings back the answers. -/
abbrev Bus (σ : Type) := (r : Request) → σ → Except ModuleError r.Answer × σ

end FocusDrive
