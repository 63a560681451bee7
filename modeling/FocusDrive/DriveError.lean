import FocusDrive.Request

/-!
# What can go wrong for the host

A request that fails is passed on with its cause, and so the host can always tell what the module or
the connection said. While the drive is set up, a refused configuration and a refused download are
reported as such, again with their cause.
-/

namespace FocusDrive

/-- The steps of the setup that a module may fail to acknowledge. -/
inductive SetupStage
  /-- Writing the motor parameters. -/
  | applyConfig
  /-- Downloading the profile program. -/
  | uploadProgram
deriving DecidableEq, Repr

/-- The step in messages. -/
def SetupStage.name : SetupStage → String
  | applyConfig => "apply configuration"
  | uploadProgram => "upload profile program"

/-- Why an operation of the host failed. -/
inductive DriveError
  /-- A request failed. -/
  | transport (e : ModuleError)
  /-- There is no record of such a move, or no longer. -/
  | unknownMove (id : Nat)
  /-- A step of the setup failed. -/
  | setup (stage : SetupStage) (e : ModuleError)
  /-- The program could not be assembled. -/
  | assembly (e : AssemblyError)
deriving DecidableEq, Repr

/-- The wording of the error. -/
def DriveError.message : DriveError → String
  | transport e => e.message
  | unknownMove id => s!"Unknown move id: {id}"
  | setup stage e => s!"Device configuration failed during {stage.name}: {e.message}"
  | assembly e => s!"Program assembly failed: {e.message}"

end FocusDrive
