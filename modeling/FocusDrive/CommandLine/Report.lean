import FocusDrive.Config.Basic
import FocusDrive.Move.Basic
import FocusDrive.Program

/-!
# Reports

What a command prints when it is done: a line of text or a JSON object about the motion, or the
listing of the profile program. All texts in a report are words of this library, so nothing in the
JSON has to be escaped.
-/

namespace FocusDrive.CommandLine

/-- What `--version` prints. -/
def versionText : String := serviceName ++ " 0.1.0\n"

/-- What a motion came to. -/
structure Report where
  /-- The command. -/
  command : String
  /-- The move, if the command was one. -/
  move : Option MoveRecord
  /-- The encoder count at the end. -/
  position : Int32
  /-- How long it took, in milliseconds. -/
  elapsedMs : Nat
deriving DecidableEq, Repr

namespace Report

/-- The report as a line of text. -/
def text (r : Report) : String :=
  match r.move with
  | some m =>
    s!"move {m.id}: {m.status.name} " ++
      s!"(target {m.target.toInt}, position {r.position.toInt}, {r.elapsedMs} ms)"
  | none => s!"{r.command}: position {r.position.toInt} ({r.elapsedMs} ms)"

/-- A string in JSON. -/
def quote (s : String) : String := "\"" ++ s ++ "\""

/-- The fields of the report in JSON, in order. -/
def fields (r : Report) : List (String × String) :=
  let ofMove := match r.move with
    | some m => [("id", toString m.id), ("status", quote m.status.name),
        ("target", toString m.target.toInt)]
    | none => []
  ("command", quote r.command) :: ofMove ++
    [("position", toString r.position.toInt), ("elapsed_ms", toString r.elapsedMs)]

/-- The report as a JSON object. -/
def json (r : Report) : String :=
  "\x7b" ++ String.intercalate "," (r.fields.map fun (key, v) ↦ quote key ++ ":" ++ v) ++ "\x7d"

end Report

/-- What a command prints. -/
inductive Output
  /-- The listing of a program. -/
  | listing (p : Program)
  /-- A report on a motion. -/
  | report (r : Report)
deriving DecidableEq, Repr

/-- The text that is printed; a listing is always plain. -/
def Output.render (json : Bool) : Output → String
  | listing p => p.listing
  | report r => (if json then r.json else r.text) ++ "\n"

end FocusDrive.CommandLine
