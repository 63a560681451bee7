import FocusDrive.CommandLine.Run

/-!
# The program

Reads the configuration file, prints what the command gives, and exits with `2` for a wrong command
line and `1` for any other failure. Errors go to the standard error stream.
-/

namespace FocusDrive.CommandLine

/-- What `--help` prints. -/
def helpText : String :=
  String.intercalate "\n"
    ["Usage: mfc [-c|--config FILE] [-v|--verbose] [--json] COMMAND", "", "Commands:",
      "  move POSITION [--timeout-ms N]", "  rotate SPEED [--duration-ms N]", "  program", ""]

/-- The contents of a file; nothing if there is no such file. -/
def readFile? (path : String) : IO (Option ByteArray) := do
  try
    return some (← IO.FS.readBinFile path)
  catch
    | .noFileOrDirectory .. => return none
    | e => throw e

/-- Run an invocation and print what it gives. -/
def runInvocation (i : Invocation) : IO UInt32 := do
  let file ← readFile? (i.options.config.getD defaultConfigPath)
  match run i.command file with
  | .ok output =>
    IO.print (output.render i.options.json)
    return 0
  | .error e =>
    IO.eprintln s!"{serviceName} failed: {e.message}"
    return 1

end FocusDrive.CommandLine

open FocusDrive.CommandLine in
/-- The entry point. -/
def main (arguments : List String) : IO UInt32 := do
  match Invocation.read arguments with
  | .error .version =>
    IO.print versionText
    return 0
  | .error .help =>
    IO.print helpText
    return 0
  | .error (.usage e) =>
    IO.eprintln s!"error: {e.message}"
    return 2
  | .ok i =>
    try
      runInvocation i
    catch e =>
      IO.eprintln s!"{FocusDrive.serviceName} failed: {e}"
      return 1
