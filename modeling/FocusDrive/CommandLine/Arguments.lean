import FocusDrive.Config.Basic

/-!
# Command-line arguments

```
mfc [-c|--config FILE] [-v|--verbose] [--json] move POSITION [--timeout-ms N]
                                               rotate SPEED [--duration-ms N]
                                               program
                                               help [COMMAND]
```

Arguments are read from left to right, and the first thing that ends the reading decides: a request
for the version or for help, or a usage error. Nothing may be given twice. What is given to all
commands stands before the command. Positions and speeds may start with a hyphen, and behind `--`
nothing is an option.
-/

namespace FocusDrive.CommandLine

/-- What is to be done. -/
inductive Command
  /-- Move to a position, and give up after some milliseconds. -/
  | move (position : Int32) (timeoutMs : Nat)
  /-- Turn at a speed for some milliseconds. -/
  | rotate (speed : Int32) (durationMs : Nat)
  /-- Print the profile program. -/
  | program
deriving DecidableEq, Repr

/-- What stands before the command. -/
structure Options where
  /-- The configuration file, if one is named. -/
  config : Option String := none
  /-- Whether to log more. -/
  verbose : Bool := false
  /-- Whether to report in JSON. -/
  json : Bool := false
deriving DecidableEq, Repr

/-- A complete command line. -/
structure Invocation where
  /-- What stands before the command. -/
  options : Options
  /-- The command. -/
  command : Command
deriving DecidableEq, Repr

/-- What is wrong with a command line. -/
inductive UsageError
  /-- There is no command. -/
  | missingCommand
  /-- The command lacks its position or speed. -/
  | missingArgument
  /-- An option lacks its value. -/
  | missingValue (option : String)
  /-- A flag has a value. -/
  | unexpectedValue (option : String)
  /-- An option was given before. -/
  | repeated (option : String)
  /-- A value is malformed or too large. -/
  | invalidValue (value : String)
  /-- An argument that belongs nowhere. -/
  | unexpected (argument : String)
deriving DecidableEq, Repr

/-- The wording of the error. -/
def UsageError.message : UsageError → String
  | missingCommand => "a command is required: move, rotate or program"
  | missingArgument => "a position or speed is required"
  | missingValue option => s!"a value is required for {option}"
  | unexpectedValue option => s!"{option} takes no value"
  | repeated option => s!"{option} cannot be used more than once"
  | invalidValue value => s!"invalid value: {value}"
  | unexpected argument => s!"unexpected argument: {argument}"

/-- Why there is nothing to run. -/
inductive Stop
  /-- The version is to be printed. -/
  | version
  /-- Help is to be printed. -/
  | help
  /-- The command line is wrong. -/
  | usage (e : UsageError)
deriving DecidableEq, Repr

/-! ### Numbers -/

/-- The value of a number in decimal digits. -/
def digits? (s : List Char) : Option Nat :=
  if s.isEmpty || !s.all (·.isDigit) then none
  else some (s.foldl (fun n c ↦ n * 10 + (c.toNat - '0'.toNat)) 0)

/-- An integer with an optional sign. -/
def integer? : List Char → Option Int
  | '-' :: r => (digits? r).map fun n ↦ -(n : Int)
  | '+' :: r => (digits? r).map Int.ofNat
  | r => (digits? r).map Int.ofNat

/-- A position or a speed. -/
def readWord (s : String) : Except Stop Int32 :=
  match integer? s.toList with
  | some n =>
    if Int32.minValue.toInt ≤ n ∧ n ≤ Int32.maxValue.toInt then .ok (Int32.ofInt n)
    else .error (.usage (.invalidValue s))
  | none => .error (.usage (.invalidValue s))

/-- A number of milliseconds, in 64 bits. -/
def readMillis (s : String) : Except Stop Nat :=
  let n? := match s.toList with
    | '+' :: r => digits? r
    | r => digits? r
  match n? with
  | some n => if n < UInt64.size then .ok n else .error (.usage (.invalidValue s))
  | none => .error (.usage (.invalidValue s))

/-! ### Forms of arguments -/

/-- What an argument looks like. -/
inductive Form
  /-- The two hyphens behind which nothing is an option. -/
  | separator
  /-- A long option, perhaps with a value attached. -/
  | long (name : String) (value : Option String)
  /-- A hyphen and one or more letters. -/
  | short (letters : List Char)
  /-- Anything else. -/
  | plain

/-- The form of an argument. -/
def formOf (argument : String) : Form :=
  match argument.toList with
  | ['-', '-'] => .separator
  | '-' :: '-' :: r =>
    let name := r.takeWhile (· != '=')
    .long (String.ofList name)
      (if name.length < r.length then some (String.ofList (r.drop (name.length + 1))) else none)
  | '-' :: c :: r => .short (c :: r)
  | _ => .plain

/-- Whether an argument can be the value of the option before it. -/
def isValue (argument : String) : Bool :=
  match formOf argument with
  | .plain => !argument.isEmpty
  | _ => false

/-! ### What stands before the command -/

namespace Options

/-- Name the configuration file. -/
def setConfig (o : Options) (file : String) : Except Stop Options :=
  if o.config.isSome then .error (.usage (.repeated "--config"))
  else if file.isEmpty then .error (.usage (.missingValue "--config"))
  else .ok { o with config := some file }

/-- Ask for more logging. -/
def setVerbose (o : Options) : Except Stop Options :=
  if o.verbose then .error (.usage (.repeated "--verbose")) else .ok { o with verbose := true }

/-- Ask for JSON. -/
def setJson (o : Options) : Except Stop Options :=
  if o.json then .error (.usage (.repeated "--json")) else .ok { o with json := true }

/-- Read the letters behind a hyphen. The flag says that the configuration file is the next
argument. -/
def letters (o : Options) : List Char → Except Stop (Options × Bool)
  | [] => .ok (o, false)
  | 'v' :: r => do letters (← o.setVerbose) r
  | 'V' :: _ => .error .version
  | 'h' :: _ => .error .help
  | ['c'] => .ok (o, true)
  | 'c' :: '=' :: r => return (← o.setConfig (String.ofList r), false)
  | 'c' :: r => return (← o.setConfig (String.ofList r), false)
  | c :: _ => .error (.usage (.unexpected s!"-{c}"))

end Options

/-- The arguments of `move` and `rotate`, as far as they are read. -/
structure MotionArgs where
  /-- The position or speed. -/
  word : Option Int32 := none
  /-- The value of the option. -/
  millis : Option Nat := none

namespace MotionArgs

/-- Read the position or speed. -/
def setWord (a : MotionArgs) (argument : String) : Except Stop MotionArgs :=
  match a.word with
  | some _ => .error (.usage (.unexpected argument))
  | none => do return { a with word := some (← readWord argument) }

/-- Read the value of the option. -/
def setMillis (a : MotionArgs) (option value : String) : Except Stop MotionArgs :=
  match a.millis with
  | some _ => .error (.usage (.repeated option))
  | none => do return { a with millis := some (← readMillis value) }

/-- Read arguments behind the separator. -/
def readPlain (a : MotionArgs) (arguments : List String) : Except Stop MotionArgs :=
  arguments.foldlM setWord a

/-- Whether letters behind a hyphen ask for help. Where a position or speed is still missing, they
are taken for one unless each of them asks for help. -/
def asksForHelp (a : MotionArgs) (letters : List Char) : Bool :=
  if a.word.isSome then letters.head? == some 'h' else letters.all (· == 'h')

/-- Read the arguments; `option` is the name of the option. An argument with a hyphen that is
nothing else is taken for the position or speed. -/
def read (option : String) (a : MotionArgs) : List String → Except Stop MotionArgs
  | [] => .ok a
  | argument :: rest =>
    match formOf argument with
    | .separator => a.readPlain rest
    | .long name value? =>
      if name = option then
        match value?, rest with
        | some value, rest => do read option (← a.setMillis option value) rest
        | none, value :: rest =>
          if isValue value then do read option (← a.setMillis option value) rest
          else .error (.usage (.missingValue option))
        | none, [] => .error (.usage (.missingValue option))
      else if name = "help" ∧ value?.isNone then .error .help
      else do read option (← a.setWord argument) rest
    | .short letters =>
      if a.asksForHelp letters then .error .help
      else do read option (← a.setWord argument) rest
    | .plain => do read option (← a.setWord argument) rest

/-- The command that the arguments are for. -/
def finish (a : MotionArgs) (standardMillis : Nat) (command : Int32 → Nat → Command) :
    Except Stop Command :=
  match a.word with
  | none => .error (.usage .missingArgument)
  | some word => .ok (command word (a.millis.getD standardMillis))

end MotionArgs

/-- The arguments of `program`: none. -/
def readNothing : List String → Except Stop Unit
  | [] | ["--"] => .ok ()
  | "--" :: argument :: _ => .error (.usage (.unexpected argument))
  | argument :: _ =>
    match formOf argument with
    | .short ('h' :: _) | .long "help" none => .error .help
    | _ => .error (.usage (.unexpected argument))

/-- Milliseconds that a move may take, unless said otherwise. -/
def standardTimeout : Nat := 30000

/-- Milliseconds that a rotation takes, unless said otherwise. -/
def standardDuration : Nat := 1000

/-- The words that name a command, `help` among them. -/
def commandNames : List String := ["move", "rotate", "program", "help"]

/-- What comes of asking for help on a topic: the topic is a command, or all of them if there is
none. -/
def helpOn : List String → Stop
  | [] => .help
  | topic :: rest =>
    if commandNames.contains topic then
      match rest with
      | [] => .help
      | next :: _ => .usage (.unexpected next)
    else .usage (.unexpected topic)

/-- Read a command and its arguments; nothing if the argument names no command. -/
def Command.read? (name : String) (arguments : List String) : Option (Except Stop Command) :=
  match name with
  | "move" => some do
    (← MotionArgs.read "timeout-ms" {} arguments).finish standardTimeout .move
  | "rotate" => some do
    (← MotionArgs.read "duration-ms" {} arguments).finish standardDuration .rotate
  | "program" => some do
    readNothing arguments
    return .program
  | "help" => some (.error (helpOn arguments))
  | _ => none

/-- Read the rest of a command line. -/
def readFrom (o : Options) : List String → Except Stop Invocation
  | [] => .error (.usage .missingCommand)
  | argument :: rest =>
    match formOf argument with
    | .separator =>
      match rest with
      | [] => .error (.usage .missingCommand)
      | next :: _ => .error (.usage (.unexpected next))
    | .long "config" (some file) => do readFrom (← o.setConfig file) rest
    | .long "config" none => readConfig o rest
    | .long "verbose" none => do readFrom (← o.setVerbose) rest
    | .long "json" none => do readFrom (← o.setJson) rest
    | .long "version" none => .error .version
    | .long "help" none => .error .help
    | .long name (some _) =>
      if ["verbose", "json", "version", "help"].contains name then
        .error (.usage (.unexpectedValue name))
      else .error (.usage (.unexpected argument))
    | .long _ none => .error (.usage (.unexpected argument))
    | .short letters =>
      match o.letters letters with
      | .error stop => .error stop
      | .ok (o, false) => readFrom o rest
      | .ok (o, true) => readConfig o rest
    | .plain =>
      match Command.read? argument rest with
      | some command => do return { options := o, command := ← command }
      | none => .error (.usage (.unexpected argument))
where
  /-- Read on where the configuration file comes next. -/
  readConfig (o : Options) : List String → Except Stop Invocation
    | [] => .error (.usage (.missingValue "--config"))
    | file :: rest =>
      if isValue file then do readFrom (← o.setConfig file) rest
      else .error (.usage (.missingValue "--config"))

/-- Read a command line. -/
def Invocation.read (arguments : List String) : Except Stop Invocation := readFrom {} arguments

end FocusDrive.CommandLine
