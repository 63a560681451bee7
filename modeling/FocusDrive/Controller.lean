import FocusDrive.Config.Basic
import FocusDrive.DriveError
import FocusDrive.Move.Registry
import FocusDrive.Profile

/-!
# The motion controller

The host side of the drive. `connect` brings a module into a known state and downloads the profile
program; after that a move is nothing but a target in a global variable and a running program, and
its outcome is found by polling.

## What an operation is

Everything here is written against an arbitrary bus. An operation is a function of a `Session`,
which is the link to the module together with the controller's own memory, and it gives back a
session also when it fails: whatever the requests made before the failure did has been done.

## What polling may conclude

`moveStatus` is the one place where an outcome is decided. A move in progress whose program runs is
still moving; if the program does not run, the encoder decides. `interruptMove` goes through the
same decision before it marks a move as interrupted, so a move that had finished keeps its real
outcome.
-/

namespace FocusDrive

/-- What the controller remembers. -/
structure Controller where
  /-- The motor parameters that were written. -/
  config : DeviceConfig
  /-- The moves on record. -/
  moves : MoveRegistry := .empty
deriving DecidableEq, Repr

/-- A controller and its link to the module. -/
structure Session (σ : Type) where
  /-- What the controller remembers. -/
  controller : Controller
  /-- The link. -/
  link : σ

/-- Actions on a link alone. -/
abbrev LinkM (σ : Type) := ExceptT DriveError (StateM σ)

/-- Operations of a controller. -/
abbrev Operation (σ : Type) := ExceptT DriveError (StateM (Session σ))

variable {σ : Type}

/-- Make one request; `failure` says what its failure means. -/
def Bus.request (bus : Bus σ) (failure : ModuleError → DriveError) (r : Request) :
    LinkM σ r.Answer :=
  ExceptT.mk fun link ↦
    let (answer, link) := bus r link
    (answer.mapError failure, link)

/-- Set the module up: stop it, write the configuration, make the current position the target, so
that a later start does not seek a stale one, and download the profile program. -/
def connect (bus : Bus σ) (config : DeviceConfig) : LinkM σ Controller := do
  bus.request .transport .stopProgram
  bus.request .transport .stop
  bus.request (.setup .applyConfig) (.setParams config.params)
  let position ← bus.request .transport (.getParam .encoderPosition)
  bus.request .transport (.setGlobal Profile.targetPosition position)
  bus.request (.setup .uploadProgram) (.upload profile)
  return { config }

namespace Controller

/-- Make one request on the session's link. -/
def request (bus : Bus σ) (r : Request) : Operation σ r.Answer :=
  ExceptT.mk fun s ↦
    let (answer, link) := bus.request .transport r s.link
    (answer, { s with link })

/-- The registry of moves. -/
def registry : Operation σ MoveRegistry := return (← get).controller.moves

/-- Change the registry of moves. -/
def modifyMoves (f : MoveRegistry → MoveRegistry) : Operation σ Unit :=
  modify fun s ↦ { s with controller := { s.controller with moves := f s.controller.moves } }

/-! ### Running an operation

An operation is run on a session. The lemmas say what the steps of an operation do to it, so that no
proof has to look inside the monad. -/

theorem run_pure {α : Type} (a : α) (s : Session σ) :
    (pure a : Operation σ α).run.run s = (.ok a, s) := rfl

theorem run_throw {α : Type} (e : DriveError) (s : Session σ) :
    (throw e : Operation σ α).run.run s = (.error e, s) := rfl

/-- The second operation runs in the session that the first one left, and only if that one
succeeded. -/
theorem run_bind {α β : Type} (x : Operation σ α) (f : α → Operation σ β) (s : Session σ) :
    (x >>= f).run.run s =
      match x.run.run s with
      | (.ok a, s) => (f a).run.run s
      | (.error e, s) => (.error e, s) := by
  show (StateT.bind x (ExceptT.bindCont f)) s = _
  simp only [StateT.bind, bind, ExceptT.run, StateT.run]
  rcases x s with ⟨a | e, s⟩ <;> rfl

/-- A handler runs in the session that the failure left; nothing is taken back. -/
theorem run_tryCatch {α : Type} (x : Operation σ α) (handle : DriveError → Operation σ α)
    (s : Session σ) :
    (tryCatch x handle).run.run s =
      match x.run.run s with
      | (.ok a, s) => (.ok a, s)
      | (.error e, s) => (handle e).run.run s := by
  simp only [tryCatch, tryCatchThe, MonadExceptOf.tryCatch, ExceptT.tryCatch, bind, StateT.bind,
    ExceptT.run, ExceptT.mk, StateT.run]
  rcases x s with ⟨e | a, s⟩ <;> rfl

/-- An operation that is observed does what it does otherwise, but its failure is an answer. -/
theorem run_observing {α : Type} (x : Operation σ α) (s : Session σ) :
    (observing x : Operation σ (Except DriveError α)).run.run s =
      (.ok (x.run.run s).1, (x.run.run s).2) := by
  rw [observing, run_tryCatch, run_bind]
  rcases x.run.run s with ⟨e | a, s⟩ <;> rfl

/-- A request goes to the link, and a failure is passed on with its cause. The controller is not
changed. -/
theorem run_request (bus : Bus σ) (r : Request) (s : Session σ) :
    (request bus r).run.run s =
      ((bus r s.link).1.mapError .transport, { s with link := (bus r s.link).2 }) := rfl

theorem run_registry (s : Session σ) :
    (registry : Operation σ MoveRegistry).run.run s = (.ok s.controller.moves, s) := rfl

/-! ### The operations -/

variable (bus : Bus σ)

/-- Whether the module reports that its program runs. -/
def programRunning : Operation σ Bool := do
  let status ← request bus (.getGlobal .status)
  return status == GlobalVar.statusRunning

/-- The encoder count. -/
def position : Operation σ Int32 := request bus (.getParam .encoderPosition)

/-- Where the drive is heading: the target while the program runs, and otherwise wherever it is. -/
def targetPosition : Operation σ Int32 := do
  if ← programRunning bus then
    request bus (.getGlobal Profile.targetPosition)
  else
    position bus

/-- Look at a move. With `clear` a decided move is dropped after it was reported. -/
def moveStatus (id : Nat) (clear : Bool) : Operation σ MoveRecord := do
  match (← registry).get? id with
  | none => throw (.unknownMove id)
  | some record =>
    let status ←
      if record.status = .moving then
        if ← programRunning bus then
          pure .moving
        else
          pure (MoveStatus.ofHalt (← position bus) record.target)
      else
        pure record.status
    modifyMoves (·.setStatus id status)
    if clear && status.isTerminal then
      modifyMoves (·.erase id)
    return { record with status }

/-- Mark the last move as interrupted if it is still moving. That it is no longer on record is no
failure; any other failure of the look at it is one. -/
def interruptMove : Operation σ Unit := do
  match (← registry).lastId with
  | none => return
  | some id =>
    match ← observing (moveStatus bus id false) with
    | .ok record =>
      if record.status = .moving then
        modifyMoves (·.setStatus id .interrupted)
    | .error (.unknownMove _) => return
    | .error e => throw e

/-- Begin a move. A running program is given the new target where it is; one that does not run is
started, also if it stopped of itself just before the target was written. -/
def moveTo (target : Int32) : Operation σ Nat := do
  let wasRunning ← programRunning bus
  request bus (.setGlobal Profile.targetPosition target)
  interruptMove bus
  if !wasRunning then
    request bus .startProgram
  else if !(← programRunning bus) then
    request bus .startProgram
  let id := (← registry).nextId
  modifyMoves (·.begin target)
  return id

/-- Turn at a constant speed. This is no move; it interrupts one. -/
def rotate (speed : Int32) : Operation σ Unit := do
  interruptMove bus
  request bus .stopProgram
  request bus (.rotate speed)

/-- Stop the program and the motor; a move is interrupted. -/
def stop : Operation σ Unit := do
  interruptMove bus
  request bus .stopProgram
  request bus .stop

/-- Overwrite the encoder count. The motor does not move. -/
def setEncoder (count : Int32) : Operation σ Unit :=
  request bus (.setParam .encoderPosition count)

/-- Number of moves on record. -/
def pendingMoves : Operation σ Nat := return (← registry).size

end Controller

end FocusDrive
