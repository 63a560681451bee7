import FocusDrive.Proofs.Controller.Contract

/-!
# Calls and runs

A controller is used by calls (`Call`), one after the other. `Controller.perform` makes a call; it
gives a reply or an error, and a session in both cases.

A run (`Controller.Run`) begins with the construction of a controller. After that calls are made, in
any order and whether they succeed or not, and between two calls the link changes by itself. Which
links, changes and calls are considered is left open (`Setting`), so that a statement about all of
them and a statement about one particular module are both statements about runs. A run keeps the
numbers that its calls gave to moves.

The last part names the steps of the two operations that are longer than a few requests.
-/

namespace FocusDrive

/-- A call of a controller. -/
inductive Call
  /-- Begin a move. -/
  | moveTo (target : Int32)
  /-- Look at a move, and drop it if it is decided and `clear` is set. -/
  | moveStatus (id : Nat) (clear : Bool)
  /-- Turn at a constant speed. -/
  | rotate (speed : Int32)
  /-- Stop. -/
  | stop
  /-- Ask where the drive is heading. -/
  | targetPosition
  /-- Ask where the drive is. -/
  | position
  /-- Overwrite the encoder count. -/
  | setEncoder (count : Int32)
  /-- Ask for the number of moves on record. -/
  | pendingMoves
deriving DecidableEq, Repr

namespace Call

/-- What a successful call gives. -/
abbrev Reply : Call → Type
  | moveTo _ | pendingMoves => Nat
  | moveStatus .. => MoveRecord
  | rotate _ | stop | setEncoder _ => Unit
  | targetPosition | position => Int32

/-- The number of the move that the call began, if it began one. -/
def began : (c : Call) → Except DriveError c.Reply → List Nat
  | moveTo _, .ok id => [id]
  | _, _ => []

end Call

/-- The moves on record. -/
abbrev Session.moves {σ : Type} (s : Session σ) : MoveRegistry := s.controller.moves

/-- What is considered in a run. -/
structure Setting (σ : Type) where
  /-- How requests are answered. -/
  bus : Bus σ
  /-- On which links a controller is constructed. -/
  starts : σ → Prop
  /-- How a link may change between two calls. -/
  drifts : σ → σ → Prop
  /-- Which calls are made in a session. -/
  admits : Session σ → Call → Prop

namespace Controller

variable {σ : Type} (bus : Bus σ)

/-- Make a call. -/
def perform : (c : Call) → Operation σ c.Reply
  | .moveTo target => moveTo bus target
  | .moveStatus id clear => moveStatus bus id clear
  | .rotate speed => rotate bus speed
  | .stop => stop bus
  | .targetPosition => targetPosition bus
  | .position => position bus
  | .setEncoder count => setEncoder bus count
  | .pendingMoves => pendingMoves

/-- The sessions that are reached, each with the numbers of the moves begun so far. -/
inductive Run (w : Setting σ) : List Nat → Session σ → Prop
  /-- A controller is constructed. -/
  | connect {config : DeviceConfig} {controller : Controller} {link link' : σ}
      (hstart : w.starts link)
      (hconnect : (connect w.bus config).run.run link = (.ok controller, link')) :
      Run w [] ⟨controller, link'⟩
  /-- The link changes. -/
  | drift {ids : List Nat} {s : Session σ} {link : σ} (h : Run w ids s)
      (hdrift : w.drifts s.link link) : Run w ids { s with link }
  /-- A call is made. -/
  | call {ids : List Nat} {s s' : Session σ} {c : Call} {a : Except DriveError c.Reply}
      (h : Run w ids s) (hadmits : w.admits s c)
      (hcall : (perform w.bus c).run.run s = (a, s')) : Run w (ids ++ c.began a) s'

/-! ### Steps -/

/-- What a look at the module makes of the status of a move. -/
def look (record : MoveRecord) : Operation σ MoveStatus :=
  if record.status = .moving then do
    if ← programRunning bus then
      return .moving
    else
      return MoveStatus.ofHalt (← position bus) record.target
  else
    return record.status

/-- Write down the status and report it. -/
def report (id : Nat) (clear : Bool) (record : MoveRecord) (status : MoveStatus) :
    Operation σ MoveRecord := do
  modifyMoves (·.setStatus id status)
  if clear && status.isTerminal then
    modifyMoves (·.erase id)
  return { record with status }

/-- Start the program, unless it ran before and runs now. -/
def ensureRunning (wasRunning : Bool) : Operation σ Unit := do
  if !wasRunning then
    request bus .startProgram
  else if !(← programRunning bus) then
    request bus .startProgram

/-- Record a new move. -/
def issue (target : Int32) : Operation σ Nat := do
  let known ← registry
  modifyMoves (·.begin target)
  return known.nextId

/-- Writing a status down makes no request. -/
theorem run_report (id : Nat) (clear : Bool) (record : MoveRecord) (status : MoveStatus)
    (s : Session σ) :
    (report id clear record status).run.run s =
      (.ok { record with status }, { s with controller := { s.controller with
        moves := if clear && status.isTerminal then (s.moves.setStatus id status).erase id
          else s.moves.setStatus id status } }) := by
  rw [report]
  cases hclear : clear && status.isTerminal <;> rfl

theorem run_issue (target : Int32) (s : Session σ) :
    (issue target).run.run s =
      (.ok s.moves.nextId,
        { s with controller := { s.controller with moves := s.moves.begin target } }) :=
  rfl

/-- A look at a move in steps. -/
theorem moveStatus_eq (id : Nat) (clear : Bool) :
    moveStatus bus id clear = (do
      match (← registry).get? id with
      | none => throw (.unknownMove id)
      | some record => look bus record >>= report id clear record) := by
  rw [moveStatus]
  refine congrArg (registry >>= ·) (funext fun known ↦ ?_)
  cases known.get? id with
  | none => rfl
  | some record =>
    simp only [look]
    split
    · rw [bind_assoc]
      refine congrArg (programRunning bus >>= ·) (funext fun running ↦ ?_)
      cases running with
      | false =>
        show _ = (position bus >>= _) >>= _
        rw [bind_assoc]
        rfl
      | true => rfl
    · rfl

/-- The begin of a move in steps. -/
theorem moveTo_eq (target : Int32) :
    moveTo bus target = (do
      let wasRunning ← programRunning bus
      request bus (.setGlobal Profile.targetPosition target)
      interruptMove bus
      ensureRunning bus wasRunning
      issue target) := by
  rw [moveTo]
  refine congrArg (programRunning bus >>= ·) (funext fun wasRunning ↦ ?_)
  cases wasRunning with
  | false => rfl
  | true =>
    refine congrArg (request bus _ >>= ·) (funext fun _ ↦ ?_)
    refine congrArg (interruptMove bus >>= ·) (funext fun _ ↦ ?_)
    show _ = (programRunning bus >>= _) >>= _
    rw [bind_assoc]
    refine congrArg (programRunning bus >>= ·) (funext fun running ↦ ?_)
    cases running <;> rfl

/-- A look at a move that is not on record makes no request. -/
theorem run_moveStatus_of_missing {id : Nat} {s : Session σ} (hget : s.moves.get? id = none)
    (clear : Bool) :
    (moveStatus bus id clear).run.run s = (.error (.unknownMove id), s) := by
  rw [moveStatus, run_bind, run_registry]
  simp only [hget, run_throw]

/-! ### Interruptions -/

/-- The operation fails only if a request does. -/
def FailsInTransport {α : Type} (x : Operation σ α) : Prop :=
  Meets (fun _ ↦ True) x fun a _ ↦ ∀ e, a = .error e → ∃ cause, e = .transport cause

namespace FailsInTransport

variable {α β : Type}

theorem pure (a : α) : FailsInTransport (Pure.pure a : Operation σ α) :=
  Meets.pure fun _ _ _ herror ↦ nomatch herror

/-- A sequence fails only if one of its steps does. -/
theorem bind {x : Operation σ α} {f : α → Operation σ β} (hx : FailsInTransport x)
    (hf : ∀ a, FailsInTransport (f a)) : FailsInTransport (x >>= f) := by
  refine Meets.bind hx (fun a s _ ↦ hf a s trivial) fun e _ h e' herror ↦ ?_
  obtain rfl := Except.error.inj herror
  exact h e rfl

/-- A failed request is the one source of failures. -/
theorem request (r : Request) : FailsInTransport (Controller.request bus r) := by
  refine Meets.request fun s _ e herror ↦ ?_
  cases hanswer : (bus r s.link).1 with
  | ok v =>
    rw [hanswer] at herror
    cases herror
  | error cause =>
    rw [hanswer] at herror
    exact ⟨cause, (Except.error.inj herror).symm⟩

/-- Looking at a record fails only if one of the two reads does. -/
theorem look (record : MoveRecord) : FailsInTransport (look bus record) := by
  rw [Controller.look]
  split
  · refine .bind (.bind (.request bus _) fun _ ↦ .pure _) fun running ↦ ?_
    split
    · exact .pure _
    · exact .bind (.request bus _) fun _ ↦ .pure _
  · exact .pure _

end FailsInTransport

/-- A look fails because a request does, or for lack of a record. -/
theorem moveStatus_error {m : MoveRegistry} (id : Nat) (clear : Bool) :
    Meets (fun s ↦ s.moves = m) (moveStatus bus id clear) fun a _ ↦ ∀ e, a = .error e →
      (∃ cause, e = .transport cause) ∨ m.get? id = none ∧ e = .unknownMove id := by
  rw [moveStatus_eq]
  refine .bindRegistry (fun _ hs ↦ hs) ?_
  cases hget : m.get? id with
  | none =>
    refine .throw fun _ _ e herror ↦ .inr ⟨rfl, ?_⟩
    exact (Except.error.inj herror).symm
  | some record =>
    have hreport (status : MoveStatus) :
        FailsInTransport (report id clear record status : Operation σ MoveRecord) := by
      intro s _
      rw [run_report]
      exact fun _ herror ↦ nomatch herror
    exact ((FailsInTransport.look bus record).bind hreport).weaken (fun _ _ ↦ trivial)
      fun _ _ h e herror ↦ .inl (h e herror)

/-- Interrupt a move that is on record. -/
def interruptKnown (id : Nat) : Operation σ Unit := do
  let record ← moveStatus bus id false
  if record.status = .moving then
    modifyMoves (·.setStatus id .interrupted)

/-- Where the last move is on record, nothing is passed over: the look at it can only fail in a
request, and such a failure is handed on. -/
theorem run_interruptMove_of_known {s : Session σ} {id : Nat} {record : MoveRecord}
    (hlast : s.moves.lastId = some id) (hget : s.moves.get? id = some record) :
    (interruptMove bus).run.run s = (interruptKnown bus id).run.run s := by
  have herror := moveStatus_error bus id false s rfl
  rw [interruptMove, run_bind, run_registry, interruptKnown, run_bind]
  simp only [hlast]
  rw [run_bind, run_observing]
  rcases hlook : (moveStatus bus id false).run.run s with ⟨e | r, s'⟩
  · rw [hlook] at herror
    rcases herror e rfl with ⟨cause, rfl⟩ | ⟨hnone, -⟩
    · rfl
    · rw [hget] at hnone
      contradiction
  · rfl

/-- Where the last move is not on record, the look at it fails for this reason, and the failure is
passed over. -/
theorem run_interruptMove_cases (s : Session σ) :
    ((∀ id, s.moves.lastId = some id → s.moves.get? id = none) ∧
      (interruptMove bus).run.run s = (.ok (), s)) ∨
    ∃ id record, s.moves.lastId = some id ∧ s.moves.get? id = some record ∧
      (interruptMove bus).run.run s = (interruptKnown bus id).run.run s := by
  cases hlast : s.moves.lastId with
  | none =>
    refine .inl ⟨nofun, ?_⟩
    rw [interruptMove, run_bind, run_registry]
    simp only [hlast, run_pure]
  | some id =>
    cases hget : s.moves.get? id with
    | none =>
      refine .inl ⟨fun k hk ↦ Option.some.inj hk ▸ hget, ?_⟩
      rw [interruptMove, run_bind, run_registry]
      simp only [hlast]
      rw [run_bind, run_observing, run_moveStatus_of_missing bus hget]
      rfl
    | some record => exact .inr ⟨id, record, rfl, hget, run_interruptMove_of_known bus hlast hget⟩

/-- The rule for an interruption: the last move is not on record, or it is looked at and interrupted
if it is still in progress. -/
theorem meets_interruptMove {I : Session σ → Prop} {m : MoveRegistry}
    {Q : Except DriveError Unit → Session σ → Prop} (hm : ∀ s, I s → s.moves = m)
    (hnone : (∀ id, m.lastId = some id → m.get? id = none) → ∀ s, I s → Q (.ok ()) s)
    (hsome : ∀ id record, m.lastId = some id → m.get? id = some record →
      Meets I (interruptKnown bus id) Q) :
    Meets I (interruptMove bus) Q := by
  intro s hs
  obtain rfl := hm s hs
  rcases run_interruptMove_cases bus s with ⟨hmissing, hrun⟩ | ⟨id, r, hlast, hget, hrun⟩
  · rw [hrun]
    exact hnone hmissing s hs
  · rw [hrun]
    exact hsome id r hlast hget s hs

end Controller

end FocusDrive
