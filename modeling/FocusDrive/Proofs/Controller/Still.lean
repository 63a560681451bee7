import FocusDrive.Proofs.Controller.Inspection
import FocusDrive.Proofs.Device.Standstill

/-!
# A controller on a module that is still

When no time passes the module is still but for what the host asks of it, and an operation is a
function of the registry and the module that it finds. The contracts here say which function:
`Still m d k` fixes the registry, the module and the number of starts that were asked for, and each
operation leads from one such state to another.

A look finds the status that `MoveStatus.resolve` gives. A command that takes over does the same to
every record and then interrupts the move that is still in progress (`MoveRecord.supersede`); while
the program runs this is an interruption without a look at the encoder. The begin of a move writes
the target and starts the program if it does not run (`Device.madeToRun`).
-/

namespace FocusDrive

/-! ### The module that was sent to a target -/

namespace Device

variable {d : Device}

/-- A new target takes nothing away from a module that runs the profile program. -/
theorem Profiled.withTarget (h : d.Profiled) (target : Int32) : (d.withTarget target).Profiled :=
  h.handle (r := .setGlobal Profile.targetPosition target) nofun

/-- The module with the program started, unless it runs. -/
def madeToRun (d : Device) : Device := if d.isRunning then d else d.start profile

theorem Profiled.madeToRun (h : d.Profiled) : d.madeToRun.Profiled := by
  rw [Device.madeToRun]
  split
  · exact h
  · exact h.start

/-- A module that was made to run does so. -/
theorem Profiled.isRunning_madeToRun (h : d.Profiled) : d.madeToRun.isRunning = true := by
  rw [Device.madeToRun]
  split
  next hrunning => exact hrunning
  next => exact (atLoop_start h.program).isRunning

theorem global_madeToRun (d : Device) :
    d.madeToRun.registers.global Profile.targetPosition =
      d.registers.global Profile.targetPosition := by
  rw [madeToRun]
  split <;> rfl

end Device

/-! ### What becomes of a record -/

/-- What becomes of a status when another command takes over. -/
def MoveStatus.supersede (status : MoveStatus) (running : Bool) (position target : Int32) :
    MoveStatus :=
  if status.resolve running position target = moving then interrupted
  else status.resolve running position target

/-- The record after another command took over on a module that is still. -/
def MoveRecord.supersede (r : MoveRecord) (d : Device) : MoveRecord :=
  { r with status := r.status.supersede d.isRunning d.encoder r.target }

/-- While the program runs nothing is decided. -/
theorem MoveStatus.resolve_of_running (status : MoveStatus) (position target : Int32) :
    status.resolve true position target = status := by
  rw [resolve, if_neg]
  exact fun h ↦ absurd h.2 (by decide)

/-- When the program has ended, the encoder decides about a move in progress. -/
theorem MoveStatus.resolve_of_halted (position target : Int32) :
    moving.resolve false position target = ofHalt position target :=
  rfl

/-- What is decided stays decided. -/
theorem MoveStatus.resolve_of_ne_moving {status : MoveStatus} (h : status ≠ moving)
    (running : Bool) (position target : Int32) :
    status.resolve running position target = status := by
  rw [resolve, if_neg]
  exact fun hmoving ↦ h hmoving.1

/-- A move that is decided cannot be superseded. -/
theorem MoveRecord.supersede_of_ne_moving {r : MoveRecord} (h : r.status ≠ .moving) (d : Device) :
    r.supersede d = r := by
  rw [supersede, MoveStatus.supersede, MoveStatus.resolve_of_ne_moving h, if_neg h]

/-- Where no move is in progress there is nothing to supersede. -/
theorem MoveRegistry.Decided.map_supersede {m : MoveRegistry} (h : m.Decided) (id : Nat)
    (d : Device) : (m.get? id).map (·.supersede d) = m.get? id := by
  cases hget : m.get? id with
  | none => rfl
  | some r =>
    have hr := h r (mem_of_get? hget)
    exact congrArg some (MoveRecord.supersede_of_ne_moving hr d)

/-- Only the last record can change, so it is enough to know what became of that one. -/
theorem MoveRegistry.Coherent.get?_supersede {m m' : MoveRegistry} (hm : m.Coherent) {last : Nat}
    (hlast : m.lastId = some last) {r : MoveRecord} (hget : m.get? last = some r) {d : Device}
    (h : m.DiffersAt last (some (r.supersede d)) m') (id : Nat) :
    m'.get? id = (m.get? id).map (·.supersede d) := by
  rcases eq_or_ne id last with rfl | hne
  · rw [h.get?_self, hget]
    rfl
  · rw [h.get?_of_ne id hne]
    cases hother : m.get? id with
    | none => rfl
    | some r' =>
      have hdecided : r'.status ≠ .moving := by
        intro hmoving
        have hid := hm.lastId_of_moving r' (mem_of_get? hother) hmoving
        rw [hlast, id_of_get? hother] at hid
        exact hne (Option.some.inj hid).symm
      exact congrArg some (MoveRecord.supersede_of_ne_moving hdecided d).symm

/-- While the program runs, a move in progress is interrupted. -/
theorem MoveRecord.supersede_of_running {r : MoveRecord} {d : Device} (hd : d.isRunning = true)
    (hr : r.status = .moving ∨ r.status = .interrupted) :
    r.supersede d = { r with status := .interrupted } := by
  rw [supersede, MoveStatus.supersede, hd, MoveStatus.resolve_of_running]
  rcases hr with hr | hr
  · rw [if_pos hr]
  · rw [hr]
    rfl

namespace Controller

/-! ### Operations on a module that is still -/

/-- The registry is `m`, the module is `d`, and `k` starts were asked for. -/
structure Still (m : MoveRegistry) (d : Device) (k : Nat) (s : Session (Recorded Device)) :
    Prop where
  /-- The moves on record. -/
  moves : s.moves = m
  /-- The module. -/
  device : s.link.link = d
  /-- How often the program was to be started. -/
  starts : s.count Request.isStart = k

section

variable {m : MoveRegistry} {d : Device} {k : Nat} {r : MoveRecord} {id : Nat}

/-- The rule for a request that is carried out. -/
theorem request_still {request : Request} {v : request.Answer} {d' : Device}
    (h : d.handle request = (.ok v, d')) :
    Succeeds (Still m d k) (Controller.request Device.bus.recorded request) fun w s ↦
      w = v ∧ Still m d' (k + request.isStart.toNat) s := by
  refine .request fun s hs ↦ ?_
  have hbus : Device.bus request s.link.link = (.ok v, d') := by
    rw [hs.device, Device.bus, h]
    rfl
  refine ⟨v, ?_, rfl, hs.moves, ?_, ?_⟩
  · show (Device.bus request s.link.link).1.mapError _ = _
    rw [hbus]
    rfl
  · show (Device.bus request s.link.link).2 = _
    rw [hbus]
  · show (_ :: s.exchanges).countP _ = _
    rw [List.countP_cons]
    show s.count Request.isStart + (if request.isStart = true then 1 else 0) = _
    rw [hs.starts]
    cases request.isStart <;> rfl

/-- The answer is whether the program runs, and the module is not changed by the question. -/
theorem programRunning_still (hd : d.Sound) :
    Succeeds (Still m d k) (programRunning Device.bus.recorded) fun running s ↦
      running = d.isRunning ∧ Still m d k s := by
  have hread : d.handle (.getGlobal .status) = (.ok d.registers.status, d) := rfl
  refine .andThen (request_still hread) fun status ↦ .assume ?_
  rintro rfl
  refine .succeed fun s hs ↦ ⟨?_, hs⟩
  rw [hd.status]
  cases d.isRunning <;> rfl

/-- The position is the encoder, and asking changes nothing. -/
theorem position_still :
    Succeeds (Still m d k) (position Device.bus.recorded) fun p s ↦
      p = d.encoder ∧ Still m d k s :=
  request_still rfl

/-- The target position is the target variable while the program runs, and the encoder otherwise. -/
theorem targetPosition_still (hd : d.Sound) :
    Succeeds (Still m d k) (targetPosition Device.bus.recorded) fun p s ↦
      p = (if d.isRunning then d.registers.global Profile.targetPosition else d.encoder) ∧
        Still m d k s := by
  refine .andThen (programRunning_still hd) fun running ↦ .assume ?_
  rintro rfl
  cases d.isRunning with
  | true => exact request_still rfl
  | false => exact position_still

/-- A look finds the status resolved by the module as it is. -/
theorem look_still (hd : d.Sound) (r : MoveRecord) :
    Succeeds (Still m d k) (look Device.bus.recorded r) fun status s ↦
      status = r.status.resolve d.isRunning d.encoder r.target ∧ Still m d k s := by
  rw [look]
  split
  next hmoving =>
    have hhalted : Succeeds (Still m d k)
        (position Device.bus.recorded >>= fun p ↦ pure (MoveStatus.ofHalt p r.target))
        fun status s ↦ status = .ofHalt d.encoder r.target ∧ Still m d k s :=
      .andThen position_still fun p ↦ .succeed fun s hs ↦
        ⟨congrArg (MoveStatus.ofHalt · r.target) hs.1, hs.2⟩
    refine .andThen (programRunning_still hd) fun running ↦ .assume ?_
    rintro rfl
    rw [hmoving]
    cases d.isRunning with
    | true =>
      rw [MoveStatus.resolve_of_running]
      exact .succeed fun s hs ↦ ⟨rfl, hs⟩
    | false =>
      rw [MoveStatus.resolve_of_halted]
      exact hhalted
  next hdecided =>
    exact .succeed fun s hs ↦ ⟨(MoveStatus.resolve_of_ne_moving hdecided _ _ _).symm, hs⟩

/-- A poll answers with the record, resolved as the module stands, and keeps or drops it as
asked. -/
theorem moveStatus_still (hd : d.Sound) (hget : m.get? id = some r) (clear : Bool) :
    Succeeds (Still m d k) (moveStatus Device.bus.recorded id clear) fun polled s ↦
      polled = { r with status := r.status.resolve d.isRunning d.encoder r.target } ∧
        Still (if clear && polled.status.isTerminal then (m.setStatus id polled.status).erase id
          else m.setStatus id polled.status) d k s := by
  rw [moveStatus_eq]
  refine .bindRegistry (fun _ hs ↦ hs.moves) ?_
  rw [hget]
  refine .andThen (look_still hd r) fun status s hs ↦ ?_
  obtain ⟨rfl, hstill⟩ := hs
  rw [run_report, hstill.moves]
  exact ⟨_, rfl, rfl, rfl, hstill.device, hstill.starts⟩

/-- An interruption resolves the records by the module as it is, and interrupts a move that is still
in progress. -/
theorem interruptMove_supersede (hm : m.Coherent) (hd : d.Sound) :
    Succeeds (Still m d k) (interruptMove Device.bus.recorded) fun _ s ↦
      Still s.moves d k s ∧ ∀ id, s.moves.get? id = (m.get? id).map (·.supersede d) := by
  refine meets_interruptMove _ (fun _ hs ↦ hs.moves) ?_ fun last r hlast hget ↦ ?_
  · intro hnone s hs
    refine ⟨(), rfl, ⟨rfl, hs.device, hs.starts⟩, fun id ↦ ?_⟩
    rw [hs.moves, (hm.decided_of_get?_lastId hnone).map_supersede]
  · refine .andThen (moveStatus_still hd hget false) fun polled s hs ↦ ?_
    obtain ⟨rfl, hstill⟩ := hs
    have hlooked := (MoveRegistry.differsAt_self hget).setStatus
      (r.status.resolve d.isRunning d.encoder r.target)
    simp only [Bool.false_and, Bool.false_eq_true, if_false] at hstill
    rw [← hstill.moves] at hlooked
    split
    next hmoving =>
      refine ⟨(), rfl, ⟨rfl, hstill.device, hstill.starts⟩, hm.get?_supersede hlast hget ?_⟩
      rw [MoveRecord.supersede, MoveStatus.supersede, if_pos hmoving]
      exact hlooked.setStatus .interrupted
    next hmoving =>
      refine ⟨(), rfl, ⟨rfl, hstill.device, hstill.starts⟩, hm.get?_supersede hlast hget ?_⟩
      rw [MoveRecord.supersede, MoveStatus.supersede, if_neg hmoving]
      exact hlooked

/-- Interrupting supersedes every move in progress and leaves the module as it was. -/
theorem interruptMove_still (hm : m.Coherent) (hd : d.Sound) :
    Succeeds (Still m d k) (interruptMove Device.bus.recorded) fun _ s ↦
      m.Resolves s.moves ∧ s.moves.Decided ∧
        (∀ id, s.moves.get? id = (m.get? id).map (·.supersede d)) ∧ Still s.moves d k s := by
  intro s hs
  obtain ⟨v, hok, hstill, hget⟩ := interruptMove_supersede hm hd s hs
  obtain ⟨hresolves, hdecided⟩ := interruptMove_moves hm s hs.moves
  exact ⟨v, hok, hresolves, hdecided v hok, hget, hstill⟩

/-- A program that was found running still runs, so only one that was not is started. -/
theorem ensureRunning_still (hd : d.Profiled) :
    Succeeds (Still m d k) (ensureRunning Device.bus.recorded d.isRunning) fun _ s ↦
      Still m d.madeToRun (k + (!d.isRunning).toNat) s := by
  rw [Device.madeToRun]
  cases hrunning : d.isRunning with
  | false =>
    exact (request_still (Device.handle_startProgram hd.program)).weaken (fun _ hs ↦ hs)
      fun _ _ ⟨v, hok, _, hs⟩ ↦ ⟨v, hok, hs⟩
  | true =>
    refine .andThen (programRunning_still hd.toSound) fun running ↦ .assume ?_
    rintro rfl
    rw [hrunning]
    exact .succeed fun s hs ↦ hs

/-- The begin of a move on a module that is still: the records are superseded, the module is sent to
the target, and its program is started unless it runs. -/
theorem moveTo_still (hm : m.Coherent) (hd : d.Profiled) (target : Int32) :
    Succeeds (Still m d k) (moveTo Device.bus.recorded target) fun id s ↦
      id = m.nextId ∧ ∃ m', m.Resolves m' ∧ m'.Decided ∧
        (∀ id, m'.get? id = (m.get? id).map (·.supersede d)) ∧
        Still (m'.begin target) (d.withTarget target).madeToRun (k + (!d.isRunning).toNat) s := by
  have hd' := hd.withTarget target
  have hbegin (m' : MoveRegistry) :
      Succeeds (Still m' (d.withTarget target) k)
        (ensureRunning Device.bus.recorded d.isRunning >>= fun _ ↦ issue target) fun id s ↦
          id = m'.nextId ∧ Still (m'.begin target) (d.withTarget target).madeToRun
            (k + (!d.isRunning).toNat) s := by
    refine .andThen (ensureRunning_still hd') fun _ s hs ↦ ?_
    rw [run_issue, hs.moves]
    exact ⟨_, rfl, rfl, rfl, hs.device, hs.starts⟩
  rw [moveTo_eq]
  -- the interruption finds the new target, but as long as nothing ticks this makes no difference
  refine .andThen (programRunning_still hd.toSound) fun wasRunning ↦ .assume ?_
  rintro rfl
  refine .andThen (request_still (d.handle_setTarget target)) fun _ ↦ .assume fun _ ↦ ?_
  refine .andThen (interruptMove_still hm hd'.toSound) fun _ s hs ↦ ?_
  obtain ⟨hresolves, hdecided, hget, hs⟩ := hs
  obtain ⟨id, hok, hid, hs'⟩ := hbegin s.moves s hs
  exact ⟨id, hok, hid.trans hresolves.nextId_eq, s.moves, hresolves, hdecided, hget, hs'⟩

end

end Controller

end FocusDrive
