import FocusDrive.Device.Host
import FocusDrive.Proofs.Controller.Registry
import FocusDrive.Proofs.Device.Standstill

/-!
# The begin of a move over a lossy link

A request may be lost before it reaches the module (`Lossy`). The link says which ones, without any
restriction, and it remembers the requests that were made.

The begin of a move is a sequence of requests, and it fails at the first one that fails. Until the
target is written nothing has changed. But the old move is looked at after that, so a read that
fails then leaves the new target in the module and no move that stands for it. The old move is
decided by then if the look at it was completed. `Aborted` lists the ways to fail, and
`Controller.moveTo_lossy` shows that there is no other.
-/

namespace FocusDrive

/-- A module behind a link that loses requests. -/
structure Lossy where
  /-- The module. -/
  device : Device
  /-- With which error the `n`-th request from now on is lost, if it is lost. -/
  losses : Nat → Option ModuleError
  /-- The requests that were made, newest first. -/
  sent : List Request

namespace Lossy

/-- The request is lost, or the module answers it. -/
def bus : Bus Lossy := fun r l ↦
  let (answer, device) :=
    match l.losses 0 with
    | some e => (.error e, l.device)
    | none => Device.bus r l.device
  (answer, { device, losses := fun n ↦ l.losses (n + 1), sent := r :: l.sent })

/-- Between two calls anything may be done to the module, and any losses may be to come. -/
def setting : Setting Lossy where
  bus := bus
  starts l := l.device.Reachable
  drifts _ l := l.device.Reachable
  admits _ _ := True

end Lossy

/-- Whether the request only reads. -/
def Request.isRead : Request → Bool
  | getParam _ | getGlobal _ => true
  | _ => false

/-- The ways in which the begin of a move to `target` in the session `s` fails: at the request
`failed`, after the requests `earlier`, newest first. -/
inductive Aborted (target : Int32) (s : Session Lossy) (failed : Request) (earlier : List Request)
    (s' : Session Lossy) : Prop
  /-- The first look at the status or the write of the target fails, and nothing has changed. -/
  | unwritten (hrequests : failed = .getGlobal .status ∧ earlier = [] ∨
        failed = .setGlobal Profile.targetPosition target ∧ earlier = [.getGlobal .status])
      (hdevice : s'.link.device = s.link.device) (hmoves : s'.moves = s.moves)
  /-- A read for the look at the old move fails. The target is written, the old move is not
  decided. -/
  | undecided (hread : failed.isRead = true)
      (hwritten : .setGlobal Profile.targetPosition target ∈ earlier)
      (hdevice : s'.link.device = s.link.device.withTarget target) (hmoves : s'.moves = s.moves)
  /-- The second look at the status or the start fails. The target is written, the old move is
  decided. -/
  | unstarted (hfailed : failed = .getGlobal .status ∨ failed = .startProgram)
      (hwritten : .setGlobal Profile.targetPosition target ∈ earlier)
      (hdevice : s'.link.device = s.link.device.withTarget target)
      (hresolves : s.moves.Resolves s'.moves) (hdecided : s'.moves.Decided)

/-- The requests `past` were made, newest first, the module is `d` and the registry is `m`. -/
structure Sent (past : List Request) (d : Device) (m : MoveRegistry) (s : Session Lossy) :
    Prop where
  /-- The requests. -/
  sent : s.link.sent = past
  /-- The module. -/
  device : s.link.device = d
  /-- The registry. -/
  moves : s.moves = m

/-- A read changes nothing in the module. -/
theorem Device.handle_of_isRead (d : Device) {r : Request} (h : r.isRead = true) :
    (d.handle r).2 = d := by
  cases r with
  | getParam => rfl
  | getGlobal =>
    rw [Device.handle]
    split <;> rfl
  | _ => cases h

namespace Controller

variable {past : List Request} {d : Device} {m : MoveRegistry} {α β : Type}

/-! ### Requests that may be lost -/

/-- A request is made in any case, and one that fails changes nothing. -/
theorem request_lossy (r : Request) :
    Meets (Sent past d m) (request Lossy.bus r) fun a s ↦
      (∃ e, a = .error e) ∧ Sent (r :: past) d m s ∨
        (∃ v, a = .ok v) ∧ Sent (r :: past) (d.handle r).2 m s := by
  refine .request fun s hs ↦ ?_
  obtain ⟨rfl, rfl, rfl⟩ := hs
  rw [Lossy.bus]
  cases s.link.losses 0 with
  | some e => exact .inl ⟨⟨_, rfl⟩, rfl, rfl, rfl⟩
  | none =>
    simp only [Device.bus]
    cases hanswer : (s.link.device.handle r).1 with
    | error refusal => exact .inl ⟨⟨_, rfl⟩, rfl, Device.handle_of_error hanswer, rfl⟩
    | ok v => exact .inr ⟨⟨_, rfl⟩, rfl, rfl, rfl⟩

/-- A read is recorded, and whether it is lost or not the module stays as it is. -/
theorem request_of_isRead {r : Request} (h : r.isRead = true) :
    Meets (Sent past d m) (request Lossy.bus r) fun _ ↦ Sent (r :: past) d m := by
  refine (request_lossy r).weaken (fun _ hs ↦ hs) fun _ s hs ↦ ?_
  rcases hs with ⟨-, hs⟩ | ⟨-, hs⟩
  · exact hs
  · rwa [d.handle_of_isRead h] at hs

theorem programRunning_lossy :
    Meets (Sent past d m) (programRunning Lossy.bus) fun _ ↦
      Sent (.getGlobal .status :: past) d m :=
  (request_of_isRead rfl).bind (fun _ ↦ .pure fun _ hs ↦ hs) fun _ _ hs ↦ hs

/-! ### Operations that read -/

/-- The operation makes requests that read, and if it fails the last of them has failed. -/
def Reads (x : Operation Lossy α) : Prop :=
  ∀ past d m, Meets (Sent past d m) x fun a s ↦ ∃ reads, Sent (reads ++ past) d m s ∧
    ∀ e, a = .error e → ∃ failed earlier, reads = failed :: earlier ∧ failed.isRead = true

theorem Reads.pure (a : α) : Reads (Pure.pure a : Operation Lossy α) :=
  fun _ _ _ ↦ .pure fun _ hs ↦ ⟨[], hs, nofun⟩

theorem Reads.request {r : Request} (h : r.isRead = true) : Reads (request Lossy.bus r) :=
  fun _ _ _ ↦ (request_of_isRead h).weaken (fun _ hs ↦ hs) fun _ _ hs ↦
    ⟨[r], hs, fun _ _ ↦ ⟨r, [], rfl, h⟩⟩

/-- Reads after reads are reads. -/
theorem Reads.bind {x : Operation Lossy α} {f : α → Operation Lossy β} (hx : Reads x)
    (hf : ∀ a, Reads (f a)) : Reads (x >>= f) := by
  intro past d m
  refine (hx past d m).bind (fun a s hs ↦ ?_) fun e s hs ↦ ?_
  · obtain ⟨reads, hsent, -⟩ := hs
    obtain ⟨reads', hsent', hfail⟩ := hf a _ d m s hsent
    rw [← List.append_assoc] at hsent'
    refine ⟨reads' ++ reads, hsent', fun e herror ↦ ?_⟩
    obtain ⟨failed, earlier, rfl, hread⟩ := hfail e herror
    exact ⟨failed, earlier ++ reads, rfl, hread⟩
  · obtain ⟨reads, hsent, hfail⟩ := hs
    exact ⟨reads, hsent, fun _ _ ↦ hfail e rfl⟩

/-- A look only reads. -/
theorem reads_look (record : MoveRecord) : Reads (look Lossy.bus record) := by
  rw [look]
  split
  · refine .bind (.bind (.request rfl) fun _ ↦ .pure _) fun running ↦ ?_
    split
    · exact .pure _
    · exact .bind (.request rfl) fun _ ↦ .pure _
  · exact .pure _

/-- Requests that read were made after `past`. If the operation fails, the last of them has failed
and the registry is as it was. -/
def AfterReads (past : List Request) (d : Device) (m : MoveRegistry) (a : Except DriveError α)
    (s : Session Lossy) : Prop :=
  ∃ reads, s.link.sent = reads ++ past ∧ s.link.device = d ∧
    ∀ e, a = .error e → s.moves = m ∧
      ∃ failed earlier, reads = failed :: earlier ∧ failed.isRead = true

/-- An operation that succeeded may have read as much as it liked. -/
theorem AfterReads.of_ok {s : Session Lossy} {v : α} (reads : List Request)
    (hsent : s.link.sent = reads ++ past) (hdevice : s.link.device = d) :
    AfterReads past d m (.ok v) s := by
  refine ⟨reads, hsent, hdevice, fun e herror ↦ ?_⟩
  cases herror

/-- A look at a move on record fails only if a read does, and then the registry is as it was. -/
theorem moveStatus_lossy {id : Nat} {record : MoveRecord} (hget : m.get? id = some record)
    (clear : Bool) :
    Meets (Sent past d m) (moveStatus Lossy.bus id clear) (AfterReads past d m) := by
  rw [moveStatus_eq]
  refine .bindRegistry (fun _ hs ↦ hs.moves) ?_
  rw [hget]
  refine (reads_look record past d m).bind (fun status s hs ↦ ?_) fun e s hs ↦ ?_
  · obtain ⟨reads, hsent, -⟩ := hs
    rw [run_report]
    exact .of_ok reads hsent.sent hsent.device
  · obtain ⟨reads, hsent, hfail⟩ := hs
    exact ⟨reads, hsent.sent, hsent.device, fun _ _ ↦ ⟨hsent.moves, hfail e rfl⟩⟩

/-- An interruption only reads, so a loss in it leaves the module alone. -/
theorem interruptMove_lossy :
    Meets (Sent past d m) (interruptMove Lossy.bus) (AfterReads past d m) := by
  refine meets_interruptMove _ (fun _ hs ↦ hs.moves) (fun _ _ hs ↦ .of_ok [] hs.sent hs.device) ?_
  intro id record _ hget
  refine (moveStatus_lossy hget false).bind (fun polled s hs ↦ ?_) fun e s hs ↦ ?_
  · obtain ⟨reads, hsent, hdevice, -⟩ := hs
    split
    · exact .of_ok reads hsent hdevice
    · exact .of_ok reads hsent hdevice
  · obtain ⟨reads, hsent, hdevice, hfail⟩ := hs
    exact ⟨reads, hsent, hdevice, fun _ _ ↦ hfail e rfl⟩

/-- If a loss ends the last part of a move, it is that of the second read or of the start. -/
theorem ensureRunning_lossy (wasRunning : Bool) :
    Meets (Sent past d m) (ensureRunning Lossy.bus wasRunning) fun a s ↦ ∀ e, a = .error e →
      ∃ failed earlier, (failed = .getGlobal .status ∨ failed = .startProgram) ∧
        Sent (failed :: earlier ++ past) d m s := by
  have hstart (past : List Request) : Meets (Sent past d m) (request Lossy.bus .startProgram)
      fun a s ↦ ∀ e, a = .error e → Sent (.startProgram :: past) d m s := by
    refine (request_lossy _).weaken (fun _ hs ↦ hs) fun a s hs e herror ↦ ?_
    rcases hs with ⟨-, hs⟩ | ⟨⟨v, hok⟩, -⟩
    · exact hs
    · rw [hok] at herror
      cases herror
  cases wasRunning with
  | false =>
    exact (hstart past).weaken (fun _ hs ↦ hs) fun _ _ hs e herror ↦
      ⟨.startProgram, [], .inr rfl, hs e herror⟩
  | true =>
    refine programRunning_lossy.bind (fun running ↦ ?_) fun e s hs _ _ ↦
      ⟨.getGlobal .status, [], .inl rfl, hs⟩
    split
    · exact (hstart _).weaken (fun _ hs ↦ hs) fun _ _ hs e herror ↦
        ⟨.startProgram, [.getGlobal .status], .inr rfl, hs e herror⟩
    · exact .pure fun _ _ ↦ nofun

/-! ### The begin of a move -/

/-- The begin of a move to `target` in the session `s` did not fail, or it did in one of the ways
that are listed. -/
def MayAbort (target : Int32) (s : Session Lossy) (a : Except DriveError Nat) (s' : Session Lossy) :
    Prop :=
  ∀ e, a = .error e → ∃ failed earlier,
    s'.link.sent = failed :: earlier ++ s.link.sent ∧ Aborted target s failed earlier s'

variable {s : Session Lossy}

/-- What follows the interruption of the old move. -/
theorem moveTo_interrupted {target : Int32} {reads : List Request} (wasRunning : Bool)
    (hresolves : s.moves.Resolves m) (hdecided : m.Decided) :
    Meets (Sent (reads ++ .setGlobal Profile.targetPosition target :: .getGlobal .status ::
        s.link.sent) (s.link.device.withTarget target) m)
      (ensureRunning Lossy.bus wasRunning >>= fun _ ↦ issue target) (MayAbort target s) := by
  refine (ensureRunning_lossy wasRunning).bind (fun _ s' _ ↦ ?_) fun e s' hs' _ _ ↦ ?_
  · rw [run_issue]
    exact nofun
  obtain ⟨failed, earlier, hfailed, hsent⟩ := hs' e rfl
  refine ⟨failed, earlier ++ reads ++ [.setGlobal Profile.targetPosition target,
    .getGlobal .status], ?_, .unstarted hfailed (by simp) hsent.device ?_ ?_⟩
  · rw [hsent.sent]
    simp
  · rw [hsent.moves]
    exact hresolves
  · rw [hsent.moves]
    exact hdecided

/-- What follows the write of the target. -/
theorem moveTo_written (hm : s.moves.Coherent) (target : Int32) (wasRunning : Bool) :
    Meets (Sent (.setGlobal Profile.targetPosition target :: .getGlobal .status :: s.link.sent)
        (s.link.device.withTarget target) s.moves)
      (do
        interruptMove Lossy.bus
        ensureRunning Lossy.bus wasRunning
        issue target)
      (MayAbort target s) := by
  refine (((interruptMove_moves hm).and interruptMove_lossy).weaken
    (fun _ hs ↦ ⟨hs.moves, hs⟩) fun _ _ h ↦ h).bind (fun _ s₁ hs₁ ↦ ?_) fun e s₁ hs₁ _ _ ↦ ?_
  · obtain ⟨⟨hresolves, hdecided⟩, reads, hsent, hdevice, -⟩ := hs₁
    exact moveTo_interrupted wasRunning hresolves (hdecided () rfl) s₁ ⟨hsent, hdevice, rfl⟩
  · obtain ⟨-, reads, hsent, hdevice, hfail⟩ := hs₁
    obtain ⟨hmoves, failed, earlier, rfl, hread⟩ := hfail e rfl
    refine ⟨failed, earlier ++ [.setGlobal Profile.targetPosition target, .getGlobal .status], ?_,
      .undecided hread (by simp) hdevice hmoves⟩
    rw [hsent]
    simp

/-- A move that fails has lost one of its requests, and what was done before is told by which
one. -/
theorem moveTo_lossy (hm : s.moves.Coherent) (target : Int32) :
    Meets (fun s' ↦ s' = s) (moveTo Lossy.bus target) (MayAbort target s) := by
  rw [moveTo_eq]
  refine Meets.bind (R := fun _ ↦ Sent (.getGlobal .status :: s.link.sent) s.link.device s.moves)
    ?_ (fun wasRunning ↦ ?_) ?_
  · rintro _ rfl
    exact programRunning_lossy _ ⟨rfl, rfl, rfl⟩
  · refine (request_lossy _).bind (fun _ s₁ hs₁ ↦ ?_) fun e s₁ hs₁ _ _ ↦ ?_
    · rcases hs₁ with ⟨⟨_, herror⟩, -⟩ | ⟨-, hs₁⟩
      · cases herror
      · exact moveTo_written hm target wasRunning s₁ hs₁
    · rcases hs₁ with ⟨-, hs₁⟩ | ⟨⟨_, hok⟩, -⟩
      · exact ⟨_, [.getGlobal .status], hs₁.sent, .unwritten (.inr ⟨rfl, rfl⟩) hs₁.device hs₁.moves⟩
      · cases hok
  · intro e s₁ hs₁ _ _
    exact ⟨_, [], hs₁.sent, .unwritten (.inl ⟨rfl, rfl⟩) hs₁.device hs₁.moves⟩

/-- **The begin of a move that fails.** It records no new move. If it fails at the first request or
at the write of the target, nothing has changed. Any later failure leaves the target written: at a
read for the look at the old move the records are as they were, and after that the old move is
decided. -/
theorem Run.moveTo_error {ids : List Nat} (h : Run Lossy.setting ids s) {target : Int32}
    {e : DriveError} {s' : Session Lossy}
    (hcall : (Controller.perform Lossy.bus (.moveTo target)).run.run s = (.error e, s')) :
    s'.moves.lastId = s.moves.lastId ∧
      s'.moves.records.map (·.id) = s.moves.records.map (·.id) ∧
      ∃ failed earlier, s'.link.sent = failed :: earlier ++ s.link.sent ∧
        Aborted target s failed earlier s' := by
  have hm := h.coherent.1
  have hresolves := (effect_of_perform (w := Lossy.setting) hm hcall).resolves_of_error
  refine ⟨hresolves.lastId_eq, hresolves.ids_eq, ?_⟩
  have haborted := moveTo_lossy hm target s rfl
  rw [show (moveTo Lossy.bus target).run.run s = (.error e, s') from hcall] at haborted
  exact haborted e rfl

/-- A fresh module behind a link that loses the `k`-th request. -/
def losing (k : Nat) : Lossy where
  device := .initial 0 programMemory
  losses n := if n = k then some (.communication "timeout") else none
  sent := []

/-- The session with a move to `500` in progress on a link that loses a later request. -/
def underLoss (k : Nat) : Session Lossy :=
  ((Controller.perform Lossy.bus (.moveTo 500)).run.run
    ⟨{ config := {} }, ((connect Lossy.bus {}).run.run (losing k)).2⟩).2

/-- A link that loses a request later on can be set up. -/
theorem run_underLoss {k : Nat} (hconnect : ((connect Lossy.bus {}).run.run (losing k)).1 =
      .ok { config := {} })
    (hcall : ((Controller.perform Lossy.bus (.moveTo 500)).run.run
      ⟨{ config := {} }, ((connect Lossy.bus {}).run.run (losing k)).2⟩).1 = .ok 0) :
    Run Lossy.setting [0] (underLoss k) := by
  have hstart : Lossy.setting.starts (losing k) := .initial 0 programMemory
  have hnew := Run.ofConnect hstart hconnect
  exact hnew.call trivial (Prod.ext hcall rfl)

/-- The write of the second target is lost, and the first move goes on. -/
theorem Run.moveTo_error_unwritten :
    ∃ s e s', Run Lossy.setting [0] s ∧
      (Controller.perform Lossy.bus (.moveTo 600)).run.run s = (.error e, s') ∧
      s'.moves.lastId = s.moves.lastId ∧
      (∃ failed earlier, s'.link.sent = failed :: earlier ++ s.link.sent ∧
        Aborted 600 s failed earlier s') ∧
      s'.link.device.registers.global Profile.targetPosition = 500 ∧
      s'.moves.records = [⟨0, 500, .moving⟩] := by
  have hrun := run_underLoss (k := 10) (by decide +kernel) (by decide +kernel)
  have hfails : ((Controller.perform Lossy.bus (.moveTo 600)).run.run (underLoss 10)).1 =
      .error (.transport (.communication "timeout")) := by decide +kernel
  obtain ⟨hlast, -, haborted⟩ := hrun.moveTo_error (Prod.ext hfails rfl)
  exact ⟨_, _, _, hrun, Prod.ext hfails rfl, hlast, haborted, by decide +kernel, by decide +kernel⟩

/-- The second look at the status is lost. The module heads for `600`, the move to `500` counts as
interrupted, and there is no other. -/
theorem Run.moveTo_error_halfway :
    ∃ s e s', Run Lossy.setting [0] s ∧ s.moves.records = [⟨0, 500, .moving⟩] ∧
      s.link.device.registers.global Profile.targetPosition = 500 ∧
      (Controller.perform Lossy.bus (.moveTo 600)).run.run s = (.error e, s') ∧
      s'.link.sent.head? = some (.getGlobal .status) ∧
      s'.link.device.registers.global Profile.targetPosition = 600 ∧
      s'.moves.records = [⟨0, 500, .interrupted⟩] := by
  have hrun := run_underLoss (k := 12) (by decide +kernel) (by decide +kernel)
  have hfails : ((Controller.perform Lossy.bus (.moveTo 600)).run.run (underLoss 12)).1 =
      .error (.transport (.communication "timeout")) := by decide +kernel
  exact ⟨_, _, _, hrun, by decide +kernel, by decide +kernel, Prod.ext hfails rfl,
    by decide +kernel, by decide +kernel, by decide +kernel⟩

end Controller

end FocusDrive
