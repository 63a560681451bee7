import FocusDrive.Proofs.Controller.Registry
import FocusDrive.Proofs.Device.Profiled

/-!
# A controller on a module that has a clock

Time passes between any two requests, also between those of one operation. The link `Clocked` says
how much: it carries the module and the numbers of ticks that pass before each request to come.
Nothing is assumed about these numbers.

What a controller may rely on between two requests is a property of the module that ticks do not
destroy (`Lasting`). The contracts here say what the reading operations find out about such a module
and that they leave the property alone. In each of them the answer describes the module as the last
request has left it; the ticks before the next request are accounted for by that request.
-/

namespace FocusDrive

/-- A module with a clock. -/
structure Clocked where
  /-- The module. -/
  device : Device
  /-- How many ticks pass before the `n`-th request from now on. -/
  delays : Nat → Nat

namespace Clocked

/-- Time passes, and the request is answered. -/
def bus : Bus Clocked := fun r l ↦
  let (answer, device) := Device.bus r (Device.runTicks (l.delays 0) l.device)
  (answer, { device, delays := fun n ↦ l.delays (n + 1) })

/-- The module as the next request finds it. -/
def found (l : Clocked) : Device := Device.runTicks (l.delays 0) l.device

/-- The link after one more request. -/
def after (l : Clocked) (r : Request) : Clocked := (bus r l).2

/-- The rule for a request whose answer and effect depend on the module as it is found. -/
theorem busRequest {P : Clocked → Prop} {r : Request} {failure : ModuleError → DriveError}
    {Q : Except DriveError r.Answer → Device → Prop}
    (h : ∀ l, P l → Q (((l.found.handle r).1.mapError Refusal.toModuleError).mapError failure)
      (l.found.handle r).2) :
    Meets P (bus.request failure r) fun a l ↦ Q a l.device :=
  .busRequest h

/-- A controller is constructed on a module in any reachable state. Time passes between two calls,
and the encoder is overwritten only while no move is in progress. -/
def setting : Setting Clocked where
  bus := bus
  starts l := l.device.Reachable
  drifts l l' := ∃ n, l'.device = Device.runTicks n l.device
  admits s c := ∀ count, c = .setEncoder count → s.moves.Decided

end Clocked

/-- A property of sound modules that ticks do not destroy. -/
structure Lasting (D : Device → Prop) : Prop where
  /-- The module is sound. -/
  sound : ∀ d, D d → d.Sound
  /-- A tick keeps the property. -/
  tick : ∀ d, D d → D d.tick.2

/-- The registry is `m`, and the module has the property. -/
def At (m : MoveRegistry) (D : Device → Prop) (s : Session Clocked) : Prop :=
  s.moves = m ∧ D s.link.device

namespace Lasting

variable {D E : Device → Prop} {m : MoveRegistry}

/-- What a tick keeps, any number of ticks keeps. -/
theorem runTicks (hD : Lasting D) {d : Device} (h : D d) (n : Nat) : D (Device.runTicks n d) := by
  induction n generalizing d with
  | zero => exact h
  | succ n ih => exact ih (hD.tick d h)

/-- A request finds the property although it arrives late. -/
theorem found (hD : Lasting D) {l : Clocked} (h : D l.device) : D l.found := hD.runTicks h _

/-- A second property may be kept by ticks only together with the first one. -/
theorem and (hD : Lasting D) (hE : ∀ d, D d → E d → E d.tick.2) : Lasting fun d ↦ D d ∧ E d where
  sound d hd := hD.sound d hd.1
  tick d hd := ⟨hD.tick d hd.1, hE d hd.1 hd.2⟩

/-- A program that has ended stays so until the host starts it. -/
theorem idle (hD : Lasting D) : Lasting fun d ↦ D d ∧ d.isRunning = false := by
  refine hD.and fun d _ hidle ↦ ?_
  rw [Device.tick_of_idle hidle]
  exact hidle

/-! ### Requests -/

/-- The rule for a request that is made on the link. -/
theorem busRequest (hD : Lasting D) {r : Request} {failure : ModuleError → DriveError}
    {R : r.Answer → Device → Prop}
    (h : ∀ d, D d → ∀ v, (d.handle r).1 = .ok v → R v (d.handle r).2) :
    Yields (fun l ↦ D l.device) (Clocked.bus.request failure r) fun v l ↦ R v l.device := by
  refine .busRequest fun l hl v hv ↦ h _ (hD.runTicks hl (l.delays 0)) v ?_
  change ((Device.handle (Device.runTicks (l.delays 0) l.device) r).1.mapError
    Refusal.toModuleError).mapError failure = .ok v at hv
  cases hanswer : (Device.handle (Device.runTicks (l.delays 0) l.device) r).1 with
  | error e =>
    rw [hanswer] at hv
    cases hv
  | ok v' =>
    rw [hanswer] at hv
    exact congrArg Except.ok (Except.ok.inj hv)

/-- The rule for a request that a controller makes and that is answered. -/
theorem request (hD : Lasting D) {r : Request} {R : r.Answer → Device → Prop}
    (h : ∀ d, D d → ∃ v, (d.handle r).1 = .ok v ∧ R v (d.handle r).2) :
    Succeeds (At m D) (Controller.request Clocked.bus r) fun v ↦ At m (R v) := by
  refine .request fun s hs ↦ ?_
  obtain ⟨v, hanswer, hR⟩ := h _ (hD.runTicks hs.2 (s.link.delays 0))
  refine ⟨v, ?_, hs.1, hR⟩
  show ((Device.handle _ r).1.mapError Refusal.toModuleError).mapError _ = _
  rw [hanswer]
  rfl

/-! ### Reading -/

/-- The status register tells whether the program runs. -/
theorem programRunning (hD : Lasting D) :
    Succeeds (At m D) (Controller.programRunning Clocked.bus) fun running ↦
      At m fun d ↦ D d ∧ running = d.isRunning := by
  refine .andThen (hD.request (R := fun status d ↦ D d ∧ status = d.registers.status)
    fun d hd ↦ ⟨_, rfl, hd, rfl⟩) fun status ↦ .succeed fun s hs ↦ ?_
  obtain ⟨hm, hd, hstatus⟩ := hs
  refine ⟨hm, hd, ?_⟩
  rw [hstatus, (hD.sound _ hd).status]
  cases s.link.device.isRunning <;> rfl

/-- The answer is the encoder count at the moment of the read. -/
theorem position (hD : Lasting D) :
    Succeeds (At m D) (Controller.position Clocked.bus) fun p ↦
      At m fun d ↦ D d ∧ p = d.encoder :=
  hD.request fun _ hd ↦ ⟨_, rfl, hd, rfl⟩

/-- Asking for the target only takes time. -/
theorem targetPosition (hD : Lasting D) :
    Succeeds (At m D) (Controller.targetPosition Clocked.bus) fun _ ↦ At m D := by
  refine .andThen hD.programRunning fun running ↦ ?_
  split
  · have hread : Succeeds (At m D)
        (Controller.request Clocked.bus (.getGlobal Profile.targetPosition)) fun _ ↦ At m D :=
      hD.request fun d hd ↦ ⟨_, rfl, hd⟩
    exact hread.weaken (fun _ h ↦ ⟨h.1, h.2.1⟩) fun _ _ h ↦ h
  · exact hD.position.weaken (fun _ h ↦ ⟨h.1, h.2.1⟩)
      fun _ _ ⟨p, hp, hm, hd, _⟩ ↦ ⟨p, hp, hm, hd⟩

/-- A look at a move in progress finds the program running, or it judges the halt by the encoder. -/
theorem look (hD : Lasting D) (record : MoveRecord) :
    Succeeds (At m D) (Controller.look Clocked.bus record) fun status ↦ At m fun d ↦
      D d ∧ (record.status = .moving →
        status = .moving ∨ d.isRunning = false ∧ status = .ofHalt d.encoder record.target) := by
  rw [Controller.look]
  split
  next hmoving =>
    refine .andThen hD.programRunning fun running ↦ ?_
    cases running with
    | true => exact .succeed fun s hs ↦ ⟨hs.1, hs.2.1, fun _ ↦ .inl rfl⟩
    | false =>
      -- the program has ended, so the encoder is read after the end
      refine .andThen (hD.idle.position.weaken (fun s hs ↦ ⟨hs.1, hs.2.1, hs.2.2.symm⟩)
        fun _ _ h ↦ h) fun p ↦ .succeed fun s hs ↦ ?_
      obtain ⟨hm, ⟨hd, hidle⟩, rfl⟩ := hs
      exact ⟨hm, hd, fun _ ↦ .inr ⟨hidle, rfl⟩⟩
  next hdecided => exact .succeed fun s hs ↦ ⟨hs.1, hs.2, fun h ↦ absurd h hdecided⟩

/-- A look at a move on record succeeds. -/
theorem moveStatus_of_get? (hD : Lasting D) {id : Nat} {record : MoveRecord}
    (hget : m.get? id = some record) (clear : Bool) :
    Succeeds (At m D) (Controller.moveStatus Clocked.bus id clear) fun polled s ↦
      D s.link.device ∧ polled = { record with status := polled.status } ∧
        (record.status = .moving → polled.status = .moving ∨ s.link.device.isRunning = false ∧
          polled.status = .ofHalt s.link.device.encoder record.target) := by
  rw [Controller.moveStatus_eq]
  refine .bindRegistry (fun _ hs ↦ hs.1) ?_
  rw [hget]
  refine .andThen (hD.look record) fun status s hs ↦ ?_
  rw [Controller.run_report]
  exact ⟨_, rfl, hs.2.1, rfl, hs.2.2⟩

/-- Looking at a move only takes time, also if it is not on record. -/
theorem moveStatus (hD : Lasting D) (id : Nat) (clear : Bool) :
    Meets (At m D) (Controller.moveStatus Clocked.bus id clear) fun _ s ↦ D s.link.device := by
  cases hget : m.get? id with
  | some record =>
    exact (hD.moveStatus_of_get? hget clear).weaken (fun _ h ↦ h) fun _ _ ⟨_, _, hd, _⟩ ↦ hd
  | none =>
    rw [Controller.moveStatus_eq]
    refine .bindRegistry (fun _ hs ↦ hs.1) ?_
    rw [hget]
    exact .throw fun s hs ↦ hs.2

/-- An interruption succeeds. -/
theorem interruptMove (hD : Lasting D) :
    Succeeds (At m D) (Controller.interruptMove Clocked.bus) fun _ s ↦ D s.link.device := by
  refine Controller.meets_interruptMove _ (fun _ hs ↦ hs.1) (fun _ s hs ↦ ⟨(), rfl, hs.2⟩) ?_
  intro id record _ hget
  refine .andThen (hD.moveStatus_of_get? hget false) fun polled s hs ↦ ?_
  split
  · exact ⟨(), rfl, hs.1⟩
  · exact ⟨(), rfl, hs.1⟩

/-- And it leaves no move in progress. -/
theorem interruptMove_decided (hD : Lasting D) (hm : m.Coherent) :
    Succeeds (At m D) (Controller.interruptMove Clocked.bus) fun _ s ↦
      m.Resolves s.moves ∧ s.moves.Decided ∧ D s.link.device := by
  intro s hs
  obtain ⟨v, hok, hd⟩ := hD.interruptMove s hs
  obtain ⟨hresolves, hdecided⟩ := Controller.interruptMove_moves hm s hs.1
  exact ⟨v, hok, hresolves, hdecided v hok, hd⟩

end Lasting

end FocusDrive
