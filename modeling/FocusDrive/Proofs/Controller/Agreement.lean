import FocusDrive.Proofs.Controller.Clocked

/-!
# Controller and module agree

The controller believes a move to be in progress; the module has a target, a program that runs or
has ended, and a motor. `Agreement` is what ties the two together between calls: a move that is on
record as moving is the one that the module is on course to.

Inside a call it need not hold. A new move writes the target before the old move is taken off the
books, and during these requests the program may end at any moment, on the old target or on the new
one. So a call is not followed through its interleavings. Each step is given the property of the
module that it needs and that ticks do not destroy: from the write of the target on, that the target
is the new one; from the start or the second look at the status on, that the module is on course to
it.
-/

namespace FocusDrive

/-- The moves in progress are those that the module is on course to. -/
def Fulfills (m : MoveRegistry) (d : Device) : Prop :=
  d.Profiled ∧ ∀ r ∈ m.records, r.status = .moving → d.OnCourse r.target

/-- Between two calls the controller's moves and the module agree. -/
structure Agreement (s : Session Clocked) : Prop where
  /-- The registry is coherent. -/
  coherent : s.moves.Coherent
  /-- The module does what the registry says. -/
  fulfills : Fulfills s.moves s.link.device

variable {m : MoveRegistry} {t : Int32}

theorem MoveStatus.ofHalt_self (p : Int32) : ofHalt p p = done := by
  simp [ofHalt]

/-! ### Lasting properties -/

/-- Time does not take the profile program away. -/
theorem lasting_profiled : Lasting Device.Profiled where
  sound _ hd := hd.toSound
  tick _ hd := hd.tick

/-- Time does not change the target. -/
theorem lasting_target :
    Lasting fun d ↦ d.Profiled ∧ d.registers.global Profile.targetPosition = t :=
  lasting_profiled.and fun _ hd htarget ↦ hd.tick_cases.2.1.trans htarget

/-- Time does not take a module off its course. -/
theorem lasting_onCourse : Lasting fun d ↦ d.Profiled ∧ d.OnCourse t :=
  lasting_profiled.and fun _ hd hcourse ↦ hcourse.tick hd

/-- Time takes no module away from what its moves ask of it. -/
theorem lasting_fulfills : Lasting (Fulfills m) :=
  lasting_profiled.and fun _ hd hcourse r hr hmoving ↦ (hcourse r hr hmoving).tick hd

/-! ### Calls and the module -/

namespace Controller

/-- No request but a download makes a module lose the profile program. -/
theorem request_profiled {r : Request} (hr : ∀ program, r ≠ .upload program) :
    Meets (fun s ↦ s.link.device.Profiled) (request Clocked.bus r)
      fun _ s ↦ s.link.device.Profiled :=
  .request fun _ hs ↦ (lasting_profiled.runTicks hs _).handle hr

/-- The target is written, however late the request arrives. -/
theorem writeTarget (t : Int32) :
    Succeeds (At m Device.Profiled) (request Clocked.bus (.setGlobal Profile.targetPosition t))
      fun _ ↦ At m fun d ↦
        d.Profiled ∧ d.registers.global Profile.targetPosition = t := by
  refine lasting_profiled.request fun d hd ↦ ⟨(), rfl, ?_, ?_⟩
  · exact hd.handle (r := .setGlobal Profile.targetPosition t) nofun
  · exact UserTable.get_set_self _ _ t

/-- The start of the program puts the module on course to the target that was written. -/
theorem startProgram_onCourse :
    Succeeds (At m fun d ↦ d.Profiled ∧ d.registers.global Profile.targetPosition = t)
      (request Clocked.bus .startProgram) fun _ ↦ At m fun d ↦ d.Profiled ∧ d.OnCourse t := by
  refine lasting_target.request fun d hd ↦ ⟨(), ?_⟩
  rw [Device.handle_startProgram hd.1.program]
  exact ⟨rfl, hd.1.start, Device.onCourse_start hd.2⟩

/-- Wherever the program ended in the meantime, it is made to run toward the target that was
written. -/
theorem ensureRunning_onCourse (wasRunning : Bool) :
    Succeeds (At m fun d ↦ d.Profiled ∧ d.registers.global Profile.targetPosition = t)
      (ensureRunning Clocked.bus wasRunning) fun _ ↦ At m fun d ↦
        d.Profiled ∧ d.OnCourse t := by
  cases wasRunning with
  | false => exact startProgram_onCourse
  | true =>
    refine .andThen lasting_target.programRunning fun running ↦ ?_
    cases running with
    | false => exact startProgram_onCourse.weaken (fun s hs ↦ ⟨hs.1, hs.2.1⟩) fun _ _ h ↦ h
    | true =>
      refine .succeed fun s hs ↦ ?_
      obtain ⟨hm, ⟨hprofiled, htarget⟩, hrun⟩ := hs
      exact ⟨hm, hprofiled, htarget, .inl hrun.symm⟩

/-- The begin of a move succeeds, and the module is on course to the target. -/
theorem moveTo_onCourse (t : Int32) :
    Succeeds (At m Device.Profiled) (moveTo Clocked.bus t) fun _ s ↦
      s.link.device.Profiled ∧ s.link.device.OnCourse t := by
  rw [moveTo_eq]
  refine .andThen lasting_profiled.programRunning fun wasRunning ↦ ?_
  refine .andThen ((writeTarget t).weaken (fun s hs ↦ ⟨hs.1, hs.2.1⟩) fun _ _ h ↦ h) fun _ ↦ ?_
  have hrest (m : MoveRegistry) :
      Succeeds (At m fun d ↦ d.Profiled ∧ d.registers.global Profile.targetPosition = t)
        (ensureRunning Clocked.bus wasRunning >>= fun _ ↦ issue t) fun _ s ↦
          s.link.device.Profiled ∧ s.link.device.OnCourse t := by
    refine .andThen (ensureRunning_onCourse wasRunning) fun _ s hs ↦ ?_
    rw [run_issue]
    exact ⟨_, rfl, hs.2⟩
  -- the interruption may have changed the registry, which does not matter to the module
  exact .andThen lasting_target.interruptMove fun _ s hs ↦ hrest s.moves s ⟨rfl, hs⟩

/-- Requests that follow an interruption find no move in progress. -/
theorem interruptMove_requests (hm : m.Coherent) (r r' : Request)
    (hr : ∀ program, r ≠ .upload program) (hr' : ∀ program, r' ≠ .upload program) :
    Meets (At m Device.Profiled)
      (interruptMove Clocked.bus >>= fun _ ↦ request Clocked.bus r >>= fun _ ↦
        request Clocked.bus r') fun _ s ↦ s.moves.Decided ∧ s.link.device.Profiled := by
  have hmoves : KeepsMoves (request Clocked.bus r >>= fun _ ↦ request Clocked.bus r') :=
    .bind (.request r) fun _ ↦ .request r'
  have hdevice : Meets (fun s ↦ s.link.device.Profiled)
      (request Clocked.bus r >>= fun _ ↦ request Clocked.bus r')
      fun _ s ↦ s.link.device.Profiled :=
    .bind (request_profiled hr) (fun _ ↦ request_profiled hr') fun _ _ h ↦ h
  refine .andThen (lasting_profiled.interruptMove_decided hm) fun _ s hs ↦ ?_
  obtain ⟨-, hdecided, hprofiled⟩ := hs
  have hkeep := hmoves s.moves s rfl
  refine ⟨?_, hdevice s hprofiled⟩
  rw [hkeep]
  exact hdecided

/-- No call replaces the profile program. -/
theorem perform_profiled (hm : m.Coherent) (c : Call) :
    Meets (At m Device.Profiled) (perform Clocked.bus c) fun _ s ↦ s.link.device.Profiled := by
  intro s hs
  cases c with
  | moveTo target =>
    obtain ⟨_, -, hprofiled, -⟩ := moveTo_onCourse target s hs
    exact hprofiled
  | moveStatus id clear => exact lasting_profiled.moveStatus id clear s hs
  | rotate speed =>
    exact (interruptMove_requests hm .stopProgram (.rotate speed) nofun nofun s hs).2
  | stop => exact (interruptMove_requests hm .stopProgram .stop nofun nofun s hs).2
  | targetPosition =>
    obtain ⟨_, -, -, hprofiled⟩ := lasting_profiled.targetPosition s hs
    exact hprofiled
  | position =>
    obtain ⟨_, -, -, hprofiled, -⟩ := lasting_profiled.position s hs
    exact hprofiled
  | setEncoder count =>
    exact request_profiled (r := .setParam .encoderPosition count) nofun s hs.2
  | pendingMoves => exact hs.2

/-! ### Calls and agreement -/

/-- Where no move is in progress there is nothing for the module to keep. -/
theorem agreement_of_decided {s : Session Clocked} (hm : s.moves.Coherent)
    (hdecided : s.moves.Decided) (hprofiled : s.link.device.Profiled) : Agreement s :=
  ⟨hm, hprofiled, fun r hr hmoving ↦ absurd hmoving (hdecided r hr)⟩

/-- **Every call keeps the agreement.** -/
theorem perform_agreement {s : Session Clocked} (hs : Agreement s) {c : Call}
    (hadmits : Clocked.setting.admits s c) : Agreement ((perform Clocked.bus c).run.run s).2 := by
  have heffect : c.Effect s.moves ((perform Clocked.bus c).run.run s).1
      ((perform Clocked.bus c).run.run s).2.moves := perform_effect hs.coherent c s rfl
  have hcoherent := (heffect.coherent hs.coherent).1
  have hat : At s.moves Device.Profiled s := ⟨rfl, hs.fulfills.1⟩
  have hprofiled := perform_profiled hs.coherent c s hat
  -- a call that only looks leaves the module on course to every target that it was on course to
  have hlook (hc : ∀ target, c ≠ .moveTo target)
      (hd : Fulfills s.moves ((perform Clocked.bus c).run.run s).2.link.device) :
      Agreement ((perform Clocked.bus c).run.run s).2 :=
    ⟨hcoherent, hd.1, fun r hr hmoving ↦ hd.2 r (heffect.mem_of_moving hc hr hmoving) hmoving⟩
  cases c with
  | moveTo target =>
    obtain ⟨id, hid, -, hcourse⟩ := moveTo_onCourse target s hat
    have hok : ((perform Clocked.bus (.moveTo target)).run.run s).1 = .ok id := hid
    rw [hok] at heffect
    obtain ⟨-, m₁, -, hdecided, hmoves⟩ := heffect
    refine ⟨hcoherent, hprofiled, ?_⟩
    intro r hr hmoving
    rw [hmoves] at hr
    rcases List.mem_cons.mp hr with rfl | hr
    · exact hcourse
    · exact absurd hmoving (hdecided r hr)
  | moveStatus id clear =>
    exact hlook nofun (lasting_fulfills.moveStatus id clear s ⟨rfl, hs.fulfills⟩)
  | rotate speed =>
    have hdecided := (interruptMove_requests hs.coherent .stopProgram (.rotate speed) nofun nofun s
      hat).1
    exact agreement_of_decided hcoherent hdecided hprofiled
  | stop =>
    have hdecided := (interruptMove_requests hs.coherent .stopProgram .stop nofun nofun s hat).1
    exact agreement_of_decided hcoherent hdecided hprofiled
  | targetPosition =>
    obtain ⟨_, -, -, hd⟩ := lasting_fulfills.targetPosition s ⟨rfl, hs.fulfills⟩
    exact hlook nofun hd
  | position =>
    obtain ⟨_, -, -, hd, -⟩ := lasting_fulfills.position s ⟨rfl, hs.fulfills⟩
    exact hlook nofun hd
  | setEncoder count =>
    have hdecided : ((perform Clocked.bus (.setEncoder count)).run.run s).2.moves.Decided :=
      hadmits count rfl
    exact agreement_of_decided hcoherent hdecided hprofiled
  | pendingMoves => exact hlook nofun hs.fulfills

/-! ### Runs -/

/-- The program is downloaded while none runs. -/
theorem connect_profiled (config : DeviceConfig) :
    Yields (fun l ↦ l.device.Sound) (connect Clocked.bus config) fun _ l ↦ l.device.Profiled := by
  have hsound : Lasting Device.Sound := ⟨fun _ h ↦ h, fun d _ ↦ d.sound_tick⟩
  have hstop : Yields (fun l ↦ l.device.Sound) (Clocked.bus.request .transport .stopProgram)
      fun _ l ↦ l.device.Sound ∧ l.device.isRunning = false :=
    hsound.busRequest (R := fun _ d ↦ d.Sound ∧ d.isRunning = false) fun d hd _ _ ↦
      ⟨hd.handle .stopProgram, rfl⟩
  -- the requests after the first find a module whose program has ended, and leave it so
  have hkeep {r : Request} {failure : ModuleError → DriveError}
      (hr : r.isProgramControl = false) :
      Yields (fun l ↦ l.device.Sound ∧ l.device.isRunning = false)
        (Clocked.bus.request failure r) fun _ l ↦
          l.device.Sound ∧ l.device.isRunning = false := by
    refine hsound.idle.busRequest (R := fun _ d ↦ d.Sound ∧ d.isRunning = false)
      fun d hd _ _ ↦ ⟨hd.1.handle r, ?_⟩
    show (d.handle r).2.interpreter.isRunning = false
    rw [(d.handle_frame hr).2]
    exact hd.2
  have hupload : Yields (fun l ↦ l.device.Sound ∧ l.device.isRunning = false)
      (Clocked.bus.request (.setup .uploadProgram) (.upload profile)) fun _ l ↦
        l.device.Profiled := by
    refine hsound.idle.busRequest (R := fun _ ↦ Device.Profiled) fun d hd u hu ↦ ?_
    rcases Device.profiled_upload hd.1 hd.2 with ⟨e, herror⟩ | hprofiled
    · rw [herror] at hu
      cases hu
    · exact hprofiled
  rw [connect]
  refine .bindYields hstop fun _ ↦ ?_
  iterate 4 refine .bindYields (hkeep rfl) fun _ ↦ ?_
  exact .bindYields hupload fun _ ↦ .yield fun _ hl ↦ hl

variable {ids : List Nat} {s : Session Clocked}

/-- In every state between two calls controller and module agree. -/
theorem Run.agrees (h : Run Clocked.setting ids s) : Agreement s := by
  induction h with
  | @connect config controller link link' hstart hconnect =>
    have hprofiled := connect_profiled config link hstart.sound
    have hempty := connect_moves Clocked.bus config link trivial
    have hrun : (FocusDrive.connect Clocked.bus config).run.run link = (.ok controller, link') :=
      hconnect
    rw [hrun] at hprofiled hempty
    have hmoves := hempty controller rfl
    refine agreement_of_decided ?_ ?_ (hprofiled controller rfl)
    · show controller.moves.Coherent
      rw [hmoves]
      exact MoveRegistry.coherent_empty
    · show controller.moves.Decided
      rw [hmoves]
      exact fun _ hr ↦ absurd hr List.not_mem_nil
  | @drift ids s link _ hdrift ih =>
    obtain ⟨n, hdevice⟩ := hdrift
    refine ⟨ih.coherent, ?_⟩
    show Fulfills s.moves link.device
    rw [hdevice]
    exact lasting_fulfills.runTicks ih.fulfills n
  | @call ids s s' c a _ hadmits hcall ih =>
    have hagree := perform_agreement ih hadmits
    rw [show (Controller.perform Clocked.bus c).run.run s = (a, s') from hcall] at hagree
    exact hagree

/-- **Controller and module agree under any interleaving.** However many ticks pass before each
request, in every state between two calls the module is on course to the target of the move on
record as moving. A new move is always accepted, and the module is on course to its target when the
call returns, also if the program ended during the call. A look at a move in progress finds it
moving, or done with the encoder exactly on its target, and never failed. -/
theorem Run.moving_onCourse (h : Run Clocked.setting ids s) :
    (∀ r ∈ s.moves.records, r.status = .moving → s.link.device.OnCourse r.target) ∧
      (∀ target, ∃ id s',
        (Controller.perform Clocked.bus (.moveTo target)).run.run s = (.ok id, s') ∧
          ⟨id, target, .moving⟩ ∈ s'.moves.records ∧ s'.link.device.OnCourse target) ∧
      ∀ r ∈ s.moves.records, r.status = .moving → ∀ clear, ∃ status s',
        (Controller.perform Clocked.bus (.moveStatus r.id clear)).run.run s =
            (.ok { r with status }, s') ∧
          (status = .moving ∨ status = .done ∧ s'.link.device.encoder = r.target) := by
  have hs := h.agrees
  refine ⟨hs.fulfills.2, ?_, ?_⟩
  · intro target
    obtain ⟨id, hid, -, hcourse⟩ := moveTo_onCourse target s ⟨rfl, hs.fulfills.1⟩
    have heffect : (Call.moveTo target).Effect s.moves
        ((moveTo Clocked.bus target).run.run s).1 ((moveTo Clocked.bus target).run.run s).2.moves :=
      moveTo_effect hs.coherent target s rfl
    rw [hid] at heffect
    obtain ⟨rfl, m₁, hresolves, -, hmoves⟩ := heffect
    refine ⟨_, _, Prod.ext hid rfl, ?_, hcourse⟩
    rw [← hresolves.nextId_eq]
    show _ ∈ ((moveTo Clocked.bus target).run.run s).2.moves.records
    rw [hmoves]
    exact List.mem_cons_self
  · intro r hr hmoving clear
    have hget := hs.coherent.get?_of_mem hr
    have hcourse := hs.fulfills.2 r hr hmoving
    obtain ⟨polled, hanswer, ⟨-, hcourse'⟩, hpolled, hstatus⟩ :=
      lasting_onCourse.moveStatus_of_get? hget clear s ⟨rfl, hs.fulfills.1, hcourse⟩
    rw [hpolled] at hanswer
    refine ⟨polled.status, _, Prod.ext hanswer rfl, (hstatus hmoving).imp_right fun h ↦ ?_⟩
    -- a program that has ended has ended on the target
    obtain ⟨hidle, hhalt⟩ := h
    obtain ⟨-, hrun | ⟨-, hencoder, -⟩⟩ := hcourse'
    · rw [hidle] at hrun
      cases hrun
    · rw [hencoder, MoveStatus.ofHalt_self] at hhalt
      exact ⟨hhalt, hencoder⟩

/-- A fresh module on which every request takes three ticks longer than the one before. -/
def slowing : Clocked where
  device := .initial 0 programMemory
  delays n := 3 * n

/-- A first move is on its way for five hundred ticks, and a second one takes over. -/
theorem Run.moving_onCourse_slowing :
    ∃ ids s, Run Clocked.setting ids s ∧
      (∃ r ∈ s.moves.records, r.status = .moving ∧ s.link.device.OnCourse 1000) ∧
      ∃ id s', (Controller.perform Clocked.bus (.moveTo (-5))).run.run s = (.ok id, s') ∧
        s'.link.device.OnCourse (-5) := by
  have hconnect : ((FocusDrive.connect Clocked.bus {}).run.run slowing).1 =
      .ok { config := {} } := by decide +kernel
  have hstart : Clocked.setting.starts slowing := .initial 0 programMemory
  have hnew := Run.ofConnect hstart hconnect
  obtain ⟨id, s', hcall, hmem, -⟩ := hnew.moving_onCourse.2.1 1000
  have hmoving := hnew.call (c := .moveTo 1000) nofun hcall
  have hdrift (n : Nat) : Clocked.setting.drifts s'.link
      { s'.link with device := Device.runTicks n s'.link.device } := ⟨n, rfl⟩
  have hlater := hmoving.drift (hdrift 500)
  obtain ⟨hcourse, hretarget, -⟩ := hlater.moving_onCourse
  obtain ⟨id', s'', hcall', -, hcourse'⟩ := hretarget (-5)
  exact ⟨_, _, hlater, ⟨_, hmem, rfl, hcourse _ hmem rfl⟩, id', s'', hcall', hcourse'⟩

end Controller

end FocusDrive
