import FocusDrive.Proofs.Controller.Agreement
import FocusDrive.Proofs.Controller.Event
import FocusDrive.Proofs.Device.Standstill

/-!
# Moves that are superseded

A new move, a rotation and a stop supersede the move in progress. What is written down for it is
decided by one look at the module, and between the call's first request and this look time passes.

A rotation and a stop look before they change anything, so the program they find is still under way
to the old target or has ended on it. A new move looks after its own target was written. If the
program was running when the target reached it and has ended by the time of the look
(`Clocked.Overtaken`), it has ended on the *new* target, and the move that was superseded is judged
by where the other one ended: it is written down as failed although nothing failed
(`Controller.failed_of_overtaken`).

This is the only way in which a move on record fails (`Controller.mem_of_failed`).
-/

namespace FocusDrive

namespace Clocked

/-- The link after the question whether the program runs. -/
def asked (l : Clocked) : Clocked := l.after (.getGlobal .status)

/-- The link after a new target was written. -/
def retargeted (l : Clocked) (target : Int32) : Clocked :=
  l.after (.setGlobal Profile.targetPosition target)

/-- The module as the call takes over: as the new target reaches it, or as it is looked at before
anything is changed. -/
def takenOver (l : Clocked) : Call → Device
  | .moveTo _ => l.asked.found
  | _ => l.found

/-- The program runs when the new target reaches it, and it has ended before the next request. -/
def Overtaken (l : Clocked) (target : Int32) : Prop :=
  l.asked.found.isRunning = true ∧ (l.asked.retargeted target).found.isRunning = false

/-- As in `setting`, but the program does not end between the write of a new target and the look at
the old move. -/
def unovertaken : Setting Clocked where
  bus := bus
  starts := setting.starts
  drifts := setting.drifts
  admits s c := setting.admits s c ∧ ∀ target, c = .moveTo target → ¬s.link.Overtaken target

theorem device_asked (l : Clocked) : l.asked.device = l.found := rfl

end Clocked

/-- What becomes of a move in progress to `old` that the call supersedes. -/
inductive Superseded (l : Clocked) (old : Int32) : Call → MoveStatus → Prop
  /-- It had arrived. -/
  | arrived {c : Call} (hidle : (l.takenOver c).isRunning = false)
      (hencoder : (l.takenOver c).encoder = old) : Superseded l old c .done
  /-- It was under way, also when it was looked at. -/
  | interrupted {c : Call} (hrunning : (l.takenOver c).isRunning = true)
      (hlook : ∀ target, c = .moveTo target → ¬l.Overtaken target) : Superseded l old c .interrupted
  /-- It was under way, and it is judged by where the new move ended. -/
  | overtaken {target : Int32} (hover : l.Overtaken target) :
      Superseded l old (.moveTo target) (.ofHalt target old)

/-- A superseded move fails only if the module has passed it by between the two accesses. -/
theorem Superseded.overtaken_of_failed {l : Clocked} {old : Int32} {c : Call} {status : MoveStatus}
    (h : Superseded l old c status) (hfailed : status = .failed) :
    ∃ target, c = .moveTo target ∧ l.Overtaken target := by
  cases h with
  | arrived | interrupted => cases hfailed
  | @overtaken target hover => exact ⟨target, rfl, hover⟩

namespace Controller

variable {s s' : Session Clocked} {r : MoveRecord}

/-! ### The look at the move -/

/-- The answer is about the module as the request finds it, after the delay. -/
theorem run_programRunning (h : s.link.found.Sound) :
    (programRunning Clocked.bus).run.run s =
      (.ok s.link.found.isRunning, { s with link := s.link.asked }) := by
  have hstatus : (s.link.found.registers.status == GlobalVar.statusRunning) =
      s.link.found.isRunning := by
    rw [h.status]
    cases s.link.found.isRunning <;> rfl
  rw [← hstatus]
  rfl

/-- A look at a move in progress finds its program running, or it reads the encoder after that. -/
theorem run_look (h : s.link.found.Sound) (hmoving : r.status = .moving) :
    (look Clocked.bus r).run.run s =
      if s.link.found.isRunning then (.ok .moving, { s with link := s.link.asked })
      else (.ok (.ofHalt s.link.asked.found.encoder r.target),
        { s with link := s.link.asked.after (.getParam .encoderPosition) }) := by
  rw [look, if_pos hmoving, run_bind, run_programRunning h]
  cases s.link.found.isRunning <;> rfl

/-- What is written down for a move in progress to `old` that is superseded. -/
def verdict (l : Clocked) (old : Int32) : MoveStatus :=
  if l.found.isRunning then .interrupted else .ofHalt l.asked.found.encoder old

/-- The move in progress gets the verdict that the one question about the status allows. -/
theorem run_interruptMove (hs : s.moves.Coherent) (h : s.link.found.Sound)
    (hr : r ∈ s.moves.records) (hmoving : r.status = .moving) :
    ((interruptMove Clocked.bus).run.run s).1 = .ok () ∧
      ((interruptMove Clocked.bus).run.run s).2.moves =
        s.moves.setStatus r.id (verdict s.link r.target) := by
  have hget := hs.get?_of_mem hr
  rw [run_interruptMove_of_known _ (hs.lastId_of_moving r hr hmoving) hget, interruptKnown,
    run_bind, moveStatus_eq, run_bind, run_registry]
  simp only [hget]
  rw [run_bind, run_look h hmoving, verdict]
  cases hrunning : s.link.found.isRunning with
  | true =>
    simp only [if_true, run_report]
    refine ⟨rfl, ?_⟩
    show (s.moves.setStatus r.id .moving).setStatus r.id .interrupted = _
    rw [← hmoving, hs.setStatus_self hr]
  | false =>
    have hne : MoveStatus.ofHalt s.link.asked.found.encoder r.target ≠ .moving :=
      MoveStatus.isTerminal_iff.mp (MoveStatus.isTerminal_ofHalt _ _)
    simp only [Bool.false_eq_true, if_false, run_report, if_neg hne]
    exact ⟨rfl, rfl⟩

/-! ### The call -/

/-- The session in which a call decides the last move. -/
def deciding (s : Session Clocked) : Call → Session Clocked
  | .moveTo target => { s with link := s.link.asked.retargeted target }
  | _ => s

/-- The accesses before the verdict leave the module under the profile program. -/
theorem profiled_deciding (h : s.link.device.Profiled) (c : Call) :
    (deciding s c).link.device.Profiled := by
  cases c with
  | moveTo target =>
    have hasked : s.link.asked.device.Profiled := lasting_profiled.found h
    exact (lasting_profiled.found hasked).handle
      (r := .setGlobal Profile.targetPosition target) nofun
  | _ => exact h

/-- The accesses before the verdict do not touch the records. -/
theorem moves_deciding (s : Session Clocked) (c : Call) : (deciding s c).moves = s.moves := by
  cases c <;> rfl

/-- The interruption writes the verdict down. -/
theorem interruptMove_deciding (hs : Agreement s) (c : Call) (hr : r ∈ s.moves.records)
    (hmoving : r.status = .moving) :
    Succeeds (fun s' ↦ s' = deciding s c) (interruptMove Clocked.bus) fun _ s' ↦
      s'.moves = s.moves.setStatus r.id (verdict (deciding s c).link r.target) := by
  rintro _ rfl
  have hsound := (lasting_profiled.found (profiled_deciding hs.fulfills.1 c)).toSound
  have hmoves := moves_deciding s c
  obtain ⟨hok, hdecided⟩ :=
    run_interruptMove (hmoves ▸ hs.coherent) hsound (hmoves ▸ hr) hmoving
  rw [hmoves] at hdecided
  exact ⟨(), hok, hdecided⟩

/-- The begin of a move comes to its interruption after a request and a write, and the number that
it gives is a new one. -/
theorem get?_moveTo (hs : Agreement s) (target : Int32) (hr : r ∈ s.moves.records)
    (hmoving : r.status = .moving) :
    Meets (fun s' ↦ s' = s) (moveTo Clocked.bus target) fun _ s' ↦ s'.moves.get? r.id =
      some { r with status := verdict (deciding s (.moveTo target)).link r.target } := by
  have hset := hs.coherent.get?_setStatus_self hr
  rw [moveTo_eq]
  refine .andThen (R := fun _ s' ↦ s' = { s with link := s.link.asked }) ?_ fun wasRunning ↦ ?_
  · rintro _ rfl
    rw [run_programRunning (lasting_profiled.found hs.fulfills.1).toSound]
    exact ⟨_, rfl, rfl⟩
  refine .andThen (R := fun _ s' ↦ s' = deciding s (.moveTo target)) ?_ fun _ ↦ ?_
  · exact .request fun s' hs' ↦ ⟨(), hs' ▸ ⟨rfl, rfl⟩⟩
  refine .andThen (interruptMove_deciding hs (.moveTo target) hr hmoving) fun _ ↦ ?_
  refine (keepsMoves_ensureRunning wasRunning _).bind (fun _ s' hs' ↦ ?_) fun _ s' hs' ↦ ?_
  · have hne : s'.moves.nextId ≠ r.id := by
      rw [hs']
      exact Nat.ne_of_gt (hs.coherent.lt_nextId r hr)
    rw [run_issue]
    show (s'.moves.begin target).get? r.id = _
    rw [MoveRegistry.get?_begin, if_neg hne, hs', hset]
  · rw [hs', hset]

/-- The verdict is what is left on record. -/
theorem get?_perform_of_supersedes (hs : Agreement s) {c : Call} (hc : c.supersedes = true)
    (hr : r ∈ s.moves.records) (hmoving : r.status = .moving) :
    ((perform Clocked.bus c).run.run s).2.moves.get? r.id =
      some { r with status := verdict (deciding s c).link r.target } := by
  have hkeep {x : Operation Clocked Unit} (hx : KeepsMoves x) :
      Meets (fun s' ↦ s' = deciding s c) (interruptMove Clocked.bus >>= fun _ ↦ x) fun _ s' ↦
        s'.moves.get? r.id = some { r with status := verdict (deciding s c).link r.target } := by
    refine .andThen (interruptMove_deciding hs c hr hmoving) fun _ ↦
      (hx _).weaken (fun _ h ↦ h) fun _ s' h ↦ ?_
    rw [h, hs.coherent.get?_setStatus_self hr]
  cases c with
  | moveTo target => exact get?_moveTo hs target hr hmoving s rfl
  | rotate speed => exact hkeep (.bind (.request _) fun _ ↦ .request _) s rfl
  | stop => exact hkeep (.bind (.request _) fun _ ↦ .request _) s rfl
  | _ => cases hc

/-- On a module at standstill the encoder gives the verdict. -/
theorem verdict_of_standstill {l : Clocked} (h : l.found.Standstill) (old : Int32) :
    verdict l old = .ofHalt l.found.encoder old := by
  have hencoder : l.asked.found.encoder = l.found.encoder := by
    rw [Clocked.found, Clocked.device_asked, h.runTicks, Device.encoder_aged]
  rw [verdict, h.idle, hencoder]
  rfl

/-- The module as the call takes over is on course to the target of the move in progress. -/
theorem onCourse_takenOver {t : Int32} (h : s.link.device.Profiled ∧ s.link.device.OnCourse t)
    (c : Call) : (s.link.takenOver c).Profiled ∧ (s.link.takenOver c).OnCourse t := by
  have hfound := lasting_onCourse.found h
  cases c with
  | moveTo target =>
    have hasked : s.link.asked.device.Profiled ∧ s.link.asked.device.OnCourse t := hfound
    exact lasting_onCourse.found hasked
  | _ => exact hfound

/-- A module that stands still when the call takes over stands still when it is looked at. -/
theorem verdict_of_halted {c : Call} (h : (s.link.takenOver c).Standstill) (old : Int32) :
    verdict (deciding s c).link old = .ofHalt (s.link.takenOver c).encoder old := by
  cases c with
  | moveTo target =>
    have hwritten := h.withTarget target
    have hfound : (deciding s (.moveTo target)).link.found =
        ((s.link.takenOver (.moveTo target)).withTarget target).aged _ := hwritten.runTicks _
    rw [verdict_of_standstill (hfound ▸ hwritten.aged _), hfound, Device.encoder_aged,
      Device.encoder_withTarget]
  | _ => exact verdict_of_standstill h old

/-- A program that a new target reaches is under way to it when the look comes, or it has ended
there. -/
theorem superseded_of_running {target : Int32} (h : s.link.device.Profiled)
    (hrunning : (s.link.takenOver (.moveTo target)).isRunning = true) (old : Int32) :
    Superseded s.link old (.moveTo target) (verdict (deciding s (.moveTo target)).link old) := by
  obtain ⟨hprofiled, hcourse⟩ := lasting_onCourse.found
    ⟨profiled_deciding h (.moveTo target), Device.global_withTarget _ target, .inl hrunning⟩
  cases hlook : (deciding s (.moveTo target)).link.found.isRunning with
  | true =>
    rw [verdict, if_pos hlook]
    refine .interrupted hrunning ?_
    intro target' htarget hover
    obtain rfl := Call.moveTo.inj htarget
    exact absurd (hlook.symm.trans hover.2) (by decide)
  | false =>
    obtain ⟨hstill, hencoder⟩ := hcourse.standstill hprofiled.toSound hlook
    rw [verdict_of_standstill hstill, hencoder]
    exact .overtaken ⟨hrunning, hlook⟩

/-- **What becomes of a move that is superseded.** -/
theorem perform_supersedes (hs : Agreement s) {c : Call} (hc : c.supersedes = true)
    (hr : r ∈ s.moves.records) (hmoving : r.status = .moving) :
    ∃ status, ((perform Clocked.bus c).run.run s).2.moves.get? r.id = some { r with status } ∧
      Superseded s.link r.target c status := by
  refine ⟨_, get?_perform_of_supersedes hs hc hr hmoving, ?_⟩
  obtain ⟨hprofiled, hcourse⟩ :=
    onCourse_takenOver ⟨hs.fulfills.1, hs.fulfills.2 r hr hmoving⟩ c
  cases hrunning : (s.link.takenOver c).isRunning with
  | false =>
    -- on course a program ends on the target only
    obtain ⟨hstill, hencoder⟩ := hcourse.standstill hprofiled.toSound hrunning
    rw [verdict_of_halted hstill, hencoder, MoveStatus.ofHalt_self]
    exact .arrived hrunning hencoder
  | true =>
    cases c with
    | moveTo target => exact superseded_of_running hs.fulfills.1 hrunning r.target
    | rotate speed =>
      have hverdict : verdict (deciding s (.rotate speed)).link r.target = .interrupted :=
        if_pos hrunning
      exact hverdict ▸ .interrupted hrunning nofun
    | stop =>
      have hverdict : verdict (deciding s .stop).link r.target = .interrupted := if_pos hrunning
      exact hverdict ▸ .interrupted hrunning nofun
    | _ => cases hc

/-! ### Failures -/

/-- A look at a move in progress does not make it fail. -/
theorem moveStatus_ne_failed (hs : Agreement s) (hr : r ∈ s.moves.records)
    (hmoving : r.status = .moving) (id : Nat) (clear : Bool) {r' : MoveRecord}
    (hget : ((moveStatus Clocked.bus id clear).run.run s).2.moves.get? r.id = some r') :
    r'.status ≠ .failed := by
  have hrecord := hs.coherent.get?_of_mem hr
  rcases eq_or_ne r.id id with rfl | hne
  · obtain ⟨polled, hanswer, ⟨hprofiled, hcourse⟩, -, hstatus⟩ :=
      lasting_onCourse.moveStatus_of_get? hrecord clear s
        ⟨rfl, hs.fulfills.1, hs.fulfills.2 r hr hmoving⟩
    have heffect := @moveStatus_effect _ Clocked.bus _ hs.coherent r.id clear s rfl
    rw [hanswer] at heffect
    obtain ⟨m₁, hresolves, hid, hmem, hmoves⟩ := heffect
    rw [hmoves] at hget
    -- what is on record is what was reported
    obtain rfl : polled = r' := by
      have hpolled := (hresolves.coherent hs.coherent).get?_of_mem hmem
      rw [← hid, MoveRegistry.get?_ite_erase_self hpolled] at hget
      split at hget
      · cases hget
      · exact Option.some.inj hget
    rcases hstatus hmoving with hstill | ⟨hidle, hhalt⟩
    · rw [hstill]
      decide
    · rw [hhalt, (hcourse.standstill hprofiled.toSound hidle).2, MoveStatus.ofHalt_self]
      decide
  · rw [get?_moveStatus_of_ne hne clear s rfl, hrecord] at hget
    obtain rfl := Option.some.inj hget
    rw [hmoving]
    decide

/-- **A record fails only if its move was overtaken.** -/
theorem mem_of_failed (hs : Agreement s) {c : Call} {a : Except DriveError c.Reply}
    (hcall : (perform Clocked.setting.bus c).run.run s = (a, s')) {r' : MoveRecord}
    (hr' : r' ∈ s'.moves.records) (hfailed : r'.status = .failed) :
    r' ∈ s.moves.records ∨ ∃ target, c = .moveTo target ∧ s.link.Overtaken target := by
  have hget := ((effect_of_perform hs.coherent hcall).coherent hs.coherent).1.get?_of_mem hr'
  have htreats := treats_of_perform hs.coherent hcall r'.id
  rw [hget] at htreats
  obtain rfl : ((perform Clocked.bus c).run.run s).2 = s' := congrArg Prod.snd hcall
  cases hold : s.moves.get? r'.id with
  | none =>
    rw [hold] at htreats
    rw [htreats.moving_of_new] at hfailed
    cases hfailed
  | some r =>
    rw [hold] at htreats
    have hr := MoveRegistry.mem_of_get? hold
    cases htreats.advances with
    | refl => exact .inl hr
    | @decide status hmoving _ =>
      -- the move was in progress, and the call has decided it
      obtain rfl : status = .failed := hfailed
      cases hc : c.supersedes with
      | true =>
        obtain ⟨status, hget', hsuperseded⟩ := perform_supersedes hs hc hr hmoving
        have hfailed : status = .failed :=
          congrArg MoveRecord.status (Option.some.inj (hget'.symm.trans hget))
        exact .inr (hsuperseded.overtaken_of_failed hfailed)
      | false =>
        rcases em (∃ id clear, c = .moveStatus id clear) with ⟨id, clear, rfl⟩ | hlook
        · exact absurd rfl (moveStatus_ne_failed hs hr hmoving id clear hget)
        · have hmoves : ((perform Clocked.bus c).run.run s).2.moves = s.moves :=
            keepsMoves_perform hc (fun id clear h ↦ hlook ⟨id, clear, h⟩) s.moves s rfl
          rw [hmoves] at hr'
          exact .inl hr'

/-! ### Runs in which no move is overtaken -/

/-- A move that is overtaken by one to another place is written down as failed. -/
theorem failed_of_overtaken (hs : Agreement s) (hr : r ∈ s.moves.records)
    (hmoving : r.status = .moving) {target : Int32} (hover : s.link.Overtaken target)
    (hfar : doneTolerance < (target.toInt - r.target.toInt).natAbs) :
    ((perform Clocked.bus (.moveTo target)).run.run s).2.moves.get? r.id =
      some { r with status := .failed } := by
  obtain ⟨status, hget, hsuperseded⟩ :=
    perform_supersedes hs (c := .moveTo target) rfl hr hmoving
  rw [hget]
  cases hsuperseded with
  | arrived hidle => exact absurd (hover.1.symm.trans hidle) (by decide)
  | interrupted _ hlook => exact absurd hover (hlook target rfl)
  | overtaken => rw [MoveStatus.ofHalt, if_neg (Nat.not_le.mpr hfar)]

/-! ### Runs -/

variable {ids : List Nat}

/-- Without overtaking a run is a run. -/
theorem Run.of_unovertaken (h : Run Clocked.unovertaken ids s) : Run Clocked.setting ids s := by
  induction h with
  | connect hstart hconnect => exact .connect hstart hconnect
  | drift _ hdrift ih => exact ih.drift hdrift
  | call _ hadmits hcall ih => exact ih.call hadmits.1 hcall

/-- If no move is overtaken then none fails. -/
theorem Run.ne_failed (h : Run Clocked.unovertaken ids s) :
    ∀ r ∈ s.moves.records, r.status ≠ .failed := by
  induction h with
  | @connect config controller link link' hstart hconnect =>
    have hempty := connect_moves Clocked.bus config link trivial
    rw [show (FocusDrive.connect Clocked.bus config).run.run link = (.ok controller, link') from
      hconnect] at hempty
    intro r hr
    rw [show (⟨controller, link'⟩ : Session Clocked).moves = .empty from
      hempty controller rfl] at hr
    exact absurd hr List.not_mem_nil
  | drift _ _ ih => exact ih
  | call h hadmits hcall ih =>
    intro r hr hfailed
    rcases mem_of_failed h.of_unovertaken.agrees hcall hr hfailed with hr | ⟨target, hc, hover⟩
    · exact ih r hr hfailed
    · exact hadmits.2 target hc hover

/-- **Moves that are superseded.** Any time may pass before each request, but the program does not
end between the write of a new target and the look at the old move. Then no move on record ever
fails, and a move in progress that is superseded was interrupted under way, or it is done and had
arrived before. -/
theorem Run.superseded (h : Run Clocked.unovertaken ids s) :
    (∀ r ∈ s.moves.records, r.status ≠ .failed) ∧
      ∀ c a s', c.supersedes = true → Clocked.unovertaken.admits s c →
        (Controller.perform Clocked.bus c).run.run s = (a, s') →
        ∀ r ∈ s.moves.records, r.status = .moving →
          (s.link.takenOver c).isRunning = true ∧
              s'.moves.get? r.id = some { r with status := .interrupted } ∨
            (s.link.takenOver c).isRunning = false ∧ (s.link.takenOver c).encoder = r.target ∧
              s'.moves.get? r.id = some { r with status := .done } := by
  refine ⟨h.ne_failed, ?_⟩
  intro c a s' hc hadmits hcall r hr hmoving
  obtain ⟨status, hget, hsuperseded⟩ := perform_supersedes h.of_unovertaken.agrees hc hr hmoving
  rw [hcall] at hget
  cases hsuperseded with
  | arrived hidle hencoder => exact .inr ⟨hidle, hencoder, hget⟩
  | interrupted hrunning => exact .inl ⟨hrunning, hget⟩
  | overtaken hover => exact absurd hover (hadmits.2 _ rfl)

/-- A fresh module on which one tick passes before every request. -/
def ticking : Clocked where
  device := .initial 0 programMemory
  delays _ := 1

/-- A move to `1000` is stopped under way. -/
theorem Run.superseded_ticking :
    ∃ s a s', Run Clocked.unovertaken [0] s ∧ (∀ r ∈ s.moves.records, r.status ≠ .failed) ∧
      ⟨0, 1000, .moving⟩ ∈ s.moves.records ∧
      (Controller.perform Clocked.bus .stop).run.run s = (a, s') ∧
      s'.moves.get? 0 = some ⟨0, 1000, .interrupted⟩ := by
  have hconnect : ((FocusDrive.connect Clocked.bus {}).run.run ticking).1 =
      .ok { config := {} } := by decide +kernel
  have hstart : Clocked.unovertaken.starts ticking := .initial 0 programMemory
  have hnew := Run.ofConnect hstart hconnect
  -- the program does not run yet when the first move takes over
  have hidle : ¬Clocked.Overtaken ((FocusDrive.connect Clocked.bus {}).run.run ticking).2 1000 := by
    rw [Clocked.Overtaken]
    decide +kernel
  have hmoving := hnew.perform (.moveTo 1000)
    ⟨nofun, fun target htarget ↦ Call.moveTo.inj htarget ▸ hidle⟩
  obtain ⟨hfailed, hsuperseded⟩ := hmoving.superseded
  have hstopped := hsuperseded .stop _ _ rfl ⟨nofun, nofun⟩ Prod.mk.eta.symm
  refine ⟨_, _, _, hmoving, hfailed, by decide +kernel, Prod.mk.eta.symm, ?_⟩
  rcases hstopped ⟨0, 1000, .moving⟩ (by decide +kernel) rfl with ⟨-, hget⟩ | ⟨hidle, -⟩
  · exact hget
  · exact absurd hidle (by decide +kernel)

/-- A fresh module on which a tick passes before the last request of the second move. -/
def overtaking : Clocked where
  device := .initial 0 programMemory
  delays n := if n = 11 then 1 else 0

/-- A move to `1000` is called back before the motor has turned. The program ends at the start,
where the second move is to end, and it is the first one that is written down as failed. -/
theorem Run.superseded_overtaking :
    ∃ s a s', Run Clocked.setting [0] s ∧ ⟨0, 1000, .moving⟩ ∈ s.moves.records ∧
      (Controller.perform Clocked.bus (.moveTo 0)).run.run s = (a, s') ∧
      s'.moves.get? 0 = some ⟨0, 1000, .failed⟩ := by
  have hconnect : ((FocusDrive.connect Clocked.bus {}).run.run overtaking).1 =
      .ok { config := {} } := by decide +kernel
  have hstart : Clocked.setting.starts overtaking := .initial 0 programMemory
  have hnew := Run.ofConnect hstart hconnect
  have hmoving := hnew.perform (.moveTo 1000) nofun
  refine ⟨_, _, _, hmoving, ?_, Prod.mk.eta.symm, ?_⟩
  · decide +kernel
  · decide +kernel

end Controller

end FocusDrive
