import FocusDrive.Proofs.Controller.Parallel
import FocusDrive.Proofs.Controller.Setup

/-!
# Stopping

A stop decides the last move, ends the program and takes the speed from the motor, with any time
between the three. What it leaves is a module at a standstill and a registry in which every move is
decided, and neither changes by itself: time counts ticks only, and a look at a decided move asks
nothing of the module and finds what is on record. So a stop that follows has nothing to do
(`Stopped.again`).

Nothing is assumed about what happened before, and the module need not be the controller's alone.
That a drive at a standstill does not creep on rests on the bound on the carried travel, which
holds of every reachable module, and that no move is left in progress rests on the coherence of the
registry.
-/

namespace FocusDrive

/-! ### What a stop leaves alone -/

namespace Motor

/-- A motor at rest need not be stopped. -/
theorem IsAtRest.stop {m : Motor} (h : m.IsAtRest) : m.stop = m := by
  show { m with targetSpeed := 0, actualSpeed := 0 } = m
  obtain ⟨htarget, hactual, -⟩ := h
  cases m
  simp_all

end Motor

namespace Device.Standstill

variable {d : Device}

/-- A program that does not run need not be ended. -/
theorem handle_stopProgram (h : d.Standstill) : d.handle .stopProgram = (.ok (), d) := by
  have hstate : d.interpreter.state = .idle := by
    have hidle := h.idle
    rw [isRunning, Interpreter.isRunning] at hidle
    simpa using hidle
  have hstatus : d.registers.status = GlobalVar.statusStopped := by
    rw [h.status, h.idle]
    rfl
  have hhalt : d.interpreter.halt = d.interpreter := by
    rw [Interpreter.halt, ← hstate]
  rw [handle, haltProgram, hhalt]
  show (_, { d with registers := { d.registers with status := if d.isRunning then _ else _ } }) = _
  rw [h.idle, if_neg Bool.false_ne_true, ← hstatus]

/-- A module at standstill has nothing left to stop. -/
theorem handle_stop (h : d.Standstill) : d.handle .stop = (.ok (), d) := by
  rw [handle, h.atRest.stop]
  rfl

end Device.Standstill

/-- A request that finds nothing to do leaves the ticks before it. -/
theorem Clocked.bus_of_standstill {l : Clocked} (h : l.device.Standstill) {r : Request}
    {v : r.Answer} (hr : ∀ d : Device, d.Standstill → d.handle r = (.ok v, d)) :
    Clocked.bus r l =
      (.ok v, { device := l.device.aged (l.delays 0), delays := fun n ↦ l.delays (n + 1) }) := by
  have hfound : l.found = l.device.aged (l.delays 0) := h.runTicks _
  show ((l.found.handle r).1.mapError Refusal.toModuleError,
    Clocked.mk (l.found.handle r).2 fun n ↦ l.delays (n + 1)) = _
  rw [hfound, hr _ (h.aged _)]
  rfl

namespace Controller

/-! ### Decided moves -/

section

variable {σ : Type} (bus : Bus σ) {s : Session σ} {r : MoveRecord}

/-- A look at a decided move asks nothing and finds what is on record. -/
theorem run_moveStatus_of_decided (hs : s.moves.Coherent) (hr : r ∈ s.moves.records)
    (hdecided : r.status ≠ .moving) (clear : Bool) :
    (moveStatus bus r.id clear).run.run s =
      (.ok r, { s with controller := { s.controller with
        moves := if clear then s.moves.erase r.id else s.moves } }) := by
  have hterminal : r.status.isTerminal = true := MoveStatus.isTerminal_iff.mpr hdecided
  have hlook : look bus r = pure r.status := if_neg hdecided
  rw [moveStatus_eq, run_bind, run_registry]
  simp only [hs.get?_of_mem hr]
  rw [run_bind, hlook, run_pure]
  simp only [run_report, hs.setStatus_self hr, hterminal, Bool.and_true]

/-- When every move is decided there is nothing to interrupt. -/
theorem run_interruptMove_of_decided (hs : s.moves.Coherent) (hdecided : s.moves.Decided) :
    (interruptMove bus).run.run s = (.ok (), s) := by
  rcases run_interruptMove_cases bus s with ⟨-, hrun⟩ | ⟨id, r, -, hget, hrun⟩
  · exact hrun
  · have hr := MoveRegistry.mem_of_get? hget
    rw [hrun, interruptKnown, run_bind, ← MoveRegistry.id_of_get? hget,
      run_moveStatus_of_decided bus hs hr (hdecided r hr)]
    simp only [Bool.false_eq_true, if_false, if_neg (hdecided r hr), run_pure]

end

/-! ### The first stop and those after it -/

/-- A request on the link leaves the registry alone. -/
theorem request_onLink {σ : Type} {bus : Bus σ} {m : MoveRegistry} {P : σ → Prop} {r : Request}
    {Q : Except DriveError r.Answer → σ → Prop} (h : Meets P (bus.request .transport r) Q) :
    Meets (fun s ↦ s.moves = m ∧ P s.link) (request bus r) fun a s ↦ s.moves = m ∧ Q a s.link :=
  fun s hs ↦ ⟨hs.1, h s.link hs.2⟩

theorem lasting_reachable : Lasting Device.Reachable := ⟨fun _ h ↦ h.sound, fun _ h ↦ h.tick⟩

/-- The two requests of a stop lead to a standstill. -/
theorem halt_standstill {m : MoveRegistry} {b : Device} (hb : b.Sound) :
    Succeeds (fun s ↦ s.moves = m ∧ s.link.found = b)
      (request Clocked.bus .stopProgram >>= fun _ ↦ request Clocked.bus .stop) fun _ s ↦
        s.moves = m ∧ s.link.device.Standstill := by
  refine .andThen (R := fun _ s ↦ s.moves = m ∧ s.link.device = b.haltProgram) ?_ fun _ ↦ ?_
  · exact (request_onLink (stopProgram_halts b)).weaken (fun _ h ↦ h)
      fun _ _ ⟨hmoves, v, hv, hdevice⟩ ↦ ⟨v, hv, hmoves, hdevice⟩
  · exact (request_onLink (stop_standstill hb)).weaken (fun _ h ↦ h)
      fun _ _ ⟨hmoves, v, hv, hstill, _⟩ ↦ ⟨v, hv, hmoves, hstill⟩

/-- From any state of the module a stop leads to a standstill with all moves decided. -/
theorem stop_of_reachable {m : MoveRegistry} (hm : m.Coherent) :
    Succeeds (At m Device.Reachable) (stop Clocked.bus) fun _ s ↦
      s.moves.Coherent ∧ s.moves.Decided ∧ s.link.device.Standstill := by
  rw [stop]
  refine .andThen (lasting_reachable.interruptMove_decided hm) fun _ s hs ↦ ?_
  obtain ⟨hresolves, hdecided, hreachable⟩ := hs
  have hsound : s.link.found.Sound := (hreachable.runTicks (s.link.delays 0)).sound
  obtain ⟨v, hok, hmoves, hstill⟩ := halt_standstill (m := s.moves) hsound s ⟨rfl, rfl⟩
  -- the two requests leave the registry as the interruption has left it
  refine ⟨v, hok, ?_, ?_, hstill⟩
  · rw [hmoves]
    exact hresolves.coherent hm
  · rw [hmoves]
    exact hdecided

/-- From a standstill with all moves decided a stop changes nothing; the ticks that pass in its two
requests are counted. -/
theorem run_stop_of_standstill {s : Session Clocked} (hs : s.moves.Coherent)
    (hdecided : s.moves.Decided) (h : s.link.device.Standstill) :
    (stop Clocked.bus).run.run s = (.ok (), { s with link :=
      { device := s.link.device.aged (s.link.delays 0 + s.link.delays 1)
        delays := fun n ↦ s.link.delays (n + 2) } }) := by
  rw [stop, run_bind, run_interruptMove_of_decided Clocked.bus hs hdecided]
  simp only
  rw [run_bind, run_request,
    Clocked.bus_of_standstill h fun _ hd ↦ hd.handle_stopProgram]
  simp only [Except.mapError]
  rw [run_request, Clocked.bus_of_standstill (h.aged _) fun _ hd ↦ hd.handle_stop]
  simp only [Except.mapError, Device.aged_aged]

/-! ### Runs -/

/-- What is true of a session once a stop has been carried out. -/
structure Stopped (s : Session Clocked) : Prop where
  /-- No program runs. -/
  idle : s.link.device.isRunning = false
  /-- The status register says so. -/
  status : s.link.device.registers.global .status = 0
  /-- No speed is commanded. -/
  targetSpeed : s.link.device.registers.param .targetSpeed = 0
  /-- The motor does not turn. -/
  actualSpeed : s.link.device.registers.param .actualSpeed = 0
  /-- No move is in progress. -/
  decided : s.moves.Decided
  /-- A look at a move on record tells how it was decided, whatever became of the module. -/
  look : ∀ id r, s.moves.get? id = some r → r.status.isTerminal = true ∧ ∀ l clear, ∃ s',
    (perform Clocked.bus (.moveStatus id clear)).run.run { s with link := l } = (.ok r, s')
  /-- Time counts ticks and changes nothing else. -/
  runTicks : ∀ n, Device.runTicks n s.link.device = s.link.device.aged n
  /-- A stop after any time changes nothing, and time that passes during it is counted. -/
  again : ∀ n delays,
    (perform Clocked.bus .stop).run.run
        { s with link := { device := Device.runTicks n s.link.device, delays } } =
      (.ok (), { s with link :=
        { device := s.link.device.aged (n + (delays 0 + delays 1))
          delays := fun k ↦ delays (k + 2) } })

/-- With no move in progress and the module at standstill nothing is left to be done. -/
theorem stopped_of_standstill {s : Session Clocked} (hs : s.moves.Coherent)
    (hdecided : s.moves.Decided) (h : s.link.device.Standstill) : Stopped s where
  idle := h.idle
  status := by
    show s.link.device.registers.status = 0
    rw [h.status, h.idle]
    rfl
  targetSpeed := h.atRest.targetSpeed
  actualSpeed := h.atRest.actualSpeed
  decided := hdecided
  look id r hget := by
    have hr := MoveRegistry.mem_of_get? hget
    obtain rfl := MoveRegistry.id_of_get? hget
    refine ⟨MoveStatus.isTerminal_iff.mpr (hdecided r hr), fun l clear ↦ ?_⟩
    exact ⟨_, run_moveStatus_of_decided (s := { s with link := l }) Clocked.bus hs hr
      (hdecided r hr) clear⟩
  runTicks := h.runTicks
  again n delays := by
    rw [h.runTicks, ← Device.aged_aged]
    exact run_stop_of_standstill
      (s := { s with link := { device := s.link.device.aged n, delays } }) hs hdecided (h.aged n)

end Controller

/-- A controller on a module in any reachable state, which anyone else may use and overwrite between
two calls. -/
def Clocked.shared : Setting Clocked where
  bus := bus
  starts l := l.device.Reachable
  drifts _ l' := l'.device.Reachable
  admits _ _ := True

namespace Controller

variable {ids : List Nat} {s : Session Clocked}

/-- Whatever was called and whatever passed in between, the module has been driven by the line
only. -/
theorem Run.reachable (h : Run Clocked.shared ids s) : s.link.device.Reachable :=
  h.keepsLink (P := fun l ↦ l.device.Reachable) (fun _ hl ↦ hl) (fun _ _ hl' _ ↦ hl')
    fun r _ hl ↦ (hl.runTicks _).handle r

/-- **A stop succeeds and is final.** It may come in any session, and time may pass before each of
its requests. -/
theorem Run.stop_final (h : Run Clocked.shared ids s) :
    ∃ s', (Controller.perform Clocked.bus .stop).run.run s = (.ok (), s') ∧ Stopped s' := by
  obtain ⟨_, hok, hm, hdecided, hstill⟩ := stop_of_reachable h.coherent.1 s ⟨rfl, h.reachable⟩
  exact ⟨_, Prod.ext hok rfl, stopped_of_standstill hm hdecided hstill⟩

/-- A move is stopped under way, after the encoder was overwritten. -/
theorem Run.stop_final_underWay :
    ∃ ids s s', Run Clocked.shared ids s ∧ s.link.device.actualSpeed ≠ 0 ∧ ¬s.moves.Decided ∧
      (Controller.perform Clocked.bus .stop).run.run s = (.ok (), s') ∧ Stopped s' := by
  have hconnect : ((FocusDrive.connect Clocked.bus {}).run.run underWay).1 =
      .ok { config := {} } := by decide +kernel
  have hstart : underWay.device.Reachable := by
    dsimp only [underWay]
    exact .runTicks (.handle (.handle (.handle (.initial 0 programMemory) _) _) _) 3
  have hnew := Run.ofConnect (w := Clocked.shared) hstart hconnect
  have hmoving := (hnew.perform (.moveTo 1000) trivial).perform (.setEncoder 7) trivial
  obtain ⟨s', hstop, hstopped⟩ := hmoving.stop_final
  refine ⟨_, _, s', hmoving, by decide +kernel, ?_, hstop, hstopped⟩
  rw [MoveRegistry.Decided]
  decide +kernel

end Controller

end FocusDrive
