import FocusDrive.Proofs.Controller.Agreement
import FocusDrive.Proofs.Controller.Still

/-!
# Moves that follow each other at once

Moves may follow each other faster than the module ticks. The first of them finds the module in any
state and makes its program run. Each later one finds the program running, writes its target over
the one before, and interrupts the move before it, wherever the encoder stands.

`Succession` is what holds after each of them. `moveTo_succession` is the step from one to the next,
and a list of moves follows by induction.
-/

namespace FocusDrive

namespace Controller

/-! ### One move after the other -/

/-- The moves to `targets` were begun one after the other, with the numbers from `first` on, on a
module whose program was running before, or was not. -/
structure Succession (wasRunning : Bool) (first : Nat) (targets : List Int32)
    (s : Session (Recorded Device)) : Prop where
  /-- The registry is coherent. -/
  coherent : s.moves.Coherent
  /-- The module holds the profile program. -/
  profiled : s.link.link.Profiled
  /-- Each move was given a number. -/
  nextId : s.moves.nextId = first + targets.length
  /-- The program runs from the first move on. -/
  running : s.link.link.isRunning = (wasRunning || !targets.isEmpty)
  /-- The program's target is that of the last move. -/
  target : ∀ target ∈ targets.getLast?,
    s.link.link.registers.global Profile.targetPosition = target
  /-- The last move is in progress, and the others were interrupted. -/
  record : ∀ i (hi : i < targets.length), s.moves.get? (first + i) =
    some ⟨first + i, targets[i], if i + 1 = targets.length then .moving else .interrupted⟩
  /-- The program was started for the first move, unless it ran. -/
  starts : s.count Request.isStart = (!wasRunning && !targets.isEmpty).toNat

variable {wasRunning : Bool} {first : Nat} {targets : List Int32}

namespace Succession

variable {s : Session (Recorded Device)}

/-- Before the first move. -/
theorem nil (hm : s.moves.Coherent) (hd : s.link.link.Profiled) (hnext : s.moves.nextId = first)
    (hstarts : s.count Request.isStart = 0) : Succession s.link.link.isRunning first [] s where
  coherent := hm
  profiled := hd
  nextId := hnext
  running := (Bool.or_false _).symm
  target := nofun
  record _ hi := absurd hi (Nat.not_lt_zero _)
  starts := by rw [hstarts, List.isEmpty_nil, Bool.not_true, Bool.and_false, Bool.toNat_false]

/-- After one target or more the program runs. -/
theorem isRunning (hs : Succession wasRunning first targets s) (hne : targets ≠ []) :
    s.link.link.isRunning = true := by
  rw [hs.running, List.isEmpty_eq_false_iff.mpr hne, Bool.not_false, Bool.or_true]

/-- What becomes of the moves when another one takes over. -/
theorem supersede_record (hs : Succession wasRunning first targets s) {i : Nat}
    (hi : i < targets.length) :
    (s.moves.get? (first + i)).map (·.supersede s.link.link) =
      some ⟨first + i, targets[i], .interrupted⟩ := by
  have hrunning := hs.isRunning (List.ne_nil_of_length_pos (Nat.zero_lt_of_lt hi))
  have hstatus : (if i + 1 = targets.length then MoveStatus.moving else .interrupted) = .moving ∨
      (if i + 1 = targets.length then MoveStatus.moving else .interrupted) = .interrupted := by
    split
    · exact .inl rfl
    · exact .inr rfl
  rw [hs.record i hi, Option.map_some, MoveRecord.supersede_of_running hrunning hstatus]

end Succession

/-- One more move continues the succession. -/
theorem moveTo_succession (target : Int32) :
    Succeeds (Succession wasRunning first targets) (moveTo Device.bus.recorded target) fun id s ↦
      id = first + targets.length ∧ Succession wasRunning first (targets ++ [target]) s := by
  intro s hs
  obtain ⟨id, hok, rfl, m', hresolves, hdecided, hget, hstill⟩ :=
    moveTo_still hs.coherent hs.profiled target s ⟨rfl, rfl, rfl⟩
  have hwritten := hs.profiled.withTarget target
  have hnext : m'.nextId = first + targets.length := hresolves.nextId_eq.trans hs.nextId
  refine ⟨_, hok, hs.nextId, ?_⟩
  exact {
    coherent := by
      rw [hstill.moves]
      exact (hresolves.coherent hs.coherent).begin hdecided target
    profiled := by
      rw [hstill.device]
      exact hwritten.madeToRun
    nextId := by
      rw [hstill.moves, MoveRegistry.nextId_begin, hnext, List.length_append]
      rfl
    running := by
      rw [hstill.device, hwritten.isRunning_madeToRun]
      simp
    target := by
      intro t ht
      rw [List.getLast?_concat] at ht
      obtain rfl := Option.some.inj ht
      rw [hstill.device, Device.global_madeToRun, Device.global_withTarget]
    record := by
      intro i hi
      rw [List.length_append, List.length_singleton] at hi
      rw [hstill.moves, MoveRegistry.get?_begin, hnext, List.length_append, List.length_singleton]
      -- one of the earlier moves, or the one that was added
      rcases Nat.lt_succ_iff_lt_or_eq.mp hi with hlt | rfl
      · have hne : first + targets.length ≠ first + i := by omega
        have hlast : i + 1 ≠ targets.length + 1 := by omega
        rw [if_neg hne, hget, hs.supersede_record hlt, List.getElem_append_left hlt, if_neg hlast]
      · rw [if_pos rfl, if_pos rfl, List.getElem_concat_length rfl]
    starts := by
      rw [hstill.starts, hs.starts, hs.running]
      cases wasRunning <;> cases targets <;> rfl }

/-- **Moves in succession.** Each is given the next number. -/
theorem mapM_moveTo_succession (more : List Int32) :
    Succeeds (Succession wasRunning first targets) (more.mapM (moveTo Device.bus.recorded))
      fun ids s ↦ ids = List.range' (first + targets.length) more.length ∧
        Succession wasRunning first (targets ++ more) s := by
  induction more generalizing targets with
  | nil =>
    refine .succeed fun s hs ↦ ⟨rfl, ?_⟩
    rwa [List.append_nil]
  | cons target more ih =>
    rw [List.mapM_cons]
    refine .andThen (moveTo_succession target) fun id ↦ .assume ?_
    rintro rfl
    refine .andThen ih fun ids ↦ .assume ?_
    rintro rfl
    refine .succeed fun s hs ↦ ⟨?_, ?_⟩
    · rw [List.length_append, List.length_singleton, List.length_cons, List.range'_succ,
        Nat.add_assoc]
    · rwa [List.append_assoc] at hs

/-! ### After the moves -/

namespace Succession

variable {s : Session (Recorded Device)}

/-- The starts that were asked for. -/
theorem countP_isStart (hs : Succession wasRunning first targets s) (hne : targets ≠ []) :
    s.count Request.isStart = if wasRunning then 0 else 1 := by
  rw [hs.starts, List.isEmpty_eq_false_iff.mpr hne]
  cases wasRunning <;> rfl

/-- A look reports the record as it is. -/
theorem moveStatus (hs : Succession wasRunning first targets s) {i : Nat} (hi : i < targets.length)
    (clear : Bool) :
    ((Controller.moveStatus Device.bus.recorded (first + i) clear).run.run s).1 =
      .ok ⟨first + i, targets[i], if i + 1 = targets.length then .moving else .interrupted⟩ := by
  have hne : targets ≠ [] := List.ne_nil_of_length_pos (Nat.zero_lt_of_lt hi)
  obtain ⟨polled, hok, rfl, -⟩ :=
    moveStatus_still hs.profiled.toSound (hs.record i hi) clear s ⟨rfl, rfl, rfl⟩
  rw [hok, hs.isRunning hne, MoveStatus.resolve_of_running]

/-- The controller sees the program running. -/
theorem programRunning (hs : Succession wasRunning first targets s) (hne : targets ≠ []) :
    ((Controller.programRunning Device.bus.recorded).run.run s).1 = .ok true := by
  obtain ⟨running, hok, rfl, -⟩ :=
    programRunning_still hs.profiled.toSound s ⟨rfl, rfl, rfl⟩
  rw [hok, hs.isRunning hne]

theorem targetPosition (hs : Succession wasRunning first targets s) (hne : targets ≠ []) :
    ((Controller.targetPosition Device.bus.recorded).run.run s).1 =
      .ok (targets.getLast hne) := by
  obtain ⟨p, hok, rfl, -⟩ := targetPosition_still hs.profiled.toSound s ⟨rfl, rfl, rfl⟩
  rw [hok, if_pos (hs.isRunning hne), hs.target _ (List.getLast?_eq_some_getLast hne)]

end Succession

end Controller

/-! ### Runs -/

/-- A controller on a module in any reachable state. Between two calls anyone else may use and
overwrite the module for any time, as long as it holds the profile program in the end. -/
def Clocked.entrusted : Setting Clocked where
  bus := bus
  starts l := l.device.Reachable
  drifts _ l' := l'.device.Reachable ∧ l'.device.program = some profile
  admits _ _ := True

/-- The session on the module alone, while no time passes. -/
def Session.atOnce (s : Session Clocked) : Session Device := ⟨s.controller, s.link.device⟩

namespace Controller

variable {ids : List Nat} {s : Session Clocked}

/-- Between calls the module holds the profile program and nothing else was run on it. -/
theorem Run.profiled (h : Run Clocked.entrusted ids s) : s.link.device.Profiled := by
  induction h with
  | @connect config controller link link' hstart hconnect =>
    have hprofiled := connect_profiled config link hstart.sound
    have hrun : (FocusDrive.connect Clocked.bus config).run.run link = (.ok controller, link') :=
      hconnect
    rw [hrun] at hprofiled
    exact hprofiled controller rfl
  | drift _ hdrift => exact hdrift.1.profiled hdrift.2
  | @call _ s _ c _ h _ hcall ih =>
    have hprofiled := perform_profiled h.coherent.1 c s ⟨rfl, ih⟩
    rwa [show (Controller.perform Clocked.bus c).run.run s = (_, _) from hcall] at hprofiled

/-- **Moves that follow each other at once.** In any session, moves that are begun with no tick in
between all succeed and get consecutive numbers. The last is in progress and every other one was
interrupted; the drive is heading for the last target and its program runs. The program was started
once if it did not run before, and not at all if it did. -/
theorem Run.moveTo_atOnce (h : Run Clocked.entrusted ids s) {targets : List Int32}
    (hne : targets ≠ []) :
    ∃ s' issued,
      (targets.mapM (moveTo Device.bus)).run.run s.atOnce =
          (.ok (List.range' ids.length targets.length), s') ∧
        Records (targets.mapM (moveTo Device.bus.recorded)) (targets.mapM (moveTo Device.bus))
          s.atOnce issued ∧
        issued.countP (·.request.isStart) = (if s.link.device.isRunning then 0 else 1) ∧
        (∀ i (hi : i < targets.length) clear,
          ((moveStatus Device.bus (ids.length + i) clear).run.run s').1 =
            .ok ⟨ids.length + i, targets[i],
              if i + 1 = targets.length then .moving else .interrupted⟩) ∧
        ((targetPosition Device.bus).run.run s').1 = .ok (targets.getLast hne) ∧
        ((programRunning Device.bus).run.run s').1 = .ok true := by
  obtain ⟨hm, hids⟩ := h.coherent
  have hnext : s.moves.nextId = ids.length := by rw [hids, List.length_range]
  have hbefore : Succession s.link.device.isRunning ids.length [] (s.atOnce.withRecord []) :=
    .nil (s := s.atOnce.withRecord []) hm h.profiled hnext rfl
  obtain ⟨_, hok, rfl, hafter⟩ := mapM_moveTo_succession targets _ hbefore
  -- what was shown with a record of the requests holds without it
  have hsimulates := simulates_recorded Device.bus
  have hrecords := records_of_parallel (.mapM (parallel_moveTo hsimulates) targets) s.atOnce
  rw [hrecords] at hok hafter
  rw [List.nil_append] at hafter
  refine ⟨_, _, Prod.ext hok rfl, hrecords, ?_, fun i hi clear ↦ ?_, ?_, ?_⟩
  · exact hafter.countP_isStart hne
  · rw [answer_withRecord (parallel_moveStatus hsimulates _ clear), hafter.moveStatus hi]
  · rw [answer_withRecord (parallel_targetPosition hsimulates), hafter.targetPosition hne]
  · rw [answer_withRecord (parallel_programRunning hsimulates), hafter.programRunning hne]

/-- A fresh module is sent to three targets at once, and it is started for the first. -/
theorem Run.moveTo_atOnce_fresh :
    ∃ s, Run Clocked.entrusted [] s ∧ [500, -3, 70] ≠ ([] : List Int32) ∧ ∃ s' issued,
      ([500, -3, 70].mapM (moveTo Device.bus)).run.run s.atOnce = (.ok [0, 1, 2], s') ∧
        Records ([500, -3, 70].mapM (moveTo Device.bus.recorded))
          ([500, -3, 70].mapM (moveTo Device.bus)) s.atOnce issued ∧
        issued.countP (·.request.isStart) = 1 ∧
        ((moveStatus Device.bus 1 true).run.run s').1 = .ok ⟨1, -3, .interrupted⟩ ∧
        ((moveStatus Device.bus 2 true).run.run s').1 = .ok ⟨2, 70, .moving⟩ ∧
        ((targetPosition Device.bus).run.run s').1 = .ok 70 := by
  have hconnect : ((FocusDrive.connect Clocked.bus {}).run.run slowing).1 =
      .ok { config := {} } := by decide +kernel
  have hstart : Clocked.entrusted.starts slowing := .initial 0 programMemory
  have hnew := Run.ofConnect hstart hconnect
  have hne : [500, -3, 70] ≠ ([] : List Int32) := by decide
  obtain ⟨s', issued, hids, hrecords, hstarts, hlook, htarget, -⟩ := hnew.moveTo_atOnce hne
  refine ⟨_, hnew, hne, s', issued, hids, hrecords, ?_, ?_, ?_, htarget⟩
  · rw [hstarts]
    decide +kernel
  · exact hlook 1 (by decide) true
  · exact hlook 2 (by decide) true

end Controller

end FocusDrive
