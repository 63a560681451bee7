import FocusDrive.Proofs.Device.Loop
import FocusDrive.Proofs.Device.Reachable

/-!
# A module that runs the profile program

Once the profile program is downloaded, a module is at the start of the program's loop whenever it
runs (`Device.Profiled`). This survives every tick and every request but another download.

`Device.OnCourse t` is what a host may expect of a module that it sent to `t`: the program runs
toward `t`, or it has ended there and the motor is at rest. Only the program's own check ends it, so
a tick keeps the module on course (`OnCourse.tick`), and a start puts it on course
(`onCourse_start`).
-/

namespace FocusDrive

namespace Device

variable {d : Device} {t : Int32}

/-! ### Ticks without a program -/

/-- When no program runs, the program part of a tick does nothing. -/
theorem tickProgram_of_idle (h : d.isRunning = false) : d.tickProgram = (none, d) := by
  have hidle : d.interpreter.state = .idle := by
    simpa [isRunning, Interpreter.isRunning] using h
  rw [tickProgram]
  split
  next => rfl
  next program _ =>
    rw [Interpreter.tick_of_idle hidle]

/-- When no program runs, a tick moves the motor and counts. -/
theorem tick_of_idle (h : d.isRunning = false) :
    d.tick =
      (none,
        { d with
          registers := { d.registers with
            status := GlobalVar.statusStopped
            motor := d.registers.motor.update (d.registers.param .maximumSpeed)
              (d.registers.param .maximumAcceleration) }
          ticks := d.ticks + 1 }) := by
  rw [tick_eq, tickProgram_of_idle h, h]
  rfl

/-! ### The profile program is loaded -/

/-- The module holds the profile program, and when it runs it is at the start of the loop. -/
structure Profiled (d : Device) : Prop extends d.Sound where
  /-- The profile program is loaded. -/
  program : d.program = some profile
  /-- A running program is in its loop. -/
  atLoop : d.isRunning = true → d.AtLoop

namespace Profiled

/-- A module on which the profile is loaded and nothing runs. -/
theorem of_idle (h : d.Sound) (hprogram : d.program = some profile) (hidle : d.isRunning = false) :
    d.Profiled where
  toSound := h
  program := hprogram
  atLoop hrun := absurd hrun (by rw [hidle]; decide)

/-- What a tick can do: nothing runs and the motor goes on, or the program ends on its target, or it
completes another pass. -/
theorem tick_cases (h : d.Profiled) :
    d.tick.2.program = some profile ∧
      d.tick.2.registers.global Profile.targetPosition =
        d.registers.global Profile.targetPosition ∧
      (d.isRunning = false ∧ d.tick.2.isRunning = false ∧
          d.tick.2.registers.motor = d.registers.motor.update (d.registers.param .maximumSpeed)
            (d.registers.param .maximumAcceleration) ∨
        d.isRunning = true ∧ d.registers.global Profile.targetPosition = d.encoder ∧
          d.tick.2.isRunning = false ∧ d.tick.2.registers.motor = d.registers.motor.stop ∨
        d.isRunning = true ∧ d.tick.2.AtLoop) := by
  cases hrun : d.isRunning with
  | false =>
    rw [tick_of_idle hrun]
    exact ⟨h.program, rfl, .inl ⟨rfl, hrun, rfl⟩⟩
  | true =>
    have hloop := h.atLoop hrun
    rcases em (d.registers.global Profile.targetPosition = d.encoder) with heq | hne
    · rw [tick_of_eq_target hloop heq h.abs_carry]
      refine ⟨h.program, ?_, .inr (.inl ⟨rfl, heq, rfl, rfl⟩)⟩
      exact UserTable.get_set_of_ne _ (by decide) 0
    · obtain ⟨a, x, c, htick⟩ := tick_of_ne_target hloop hne
      rw [htick]
      refine ⟨h.program, ?_, .inr (.inr ⟨rfl, h.program, rfl, .inl rfl⟩)⟩
      show ((d.registers.users.set 1 _).set 2 _).get 0 = d.registers.users.get 0
      rw [UserTable.get_set_of_ne _ (by decide), UserTable.get_set_of_ne _ (by decide)]

/-- A tick runs the profile and nothing else. -/
theorem tick (h : d.Profiled) : d.tick.2.Profiled := by
  obtain ⟨hprogram, -, ⟨-, hidle, -⟩ | ⟨-, -, hidle, -⟩ | ⟨-, hloop⟩⟩ := h.tick_cases
  · exact .of_idle (sound_tick d) hprogram hidle
  · exact .of_idle (sound_tick d) hprogram hidle
  · exact ⟨sound_tick d, hprogram, fun _ ↦ hloop⟩

/-- The property does not depend on the registers, as long as they are sound. -/
theorem of_eq (h : d.Profiled) {d' : Device} (hsound : d'.Sound) (hprogram : d'.program = d.program)
    (hinterpreter : d'.interpreter = d.interpreter) : d'.Profiled where
  toSound := hsound
  program := hprogram.trans h.program
  atLoop hrun := by
    have hloop := h.atLoop (by rwa [isRunning, ← hinterpreter])
    refine ⟨hprogram.trans h.program, ?_, ?_⟩
    · rw [hinterpreter]
      exact hloop.pc
    · rw [hinterpreter]
      exact hloop.due

/-- Starting the profile again is no other program. -/
theorem start (h : d.Profiled) : (d.start profile).Profiled :=
  ⟨h.toSound.start profile, h.program, fun _ ↦ atLoop_start h.program⟩

/-- A request other than a download leaves the profile program where it is. -/
theorem handle (h : d.Profiled) {r : Request} (hr : ∀ program, r ≠ .upload program) :
    (d.handle r).2.Profiled := by
  have hsound := h.toSound.handle r
  cases hcontrol : r.isProgramControl with
  | false =>
    obtain ⟨hprogram, hinterpreter⟩ := d.handle_frame hcontrol
    exact h.of_eq hsound hprogram hinterpreter
  | true =>
    cases r with
    | startProgram =>
      rw [handle_startProgram h.program]
      exact h.start
    | stopProgram => exact .of_idle hsound h.program rfl
    | upload program => exact absurd rfl (hr program)
    | _ => cases hcontrol

end Profiled

/-- A download that is not refused makes an idle module hold the profile program. -/
theorem profiled_upload (h : d.Sound) (hidle : d.isRunning = false) :
    (∃ e, (d.handle (.upload profile)).1 = .error e) ∨ (d.handle (.upload profile)).2.Profiled := by
  rw [handle, hidle]
  rcases Nat.lt_or_ge d.capacity profile.size with hsmall | hfits
  · exact .inl ⟨_, by rw [if_pos hsmall]; rfl⟩
  · right
    rw [if_neg (Nat.not_lt.mpr hfits)]
    exact .of_idle ⟨h.abs_carry, h.status⟩ rfl hidle

/-- A module that holds the profile program runs it in its loop, whatever it was used for before:
the program that runs is the one that was started, since no download replaces it. -/
theorem Reachable.profiled (h : d.Reachable) (hprogram : d.program = some profile) :
    d.Profiled := by
  induction h with
  | initial => cases hprogram
  | tick _ ih => exact (ih ((memory_tick _).1 ▸ hprogram)).tick
  | @handle d h r ih =>
    rcases em (∃ program, r = .upload program) with ⟨program, rfl⟩ | hr
    · rcases d.handle_upload_cases program with hsame | ⟨hidle, hnew⟩
      · rw [hsame] at hprogram ⊢
        exact ih hprogram
      · have hsound := h.sound.handle (.upload program)
        rw [hnew] at hprogram hsound ⊢
        exact .of_idle hsound hprogram hidle
    · have hr' : ∀ program, r ≠ .upload program := fun program h ↦ hr ⟨program, h⟩
      rw [d.program_handle fun program h ↦ absurd h (hr' program)] at hprogram
      exact (ih hprogram).handle hr'

/-! ### On course -/

/-- The module is on its way to `t`, or it has arrived there by itself. -/
structure OnCourse (t : Int32) (d : Device) : Prop where
  /-- The program's target is `t`. -/
  target : d.registers.global Profile.targetPosition = t
  /-- The program runs, or it has ended on the target with the motor at rest. -/
  running_or_arrived : d.isRunning = true ∨
    d.isRunning = false ∧ d.encoder = t ∧ d.registers.motor.IsAtRest

/-- A tick keeps the course, whether it halts the program or not. -/
theorem OnCourse.tick (h : OnCourse t d) (hp : d.Profiled) : OnCourse t d.tick.2 := by
  obtain ⟨-, htarget, ⟨hidle, hidle', hmotor⟩ | ⟨-, heq, hidle', hmotor⟩ | ⟨-, hloop⟩⟩ :=
    hp.tick_cases
  · rcases h.running_or_arrived with hrun | ⟨-, hencoder, hrest⟩
    · rw [hidle] at hrun
      cases hrun
    · -- at rest nothing moves any more
      rw [hrest.update] at hmotor
      refine ⟨htarget.trans h.target, .inr ⟨hidle', ?_, ?_⟩⟩
      · rw [encoder, hmotor]
        exact hencoder
      · rwa [hmotor]
  · refine ⟨htarget.trans h.target, .inr ⟨hidle', ?_, ?_⟩⟩
    · rw [encoder, hmotor]
      exact heq.symm.trans h.target
    · rw [hmotor]
      exact Motor.isAtRest_stop hp.abs_carry
  · exact ⟨htarget.trans h.target, .inl hloop.isRunning⟩

/-- A start puts the module on course to its target. -/
theorem onCourse_start (h : d.registers.global Profile.targetPosition = t) :
    OnCourse t (d.start profile) :=
  ⟨h, .inl rfl⟩

end Device

end FocusDrive
