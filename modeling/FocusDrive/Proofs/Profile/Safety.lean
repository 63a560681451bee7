import FocusDrive.Proofs.Interpreter
import FocusDrive.Proofs.Interpreter.Accesses
import FocusDrive.Proofs.Profile.Pass

/-!
# The profile program on registers that answer anything

Nothing here is known about the registers. A read may return any word, twice a different one, and
something else than what the program has just written; and between two ticks the registers may be
replaced. The program stays in its loop all the same: every tick leads back to the start of the loop
or ends the program, and it ends exactly if the two words that were read as encoder and as target
agree (`profile_turns`). So none of its divisions is by zero, no jump leads into the middle of its
code, and no pass waits or exhausts the budget.

The facts come from `pass_loopStart`, which holds for every register file. Here it is applied to one
that keeps a record of the accesses (`Traced`).
-/

namespace FocusDrive

namespace Interpreter

/-- The states of an interpreter from a start of the program on, through its first run and any
number of ticks. Each of them may find other registers. -/
inductive Launched (program : Program) : Interpreter → Prop
  /-- The program was started and has run up to where it first gave control back. -/
  | start {ρ : Type} [RegisterFile ρ] (regs : ρ) : Launched program (started.run program regs).2.1
  /-- Time passes. -/
  | tick {m : Interpreter} (h : Launched program m) {ρ : Type} [RegisterFile ρ] (regs : ρ) :
      Launched program (m.tick program regs).2.1

end Interpreter

namespace Profile

open Interpreter

variable {ρ : Type} [RegisterFile ρ] {m : Interpreter}

/-! ### What a pass reads and writes -/

/-- The accesses of a pass that has read `e` as the encoder and `g` as the target. -/
inductive PassAccesses (e g : Int32) : Outcome → List Access → Prop
  /-- The pass ends the program. -/
  | arrive (h : e = g) :
      PassAccesses e g .halted
        [.readParam .encoderPosition e, .readGlobal targetPosition g,
          .writeGlobal remainingDistance (g - e), .writeParam .targetSpeed 0,
          .writeParam .actualSpeed 0]
  /-- The pass commands a speed. It reads the speed three times, and the distance once or twice. -/
  | steer (h : e ≠ g) (v w b d u c : Int32) (again : List Access)
      (hagain : again = [] ∨ again = [.readGlobal remainingDistance c]) :
      PassAccesses e g .looped
        ([.readParam .encoderPosition e, .readGlobal targetPosition g,
          .writeGlobal remainingDistance (g - e), .readParam .actualSpeed v,
          .readParam .actualSpeed w, .writeGlobal decelerationTrigger b,
          .readGlobal remainingDistance d, .readParam .actualSpeed u] ++ again ++
          [.writeParam .targetSpeed c])

/-- A pass ends in the loop or with a halt; it neither waits nor faults nor runs out of budget. -/
theorem PassAccesses.looped_or_halted {e g : Int32} {o : Outcome} {log : List Access}
    (h : PassAccesses e g o log) : o = .looped ∨ o = .halted := by
  cases h with
  | arrive => exact .inr rfl
  | steer => exact .inl rfl

/-- How a pass with this outcome leaves the interpreter. -/
structure Leaves (o : Outcome) (m : Interpreter) : Prop where
  /-- At the start of the loop, if it went on. -/
  looped : o = .looped → m.pc = loopStart ∧ m.state = .running
  /-- Idle, if it ended the program. -/
  halted : o = .halted → m.state = .idle

/-- A command may read the distance once more before it writes the speed. -/
theorem command_traced (s x : Int32) (regs : ρ) (log : List Access) :
    ∃ c regs' again, (again = [] ∨ again = [.readGlobal remainingDistance c]) ∧
      command s x (⟨regs, log⟩ : Traced ρ) =
        (.looped, ⟨loopStart, c, x, compare s 0, .running⟩,
          ⟨regs', log ++ again ++ [.writeParam .targetSpeed c]⟩) := by
  by_cases hs : s = 0
  · rw [command, if_pos hs]
    exact ⟨_, _, _, .inr rfl, rfl⟩
  · rw [command, if_neg hs]
    exact ⟨s, _, [], .inl rfl, by rw [List.append_nil]; rfl⟩

/-- Before that a pass reads the speed three times, stores the braking distance and reads the
distance back. -/
theorem brake_traced (regs : ρ) (log : List Access) :
    ∃ v w b d u s x regs', brake (⟨regs, log⟩ : Traced ρ) =
      command s x ⟨regs', log ++ [.readParam .actualSpeed v, .readParam .actualSpeed w,
        .writeGlobal decelerationTrigger b, .readGlobal remainingDistance d,
        .readParam .actualSpeed u]⟩ := by
  let v := RegisterFile.readParam .actualSpeed regs
  let w := RegisterFile.readParam .actualSpeed v.2
  let b := brakingWord v.1 w.1
  let d := RegisterFile.readGlobal remainingDistance
    (RegisterFile.writeGlobal decelerationTrigger b w.2)
  let u := RegisterFile.readParam .actualSpeed d.2
  have hbrake : brake (⟨regs, log⟩ : Traced ρ) =
      command (limitWord (blendWord u.1 (d.1 - b))) (d.1 - b)
        ⟨u.2, log ++ [.readParam .actualSpeed v.1] ++ [.readParam .actualSpeed w.1] ++
          [.writeGlobal decelerationTrigger b] ++ [.readGlobal remainingDistance d.1] ++
          [.readParam .actualSpeed u.1]⟩ := rfl
  refine ⟨v.1, w.1, b, d.1, u.1, limitWord (blendWord u.1 (d.1 - b)), d.1 - b, u.2,
    hbrake.trans ?_⟩
  simp only [List.append_assoc, List.cons_append, List.nil_append]

/-- A pass leads back to the start of the loop or ends the program. -/
theorem loop_traced (regs : ρ) :
    ∃ e g o m regs' log, PassAccesses e g o log ∧ Leaves o m ∧
      loop (traced regs) = (o, m, ⟨regs', log⟩) := by
  let e := RegisterFile.readParam .encoderPosition regs
  let g := RegisterFile.readGlobal targetPosition e.2
  let t : Traced ρ := ⟨RegisterFile.writeGlobal remainingDistance (g.1 - e.1) g.2,
    [.readParam .encoderPosition e.1, .readGlobal targetPosition g.1,
      .writeGlobal remainingDistance (g.1 - e.1)]⟩
  have hloop : loop (traced regs) = if g.1 - e.1 = 0 then arrive e.1 t else brake t := rfl
  have hzero : g.1 - e.1 = 0 ↔ e.1 = g.1 := by
    rw [Int32.sub_eq_iff_eq_add, Int32.zero_add, eq_comm]
  rw [hloop]
  by_cases heq : e.1 = g.1
  · rw [if_pos (hzero.mpr heq)]
    exact ⟨e.1, g.1, _, _, _, _, .arrive heq, ⟨nofun, fun _ ↦ rfl⟩, rfl⟩
  · rw [if_neg (mt hzero.mp heq)]
    obtain ⟨v, w, b, d, u, s, x, regs', hbrake⟩ := brake_traced t.regs t.accesses
    obtain ⟨c, regs'', again, hagain, hcommand⟩ := command_traced s x regs' _
    exact ⟨e.1, g.1, _, ⟨loopStart, c, x, compare s 0, .running⟩, _, _,
      .steer heq v w b d u c again hagain, ⟨fun _ ↦ ⟨rfl, rfl⟩, nofun⟩, hbrake.trans hcommand⟩

/-! ### Staying in the loop -/

/-- The next tick runs the loop from its start. -/
structure InLoop (m : Interpreter) : Prop where
  /-- The interpreter stands at the start of the loop. -/
  pc : m.pc = loopStart
  /-- The next tick runs a pass. -/
  due : m.IsDue

/-- A start runs the program up to its wait, without any access. -/
theorem run_started (regs : ρ) :
    started.run profile regs = (.waiting, ⟨loopStart, 0, 0, .eq, .waiting 1⟩, regs) :=
  rfl

/-- A tick in the loop, by what it reads and writes. -/
theorem InLoop.tick (h : InLoop m) (regs : ρ) :
    ∃ e g o, PassAccesses e g o (m.tickAccesses profile regs) ∧
      (m.tick profile regs).1 = some o ∧ Leaves o (m.tick profile regs).2.1 := by
  obtain ⟨e, g, o, m', regs', log, haccesses, hleaves, hloop⟩ := loop_traced regs
  have htraced : m.tick profile (traced regs) = (some o, m', ⟨regs', log⟩) := by
    rw [tick_loopStart h.due h.pc, hloop]
  have htick : m.tick profile regs = (some o, m', regs') :=
    (tick_traced m profile regs).trans (congrArg (onRegs Traced.regs) htraced)
  have hlog : m.tickAccesses profile regs = log := congrArg (·.2.2.accesses) htraced
  rw [hlog, htick]
  exact ⟨e, g, o, haccesses, rfl, hleaves⟩

/-- Since it was started the program is in its loop, unless it has ended. -/
theorem inLoop_of_launched (h : Launched profile m) : m.state = .idle ∨ InLoop m := by
  induction h with
  | start regs =>
    rw [run_started]
    exact .inr ⟨rfl, .inr ⟨1, le_refl 1, rfl⟩⟩
  | tick _ regs ih =>
    rcases ih with hidle | hloop
    · rw [tick_of_idle hidle]
      exact .inl hidle
    · obtain ⟨e, g, o, haccesses, -, hleaves⟩ := hloop.tick regs
      rcases haccesses.looped_or_halted with ho | ho
      · exact .inr ⟨(hleaves.looped ho).1, .inl (hleaves.looped ho).2⟩
      · exact .inl (hleaves.halted ho)

/-! ### The turns of the program -/

/-- A tick that has read `e` as the encoder and `g` as the target. -/
structure Turn (e g : Int32) (o : Option Outcome) (m : Interpreter) (accesses : List Access) :
    Prop where
  /-- The encoder is read once. -/
  encoder_read : accesses.filterMap (Access.paramRead? .encoderPosition) = [e]
  /-- The target is read once. -/
  target_read : accesses.filterMap (Access.globalRead? targetPosition) = [g]
  /-- The program ends exactly on target. -/
  halted_iff : o = some .halted ↔ e = g
  /-- It goes back to the start of its loop with three writes, or it stops the motor and ends. -/
  looped_or_halted :
    (o = some .looped ∧ m.pc = loopStart ∧ m.state = .running ∧
      ∃ b c, accesses.filter Access.isWrite = [.writeGlobal remainingDistance (g - e),
        .writeGlobal decelerationTrigger b, .writeParam .targetSpeed c]) ∨
    (o = some .halted ∧ m.state = .idle ∧
      accesses.filter Access.isWrite = [.writeGlobal remainingDistance (g - e),
        .writeParam .targetSpeed 0, .writeParam .actualSpeed 0])
  /-- The target is not written. -/
  target_kept : ∀ v, .writeGlobal targetPosition v ∉ accesses

/-- A pass is a turn, seen from the registers that it reads. -/
theorem PassAccesses.turn {e g : Int32} {o : Outcome} {accesses : List Access}
    (h : PassAccesses e g o accesses) (hm : Leaves o m) : Turn e g (some o) m accesses := by
  have h₁ : targetPosition ≠ remainingDistance := by decide
  have h₂ : targetPosition ≠ decelerationTrigger := by decide
  cases h with
  | arrive heq =>
    exact ⟨rfl, rfl, iff_of_true rfl heq, .inr ⟨rfl, hm.halted rfl, rfl⟩, by simp [h₁]⟩
  | steer hne v w b d u c again hagain =>
    obtain ⟨hpc, hstate⟩ := hm.looped rfl
    have hhalt : ¬ some Outcome.looped = some .halted := by decide
    rcases hagain with rfl | rfl
    all_goals exact ⟨rfl, rfl, iff_of_false hhalt hne, .inl ⟨rfl, hpc, hstate, b, c, rfl⟩,
      by simp [h₁, h₂]⟩

/-- On any registers the program can be assembled, waits once, and then turns in its loop until it
has read the encoder and the target as equal. -/
theorem profile_turns :
    draft.finish = .ok profile ∧
    (∀ {ρ : Type} [RegisterFile ρ] (regs : ρ), (started.run profile regs).1 = .waiting ∧
      started.runAccesses profile regs = []) ∧
    ∀ m, Launched profile m → m.isRunning = true → ∀ {ρ : Type} [RegisterFile ρ] (regs : ρ),
      ∃ e g, Turn e g (m.tick profile regs).1 (m.tick profile regs).2.1
        (m.tickAccesses profile regs) := by
  refine ⟨finish_profileDraft, fun regs ↦ ⟨rfl, rfl⟩, fun m hm hrunning ρ _ regs ↦ ?_⟩
  rcases inLoop_of_launched hm with hidle | hloop
  · simp [isRunning, hidle] at hrunning
  · obtain ⟨e, g, o, haccesses, ho, hleaves⟩ := hloop.tick regs
    rw [ho]
    exact ⟨e, g, haccesses.turn hleaves⟩

/-- A register file that gives its answers in turn, whatever is read and whatever was written. -/
structure Answers where
  /-- The answers still to come. After the last one it answers zero. -/
  answers : List Int32

instance : RegisterFile Answers where
  readParam _ r := (r.answers.headD 0, ⟨r.answers.tail⟩)
  writeParam _ _ r := r
  readGlobal _ r := (r.answers.headD 0, ⟨r.answers.tail⟩)
  writeGlobal _ _ r := r

/-- Three speeds that differ, and a distance that is not the one just written. -/
theorem profile_turns_answers :
    let m := ((started.run profile (Answers.mk [])).2.1.tick profile (Answers.mk [3, 4])).2.1
    let regs := Answers.mk [-2147483648, 2147483647, 2047, -2047, 5, 9, 1]
    Launched profile m ∧ m.isRunning = true ∧
      ∃ e g, Turn e g (m.tick profile regs).1 (m.tick profile regs).2.1
        (m.tickAccesses profile regs) := by
  intro m regs
  have hm : Launched profile m := .tick (.start (Answers.mk [])) (Answers.mk [3, 4])
  have hrunning : m.isRunning = true := by decide +kernel
  exact ⟨hm, hrunning, profile_turns.2.2 m hm hrunning regs⟩

end Profile

end FocusDrive
