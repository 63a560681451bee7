import FocusDrive.Proofs.Word
import FocusDrive.Proofs.Controller.Exchanges

/-!
# How a look at a move decides

A look at a move is the one place where an outcome is decided, and an interruption takes its
decision through it. `Inspection` lists what a look can find: each case names the requests that were
made in it, with their answers, and what the status is then. A decided move is not asked about. A
move in progress costs one read of the status, and only when that read answers something else than
"runs" the encoder is read, once.

The registry follows: a failed look leaves it as it was, and a look that succeeds changes it under
the number of the move and nowhere else (`MoveRegistry.DiffersAt`). Nothing is assumed about the
registry or about the module.

The distance to the target is an exact integer. A program that takes it in 64-bit words finds the
same one, since a difference of two 32-bit words always fits (`ofHalt_eq_words`).
-/

namespace FocusDrive

/-! ### The distance of a halted drive -/

namespace MoveStatus

/-- The outcome of a halted program, by the exact distance. -/
theorem ofHalt_eq (position target : Int32) :
    ofHalt position target = if |position.toInt - target.toInt| ≤ 1 then done else failed := by
  have hiff : (position.toInt - target.toInt).natAbs ≤ doneTolerance ↔
      |position.toInt - target.toInt| ≤ 1 := by
    rw [Int.abs_eq_natAbs, doneTolerance]
    omega
  rw [ofHalt, if_congr hiff rfl rfl]

/-- The outcome of a halted program, with the distance taken in 64-bit words. -/
theorem ofHalt_eq_words (position target : Int32) :
    ofHalt position target =
      if (position.toInt64 - target.toInt64).abs ≤ 1 then done else failed := by
  have hiff : (position.toInt64 - target.toInt64).abs ≤ 1 ↔
      |position.toInt - target.toInt| ≤ 1 := by
    rw [Int64.le_iff_toInt_le, Word.toInt_abs_sub_toInt64]
    rfl
  rw [ofHalt_eq, if_congr hiff rfl rfl]

-- the difference of these two is `1` in 32-bit words
example : ofHalt Int32.minValue Int32.maxValue = failed := by decide

end MoveStatus

/-! ### The registry after a look -/

namespace MoveRegistry

/-- The registries agree on every number but one, and under that number the second has `found`. -/
structure DiffersAt (m : MoveRegistry) (id : Nat) (found : Option MoveRecord)
    (m' : MoveRegistry) : Prop where
  /-- The last move is the same. -/
  lastId_eq : m'.lastId = m.lastId
  /-- What is on record under the number. -/
  get?_self : m'.get? id = found
  /-- Every other number has the record that it had. -/
  get?_of_ne : ∀ k ≠ id, m'.get? k = m.get? k

variable {m m' : MoveRegistry} {id : Nat} {r : MoveRecord} {found : Option MoveRecord}

theorem differsAt_self (hget : m.get? id = found) : m.DiffersAt id found m where
  lastId_eq := rfl
  get?_self := hget
  get?_of_ne _ _ := rfl

/-- A new status is a difference at its own number only. -/
theorem DiffersAt.setStatus (h : m.DiffersAt id (some r) m') (status : MoveStatus) :
    m.DiffersAt id (some { r with status }) (m'.setStatus id status) where
  lastId_eq := h.lastId_eq
  get?_self := by rw [get?_setStatus, if_pos rfl, h.get?_self, Option.map_some]
  get?_of_ne k hk := by rw [get?_setStatus, if_neg hk, h.get?_of_ne k hk]

theorem DiffersAt.erase (h : m.DiffersAt id found m') :
    m.DiffersAt id none (m'.erase id) where
  lastId_eq := h.lastId_eq
  get?_self := by rw [get?_erase, if_pos rfl]
  get?_of_ne k hk := by rw [get?_erase, if_neg hk, h.get?_of_ne k hk]

end MoveRegistry

namespace Controller

variable {σ : Type} {bus : Bus σ} {m : MoveRegistry} {r : MoveRecord} {id : Nat}

/-- A report writes the status under the number, or drops the record with a decided status. -/
theorem report_differsAt (hget : m.get? id = some r) (clear : Bool) (status : MoveStatus)
    {s : Session σ} (hs : s.moves = m) :
    m.DiffersAt id (if clear && status.isTerminal then none else some { r with status })
      ((report id clear r status).run.run s).2.moves := by
  have hset := (MoveRegistry.differsAt_self hget).setStatus status
  rw [run_report, hs]
  show m.DiffersAt id _ (if clear && status.isTerminal then _ else _)
  split
  · exact hset.erase
  · exact hset

/-! ### What a look finds -/

/-- What a look can find about a move: the exchanges it made, newest first, and the status, or the
error that it ends with. -/
inductive Inspection (r : MoveRecord) : List Exchange → Except DriveError MoveStatus → Prop
  /-- The move is decided, and the status on record stands. -/
  | decided (hdecided : r.status ≠ .moving) : Inspection r [] (.ok r.status)
  /-- The status could not be read. -/
  | unread (hmoving : r.status = .moving) (e : ModuleError) :
    Inspection r [⟨.getGlobal .status, .error e⟩] (.error (.transport e))
  /-- The program runs. -/
  | running (hmoving : r.status = .moving) :
    Inspection r [⟨.getGlobal .status, .ok 1⟩] (.ok .moving)
  /-- The program does not run, and the encoder could not be read. -/
  | unplaced (hmoving : r.status = .moving) {v : Int32} (hv : v ≠ 1) (e : ModuleError) :
    Inspection r [⟨.getParam .encoderPosition, .error e⟩, ⟨.getGlobal .status, .ok v⟩]
      (.error (.transport e))
  /-- The program halted within one count of the target. -/
  | arrived (hmoving : r.status = .moving) {v p : Int32} (hv : v ≠ 1)
    (hnear : |p.toInt - r.target.toInt| ≤ 1) :
    Inspection r [⟨.getParam .encoderPosition, .ok p⟩, ⟨.getGlobal .status, .ok v⟩] (.ok .done)
  /-- The program halted further away. -/
  | astray (hmoving : r.status = .moving) {v p : Int32} (hv : v ≠ 1)
    (hfar : 1 < |p.toInt - r.target.toInt|) :
    Inspection r [⟨.getParam .encoderPosition, .ok p⟩, ⟨.getGlobal .status, .ok v⟩] (.ok .failed)

/-- A look finds one thing: the exchanges tell the status. -/
theorem Inspection.unique {issued : List Exchange} {a a' : Except DriveError MoveStatus}
    (h : Inspection r issued a) (h' : Inspection r issued a') : a = a' := by
  cases h <;> cases h' <;> first | rfl | contradiction | omega

/-- The position of a halted drive decides. -/
theorem Inspection.halted (hmoving : r.status = .moving) {v : Int32} (hv : v ≠ 1) (p : Int32) :
    Inspection r [⟨.getParam .encoderPosition, .ok p⟩, ⟨.getGlobal .status, .ok v⟩]
      (.ok (MoveStatus.ofHalt p r.target)) := by
  rw [MoveStatus.ofHalt_eq]
  split
  next hnear => exact .arrived hmoving hv hnear
  next hfar => exact .astray hmoving hv (not_le.mp hfar)

/-- The rule for a sequence whose first step is a request: what follows may rely on the answer that
was written down. -/
theorem bindRecorded {α : Type} {past : List Exchange} {request : Request}
    {f : request.Answer → Operation (Recorded σ) α}
    {S : Except DriveError α → Session (Recorded σ) → Prop}
    (hok : ∀ v, Meets (fun s ↦ s.moves = m ∧ s.exchanges = ⟨request, .ok v⟩ :: past) (f v) S)
    (herror : ∀ e s, s.moves = m → s.exchanges = ⟨request, .error e⟩ :: past →
      S (.error (.transport e)) s) :
    Meets (fun s ↦ s.moves = m ∧ s.exchanges = past)
      (Controller.request bus.recorded request >>= f) S := by
  refine Meets.bind (R := fun a s ↦ s.moves = m ∧ ∃ answer,
    s.exchanges = ⟨request, answer⟩ :: past ∧ a = answer.mapError .transport) ?_ ?_ ?_
  · exact .request fun s hs ↦ ⟨hs.1, _, congrArg (List.cons _) hs.2, rfl⟩
  · rintro v s ⟨hmoves, answer | v', hexchanges, hanswer⟩
    · cases hanswer
    · obtain rfl := Except.ok.inj hanswer
      exact hok v s ⟨hmoves, hexchanges⟩
  · rintro e s ⟨hmoves, e' | answer, hexchanges, hanswer⟩
    · obtain rfl := Except.error.inj hanswer
      exact herror e' s hmoves hexchanges
    · cases hanswer

/-- A look asks what an inspection asks, and finds what it finds. -/
theorem look_inspection (r : MoveRecord) :
    Meets (fun s ↦ s.moves = m ∧ s.exchanges = []) (look bus.recorded r) fun a s ↦
      s.moves = m ∧ Inspection r s.exchanges a := by
  rw [look]
  split
  next hmoving =>
    simp only [programRunning, position, bind_assoc, pure_bind]
    refine bindRecorded (fun v ↦ ?_) fun e s hmoves hexchanges ↦
      ⟨hmoves, hexchanges ▸ .unread hmoving e⟩
    by_cases hv : v = GlobalVar.statusRunning
    · subst hv
      exact .pure fun s hs ↦ ⟨hs.1, hs.2 ▸ .running hmoving⟩
    · rw [beq_eq_false_iff_ne.mpr hv]
      refine bindRecorded (fun p ↦ ?_) fun e s hmoves hexchanges ↦
        ⟨hmoves, hexchanges ▸ .unplaced hmoving hv e⟩
      exact .pure fun s hs ↦ ⟨hs.1, hs.2 ▸ .halted hmoving hv p⟩
  next hdecided => exact .pure fun s hs ↦ ⟨hs.1, hs.2 ▸ .decided hdecided⟩

/-! ### The answer to a look -/

/-- What is on record under a number, the exchanges of a look at it, and its answer. -/
inductive Answers (id : Nat) : Option MoveRecord → List Exchange →
    Except DriveError MoveRecord → Prop
  /-- There is no such move. -/
  | missing : Answers id none [] (.error (.unknownMove id))
  /-- The record is reported with the status that was found. -/
  | found {r : MoveRecord} {issued : List Exchange} {a : Except DriveError MoveStatus}
    (h : Inspection r issued a) : Answers id (some r) issued (a.map fun status ↦ { r with status })

/-- What a look leaves of the registry. -/
structure Leaves (m : MoveRegistry) (id : Nat) (clear : Bool) (a : Except DriveError MoveRecord)
    (m' : MoveRegistry) : Prop where
  /-- A failure changes nothing. -/
  of_error : ∀ e, a = .error e → m' = m
  /-- The answer is on record, unless it was to be dropped. -/
  of_ok : ∀ r, a = .ok r →
    m.DiffersAt id (if clear && r.status.isTerminal then none else some r) m'

/-- What a look answers and what it leaves behind, told from the requests that it made. -/
theorem moveStatus_answers (bus : Bus σ) (id : Nat) (clear : Bool) :
    Meets (fun s ↦ s.moves = m ∧ s.exchanges = []) (moveStatus bus.recorded id clear) fun a s ↦
      Answers id (m.get? id) s.exchanges a ∧ Leaves m id clear a s.moves := by
  rw [moveStatus_eq]
  refine .bindRegistry (fun _ hs ↦ hs.1) ?_
  cases hget : m.get? id with
  | none =>
    exact .throw fun s hs ↦ ⟨hs.2 ▸ .missing, fun _ _ ↦ hs.1, nofun⟩
  | some r =>
    refine .bind (look_inspection r) (fun status s hs ↦ ?_) fun e s hs ↦
      ⟨.found hs.2, fun _ _ ↦ hs.1, nofun⟩
    have hdiffers := report_differsAt hget clear status hs.1
    rw [run_report] at hdiffers ⊢
    refine ⟨.found hs.2, nofun, ?_⟩
    rintro _ ⟨⟩
    exact hdiffers

/-- **A look decides soundly.** It answers what it found by the requests that it made, a failed look
leaves the registry alone, and one that succeeds changes it under the number of the move only. The
distance of a halted drive to its target is exact for any two words, in 64 bits as over the
integers. -/
theorem moveStatus_sound (bus : Bus σ) (id : Nat) (clear : Bool) (s : Session σ) :
    (∃ a s' issued, (moveStatus bus id clear).run.run s = (a, s') ∧
      (moveStatus bus.recorded id clear).run.run (s.withRecord []) = (a, s'.withRecord issued) ∧
      Answers id (s.moves.get? id) issued a ∧ Leaves s.moves id clear a s'.moves) ∧
    ∀ p t : Int32, (p.toInt64 - t.toInt64).toInt = p.toInt - t.toInt ∧
      (p.toInt64 - t.toInt64).abs.toInt = |p.toInt - t.toInt| ∧
      MoveStatus.ofHalt p t =
        if (p.toInt64 - t.toInt64).abs ≤ 1 then MoveStatus.done else MoveStatus.failed := by
  refine ⟨?_, fun p t ↦ ?_⟩
  · have hrecords := records_of_parallel (parallel_moveStatus (simulates_recorded bus) id clear) s
    have hanswers := moveStatus_answers bus id clear (s.withRecord []) ⟨rfl, rfl⟩
    rw [hrecords] at hanswers
    exact ⟨_, _, _, rfl, hrecords, hanswers⟩
  · exact ⟨Word.toInt_sub_toInt64 p t, Word.toInt_abs_sub_toInt64 p t,
      MoveStatus.ofHalt_eq_words p t⟩

end Controller

end FocusDrive
