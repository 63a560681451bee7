import FocusDrive.Proofs.Controller.Parallel
import FocusDrive.Proofs.Controller.Registry

/-!
# Requests that fail

A request and its answer are an exchange. A link that writes the exchanges down (`Recorded`) changes
nothing for the host, since it answers as the link without a record does; so what an operation asked
for can be read off its record, whatever the module does.

The host hides no failure and repeats no request that failed: an operation ends with the first
failure and gives its cause as the answer (`AccountsFor`). The only error that is not a failed
request is that of a look at a move that is not on record, and such a look makes no request. An
interruption also looks at a move. It passes over that error and hands on all others, so it cannot
end in this way; the look itself can, and this is why `Propagates`, which speaks about operations
that can only fail in a request, comes with a precondition on the registry.
-/

namespace FocusDrive

/-- A request with its answer. -/
structure Exchange where
  /-- The request. -/
  request : Request
  /-- The answer. -/
  answer : Except ModuleError request.Answer

/-- The error, if the request failed. -/
def Exchange.failure? (x : Exchange) : Option ModuleError :=
  match x.answer with
  | .ok _ => none
  | .error e => some e

/-- A link with a record of what was exchanged on it. -/
structure Recorded (σ : Type) where
  /-- The link. -/
  link : σ
  /-- The exchanges, newest first. -/
  exchanges : List Exchange

/-- The bus with a record of the exchanges. -/
def Bus.recorded {σ : Type} (bus : Bus σ) : Bus (Recorded σ) := fun r l ↦
  let (answer, link) := bus r l.link
  (answer, ⟨link, ⟨r, answer⟩ :: l.exchanges⟩)

/-- The session with a record on its link. -/
def Session.withRecord {σ : Type} (s : Session σ) (exchanges : List Exchange) :
    Session (Recorded σ) :=
  ⟨s.controller, ⟨s.link, exchanges⟩⟩

/-- A record changes no answer and no link. -/
theorem simulates_recorded {σ : Type} (bus : Bus σ) :
    Simulates (fun l l' ↦ l.link = l') bus.recorded bus := by
  rintro r l _ rfl
  exact ⟨rfl, rfl⟩

/-! ### Exchanges and answers -/

/-- How the exchanges of an operation, newest first, are told by its answer; `missing` is the number
of the move that the operation lacks, if it lacks one. -/
structure AccountsFor {α : Type} (failure : Request → ModuleError → DriveError)
    (missing : Option Nat) (issued : List Exchange) (a : Except DriveError α) : Prop where
  /-- The operation fails exactly if a request failed or a move is missing. -/
  error_iff : (∃ e, a = .error e) ↔ (∃ x ∈ issued, x.failure? ≠ none) ∨ missing ≠ none
  /-- The answer tells which failure it was. -/
  cause : ∀ x ∈ issued, ∀ e, x.failure? = some e → a = .error (failure x.request e)
  /-- No request follows one that failed. -/
  last : ∀ x ∈ issued.tail, x.failure? = none
  /-- For lack of a move nothing is asked for. -/
  nothing : ∀ id, missing = some id → issued = [] ∧ a = .error (.unknownMove id)

namespace AccountsFor

variable {α β : Type} {failure : Request → ModuleError → DriveError}
  {issued earlier : List Exchange} {a : Except DriveError α}

/-- An operation that asks for nothing and succeeds has nothing to tell. -/
theorem nil (v : α) : AccountsFor failure none [] (.ok v) where
  error_iff := by simp
  cause _ hx := absurd hx List.not_mem_nil
  last _ hx := absurd hx List.not_mem_nil
  nothing _ hid := nomatch hid

/-- An operation that lacks a move tells so, and asks for nothing. -/
theorem missing (id : Nat) :
    AccountsFor (α := α) failure (some id) [] (.error (.unknownMove id)) where
  error_iff := by simp
  cause _ hx := absurd hx List.not_mem_nil
  last _ hx := absurd hx List.not_mem_nil
  nothing _ hid := Option.some.inj hid ▸ ⟨rfl, rfl⟩

/-- One request is told by its own answer. -/
theorem single {r : Request} (answer : Except ModuleError r.Answer) :
    AccountsFor failure none [⟨r, answer⟩] (answer.mapError (failure r)) where
  error_iff := by
    cases answer <;> simp [Exchange.failure?, Except.mapError]
  cause x hx e he := by
    obtain rfl := List.mem_singleton.mp hx
    cases answer with
    | ok v => cases he
    | error e' => exact Option.some.inj he ▸ rfl
  last _ hx := absurd hx List.not_mem_nil
  nothing _ hid := nomatch hid

/-- A success means that every request was answered. -/
theorem answered {v : α} (h : AccountsFor failure none issued (.ok v)) :
    ∀ x ∈ issued, x.failure? = none := by
  intro x hx
  cases hfailure : x.failure? with
  | none => rfl
  | some e => exact nomatch h.cause x hx e hfailure

/-- Requests that were answered may come first. -/
theorem append (h : AccountsFor failure none issued a)
    (hearlier : ∀ x ∈ earlier, x.failure? = none) :
    AccountsFor failure none (issued ++ earlier) a where
  error_iff := by
    rw [h.error_iff]
    refine or_congr_left ⟨?_, ?_⟩
    · rintro ⟨x, hx, hne⟩
      exact ⟨x, List.mem_append_left _ hx, hne⟩
    · rintro ⟨x, hx, hne⟩
      rcases List.mem_append.mp hx with hx | hx
      · exact ⟨x, hx, hne⟩
      · exact absurd (hearlier x hx) hne
  cause x hx e he := by
    rcases List.mem_append.mp hx with hx | hx
    · exact h.cause x hx e he
    · rw [hearlier x hx] at he
      cases he
  last x hx := by
    cases issued with
    | nil => exact hearlier x (List.mem_of_mem_tail hx)
    | cons y issued =>
      rcases List.mem_append.mp hx with hx | hx
      · exact h.last x hx
      · exact hearlier x hx
  nothing _ hid := nomatch hid

/-- An error tells the same, whatever a success would have given. -/
theorem error {e : DriveError} (h : AccountsFor (α := α) failure none issued (.error e)) :
    AccountsFor (α := β) failure none issued (.error e) where
  error_iff := by
    rw [← h.error_iff]
    exact ⟨fun _ ↦ ⟨e, rfl⟩, fun _ ↦ ⟨e, rfl⟩⟩
  cause x hx cause hcause := congrArg Except.error (Except.error.inj (h.cause x hx cause hcause))
  last := h.last
  nothing _ hid := nomatch hid

end AccountsFor

/-! ### Operations that fail only in a request -/

/-- Run in a state with `P`, the operation tells of its exchanges. -/
def Propagates {τ α : Type} (log : τ → List Exchange)
    (failure : Request → ModuleError → DriveError) (P : τ → Prop)
    (x : ExceptT DriveError (StateM τ) α) : Prop :=
  ∀ past, Meets (fun s ↦ P s ∧ log s = past) x fun a s ↦
    ∃ issued, log s = issued ++ past ∧ AccountsFor failure none issued a

/-- The exchanges of a session. -/
abbrev Session.exchanges {σ : Type} (s : Session (Recorded σ)) : List Exchange := s.link.exchanges

/-- What a failed request means in an operation. -/
abbrev transportFailure : Request → ModuleError → DriveError := fun _ ↦ .transport

/-- What a failed request means during the setup. -/
def setupFailure : Request → ModuleError → DriveError
  | .setParams _ => .setup .applyConfig
  | .upload _ => .setup .uploadProgram
  | _ => .transport

namespace Propagates

variable {τ σ α β : Type} {log : τ → List Exchange}
  {failure : Request → ModuleError → DriveError} {P : τ → Prop} {bus : Bus σ}
  {I : Session (Recorded σ) → Prop}

theorem pure (a : α) : Propagates log failure P (Pure.pure a) :=
  fun _ ↦ .pure fun _ hs ↦ ⟨[], hs.2, .nil a⟩

/-- After a failed request the rest of a sequence is not run, and before it all requests were
answered. -/
theorem bind {x : ExceptT DriveError (StateM τ) α} {f : α → ExceptT DriveError (StateM τ) β}
    (hx : Propagates log failure P x) (hf : ∀ a, Propagates log failure (fun _ ↦ True) (f a)) :
    Propagates log failure P (x >>= f) := by
  refine fun past ↦ (hx past).bind (fun a s hs ↦ ?_) fun e s hs ↦ ?_
  · obtain ⟨earlier, hlog, haccounts⟩ := hs
    obtain ⟨issued, hlog', haccounts'⟩ := hf a (earlier ++ past) s ⟨trivial, hlog⟩
    exact ⟨issued ++ earlier, by rw [hlog', List.append_assoc],
      haccounts'.append haccounts.answered⟩
  · obtain ⟨issued, hlog, haccounts⟩ := hs
    exact ⟨issued, hlog, haccounts.error⟩

theorem weaken {P' : τ → Prop} {x : ExceptT DriveError (StateM τ) α}
    (h : Propagates log failure P x) (hpre : ∀ s, P' s → P s) : Propagates log failure P' x :=
  fun past ↦ (h past).weaken (fun s hs ↦ ⟨hpre s hs.1, hs.2⟩) fun _ _ h ↦ h

/-- A request on the link alone tells of itself, with its own meaning of failure. -/
theorem busRequest {P : Recorded σ → Prop} {f : ModuleError → DriveError} {r : Request}
    (hf : f = failure r) :
    Propagates Recorded.exchanges failure P (bus.recorded.request f r) := by
  subst hf
  exact fun _ ↦ .busRequest fun l hl ↦ ⟨[⟨r, (bus r l.link).1⟩], hl.2 ▸ rfl, .single _⟩

/-- A request in a session tells of itself. -/
theorem request (r : Request) :
    Propagates Session.exchanges transportFailure I (Controller.request bus.recorded r) :=
  fun _ ↦ .request fun s hs ↦ ⟨[⟨r, (bus r s.link.link).1⟩], hs.2 ▸ rfl, .single _⟩

/-- The registry is not asked on the link. -/
theorem modifyMoves (f : MoveRegistry → MoveRegistry) :
    Propagates Session.exchanges transportFailure I
      (Controller.modifyMoves f : Operation (Recorded σ) Unit) :=
  fun _ ↦ .modifyMoves fun _ hs ↦ ⟨[], hs.2, .nil ()⟩

/-- What follows a look at the registry may rely on the registry that there is. -/
theorem bindRegistry {f : MoveRegistry → Operation (Recorded σ) β}
    (h : ∀ m, Propagates Session.exchanges transportFailure (fun s ↦ I s ∧ s.moves = m) (f m)) :
    Propagates Session.exchanges transportFailure I (Controller.registry >>= f) :=
  fun past s hs ↦ h s.moves past s ⟨⟨hs.1, rfl⟩, hs.2⟩

end Propagates

/-! ### The operations -/

namespace Controller

section

variable {σ : Type} {bus : Bus σ} {I : Session (Recorded σ) → Prop}

theorem propagates_programRunning :
    Propagates Session.exchanges transportFailure I (programRunning bus.recorded) :=
  .bind (.request _) fun _ ↦ .pure _

theorem propagates_position :
    Propagates Session.exchanges transportFailure I (position bus.recorded) :=
  .request _

theorem propagates_targetPosition :
    Propagates Session.exchanges transportFailure I (targetPosition bus.recorded) := by
  refine .bind propagates_programRunning fun running ↦ ?_
  cases running with
  | true => exact .request _
  | false => exact propagates_position

/-- Looking at a record fails only in a request. -/
theorem propagates_look (record : MoveRecord) :
    Propagates Session.exchanges transportFailure I (look bus.recorded record) := by
  rw [look]
  split
  · refine .bind propagates_programRunning fun running ↦ ?_
    cases running with
    | true => exact .pure _
    | false => exact .bind propagates_position fun _ ↦ .pure _
  · exact .pure _

/-- Writing a status down asks for nothing and cannot fail. -/
theorem propagates_report (id : Nat) (clear : Bool) (record : MoveRecord) (status : MoveStatus) :
    Propagates Session.exchanges transportFailure I
      (report id clear record status : Operation (Recorded σ) MoveRecord) := by
  refine .bind (.modifyMoves _) fun _ ↦ ?_
  split
  · exact .bind (.modifyMoves _) fun _ ↦ .pure _
  · exact .pure _

/-- A look at a move on record fails only in a request. -/
theorem propagates_moveStatus (id : Nat) (clear : Bool) :
    Propagates Session.exchanges transportFailure (fun s ↦ s.moves.contains id = true)
      (moveStatus bus.recorded id clear) := by
  rw [moveStatus_eq]
  refine .bindRegistry fun known ↦ ?_
  cases hget : known.get? id with
  | none =>
    -- the record that there is cannot be missing
    rintro past s ⟨⟨hcontains, rfl⟩, -⟩
    rw [MoveRegistry.contains, hget] at hcontains
    cases hcontains
  | some record => exact .bind (propagates_look record) fun _ ↦ propagates_report _ _ _ _

/-- The one failure that an interruption passes over is not that of a request. -/
theorem propagates_interruptMove :
    Propagates Session.exchanges transportFailure I (interruptMove bus.recorded) := by
  intro past s hs
  rcases run_interruptMove_cases bus.recorded s with ⟨-, hrun⟩ | ⟨id, r, -, hget, hrun⟩
  · rw [hrun]
    exact ⟨[], hs.2, .nil ()⟩
  · have hknown : s.moves.contains id = true := by rw [MoveRegistry.contains, hget]; rfl
    rw [hrun]
    refine Propagates.bind (propagates_moveStatus id false) (fun record ↦ ?_) past s ⟨hknown, hs.2⟩
    split
    · exact .modifyMoves _
    · exact .pure _

/-- The start that may be needed is a request like any other. -/
theorem propagates_ensureRunning (wasRunning : Bool) :
    Propagates Session.exchanges transportFailure I (ensureRunning bus.recorded wasRunning) := by
  cases wasRunning with
  | false => exact .request _
  | true =>
    refine .bind propagates_programRunning fun running ↦ ?_
    cases running with
    | true => exact .pure _
    | false => exact .request _

/-- Beginning a move fails only in a request. -/
theorem propagates_moveTo (target : Int32) :
    Propagates Session.exchanges transportFailure I (moveTo bus.recorded target) := by
  rw [moveTo_eq]
  refine .bind propagates_programRunning fun wasRunning ↦ .bind (.request _) fun _ ↦ ?_
  refine .bind propagates_interruptMove fun _ ↦ .bind (propagates_ensureRunning wasRunning) ?_
  exact fun _ ↦ .bindRegistry fun _ ↦ .bind (.modifyMoves _) fun _ ↦ .pure _

end

end Controller

/-- The number that the call looks for in vain. -/
def Call.missing? (m : MoveRegistry) : Call → Option Nat
  | moveStatus id _ => if m.contains id then none else some id
  | _ => none

namespace Controller

section

variable {σ : Type} {bus : Bus σ}

/-- Only a look at a move that is not on record fails otherwise than in a request. -/
theorem propagates_perform (c : Call) :
    Propagates Session.exchanges transportFailure (fun s ↦ c.missing? s.moves = none)
      (perform bus.recorded c) := by
  cases c with
  | moveTo target => exact propagates_moveTo target
  | moveStatus id clear =>
    refine (propagates_moveStatus id clear).weaken fun s hs ↦ ?_
    simpa [Call.missing?] using hs
  | rotate speed | stop =>
    exact .bind propagates_interruptMove fun _ ↦ .bind (.request _) fun _ ↦ .request _
  | targetPosition => exact propagates_targetPosition
  | position => exact propagates_position
  | setEncoder count => exact .request _
  | pendingMoves => exact .bindRegistry fun _ ↦ .pure _

/-- A call that lacks a move does nothing. -/
theorem perform_of_missing {s : Session σ} {c : Call} {id : Nat}
    (hc : c.missing? s.moves = some id) :
    (perform bus c).run.run s = (.error (.unknownMove id), s) := by
  cases c with
  | moveStatus k clear =>
    rw [Call.missing?] at hc
    split at hc
    next => cases hc
    next hcontains =>
      obtain rfl := Option.some.inj hc
      have hget : s.moves.get? k = none := by simpa [MoveRegistry.contains] using hcontains
      show (moveStatus bus k clear).run.run s = _
      rw [moveStatus_eq, run_bind, run_registry]
      simp only [hget]
      rfl
  | _ => cases hc

end

end Controller

/-- The setup fails only in a request, and says at which step. -/
theorem propagates_connect {σ : Type} {bus : Bus σ} {P : Recorded σ → Prop}
    (config : DeviceConfig) :
    Propagates Recorded.exchanges setupFailure P (connect bus.recorded config) := by
  rw [connect]
  iterate 6 refine .bind (.busRequest rfl) fun _ ↦ ?_
  exact .pure _

/-! ### How often a move asks for the same -/

/-- Whether the request writes the target of the profile program. -/
def Request.isTargetWrite : Request → Bool
  | setGlobal g _ => decide (g = Profile.targetPosition)
  | _ => false

/-- Whether the request starts the program. -/
def Request.isStart : Request → Bool
  | startProgram => true
  | _ => false

/-- How many exchanges were about requests of a kind. -/
def Session.count {σ : Type} (kind : Request → Bool) (s : Session (Recorded σ)) : Nat :=
  s.exchanges.countP (kind ·.request)

/-- The operation makes at most `n` requests of a kind. -/
def AtMost {σ α : Type} (kind : Request → Bool) (n : Nat) (x : Operation (Recorded σ) α) : Prop :=
  ∀ k, Meets (fun s ↦ s.count kind ≤ k) x fun _ s ↦ s.count kind ≤ k + n

section

variable {σ α β : Type} {kind : Request → Bool} {n n' : Nat} {bus : Bus σ}

namespace AtMost

theorem pure (a : α) : AtMost kind n (Pure.pure a : Operation (Recorded σ) α) :=
  fun _ ↦ .pure fun _ hs ↦ Nat.le_add_right_of_le hs

theorem throw (e : DriveError) :
    AtMost kind n (MonadExcept.throw e : Operation (Recorded σ) α) :=
  fun _ ↦ .throw fun _ hs ↦ Nat.le_add_right_of_le hs

theorem registry : AtMost kind n (Controller.registry : Operation (Recorded σ) MoveRegistry) :=
  fun _ _ hs ↦ Nat.le_add_right_of_le hs

theorem modifyMoves (f : MoveRegistry → MoveRegistry) :
    AtMost kind n (Controller.modifyMoves f : Operation (Recorded σ) Unit) :=
  fun _ ↦ .modifyMoves fun _ hs ↦ Nat.le_add_right_of_le hs

/-- A request counts once if it is of the kind, and otherwise not. -/
theorem request (kind : Request → Bool) (bus : Bus σ) (r : Request) :
    AtMost kind (kind r).toNat (Controller.request bus.recorded r) := by
  refine fun k ↦ .request fun s hs ↦ ?_
  show (_ :: s.exchanges).countP _ ≤ _
  rw [List.countP_cons]
  show s.count kind + (if kind r = true then 1 else 0) ≤ k + (kind r).toNat
  cases kind r <;> simpa using hs

theorem other {r : Request} (h : kind r = false) :
    AtMost kind 0 (Controller.request bus.recorded r) := by
  have hmost := AtMost.request kind bus r
  rwa [h] at hmost

/-- The rule for a sequence: the bounds add up. -/
theorem bind {x : Operation (Recorded σ) α} {f : α → Operation (Recorded σ) β}
    (hx : AtMost kind n x) (hf : ∀ a, AtMost kind n' (f a)) : AtMost kind (n + n') (x >>= f) := by
  refine fun k ↦ (hx k).bind (fun a ↦ (hf a (k + n)).weaken (fun _ hs ↦ hs) ?_) ?_
  · intro _ s hs
    rwa [← Nat.add_assoc]
  · intro _ s hs
    exact Nat.le_trans hs (Nat.add_le_add_left (Nat.le_add_right n n') k)

/-- The rule for a sequence whose first step makes no such request. -/
theorem after {x : Operation (Recorded σ) α} {f : α → Operation (Recorded σ) β}
    (hx : AtMost kind 0 x) (hf : ∀ a, AtMost kind n (f a)) : AtMost kind n (x >>= f) := by
  have hmost := hx.bind hf
  rwa [Nat.zero_add] at hmost

end AtMost

namespace Controller

theorem atMost_programRunning (hstatus : kind (.getGlobal .status) = false) :
    AtMost kind 0 (programRunning bus.recorded) :=
  .after (.other hstatus) fun _ ↦ .pure _

/-- A look makes no requests but the two reads. -/
theorem atMost_look (hstatus : kind (.getGlobal .status) = false)
    (hencoder : kind (.getParam .encoderPosition) = false) (record : MoveRecord) :
    AtMost kind 0 (look bus.recorded record) := by
  rw [look]
  split
  · refine .after (atMost_programRunning hstatus) fun running ↦ ?_
    cases running with
    | true => exact .pure _
    | false => exact .after (.other hencoder) fun _ ↦ .pure _
  · exact .pure _

theorem atMost_moveStatus (hstatus : kind (.getGlobal .status) = false)
    (hencoder : kind (.getParam .encoderPosition) = false) (id : Nat) (clear : Bool) :
    AtMost kind 0 (moveStatus bus.recorded id clear) := by
  rw [moveStatus_eq]
  refine .after .registry fun known ↦ ?_
  cases known.get? id with
  | none => exact .throw _
  | some record =>
    refine .after (atMost_look hstatus hencoder record) fun _ ↦ .after (.modifyMoves _) fun _ ↦ ?_
    split
    · exact .after (.modifyMoves _) fun _ ↦ .pure _
    · exact .pure _

/-- An interruption makes no requests but the reads of a look. -/
theorem atMost_interruptMove (hstatus : kind (.getGlobal .status) = false)
    (hencoder : kind (.getParam .encoderPosition) = false) :
    AtMost kind 0 (interruptMove bus.recorded) := by
  intro k s hs
  rcases run_interruptMove_cases bus.recorded s with ⟨-, hrun⟩ | ⟨id, r, -, -, hrun⟩
  · rw [hrun]
    exact hs
  · rw [hrun]
    refine AtMost.after (atMost_moveStatus hstatus hencoder id false) (fun record ↦ ?_) k s hs
    split
    · exact .modifyMoves _
    · exact .pure _

/-- There is at most one start, whether the program ran before or not. -/
theorem atMost_ensureRunning (hstatus : kind (.getGlobal .status) = false) (wasRunning : Bool) :
    AtMost kind (kind .startProgram).toNat (ensureRunning bus.recorded wasRunning) := by
  have hstart := AtMost.request kind bus .startProgram
  cases wasRunning with
  | false => exact hstart
  | true =>
    refine .after (atMost_programRunning hstatus) fun running ↦ ?_
    cases running with
    | true => exact .pure _
    | false => exact hstart

/-- The begin of a move writes one target and makes one start, at most. -/
theorem atMost_moveTo (hstatus : kind (.getGlobal .status) = false)
    (hencoder : kind (.getParam .encoderPosition) = false) (target : Int32) :
    AtMost kind ((kind (.setGlobal Profile.targetPosition target)).toNat +
      (kind .startProgram).toNat) (moveTo bus.recorded target) := by
  have hissue : AtMost kind 0 (issue target : Operation (Recorded σ) Nat) :=
    .after .registry fun _ ↦ .after (.modifyMoves _) fun _ ↦ .pure _
  rw [moveTo_eq]
  refine .after (atMost_programRunning hstatus) fun wasRunning ↦ ?_
  refine .bind (.request kind bus _) fun _ ↦ .after (atMost_interruptMove hstatus hencoder) ?_
  exact fun _ ↦ (atMost_ensureRunning hstatus wasRunning).bind fun _ ↦ hissue

end Controller

end

/-! ### The record of an operation -/

section

variable {σ α : Type} {x : Operation (Recorded σ) α} {y : Operation σ α}

/-- Run with a record, `x` does what `y` does without one, and the record is `issued`. -/
def Records (x : Operation (Recorded σ) α) (y : Operation σ α) (s : Session σ)
    (issued : List Exchange) : Prop :=
  x.run.run (s.withRecord []) = ((y.run.run s).1, (y.run.run s).2.withRecord issued)

/-- An operation that does the same on both links is the other one with a record. -/
theorem records_of_parallel (h : Parallel (Session.Related fun l l' ↦ l.link = l') x y)
    (s : Session σ) : Records x y s (x.run.run (s.withRecord [])).2.exchanges := by
  obtain ⟨hanswer, hcontroller, hlink⟩ := h (s.withRecord []) s ⟨rfl, rfl⟩
  refine Prod.ext hanswer ?_
  show (x.run.run (s.withRecord [])).2 = ⟨_, ⟨_, _⟩⟩
  rw [← hcontroller, ← hlink]

/-- What was exchanged before is of no account. -/
theorem answer_withRecord (h : Parallel (Session.Related fun l l' ↦ l.link = l') x y)
    (s : Session σ) (past : List Exchange) :
    (y.run.run s).1 = (x.run.run (s.withRecord past)).1 :=
  (h (s.withRecord past) s ⟨rfl, rfl⟩).1.symm

/-- What is recorded accounts for the answer. -/
theorem Propagates.accountsFor {P : Session (Recorded σ) → Prop}
    (h : Propagates Session.exchanges transportFailure P x) {s : Session σ}
    (hs : P (s.withRecord [])) {issued : List Exchange} (hrecords : Records x y s issued) :
    AccountsFor transportFailure none issued (y.run.run s).1 := by
  obtain ⟨issued', hissued, haccounts⟩ := h [] (s.withRecord []) ⟨hs, rfl⟩
  rw [hrecords] at hissued haccounts
  obtain rfl : issued = issued' := hissued.trans (List.append_nil _)
  exact haccounts

/-- What is recorded is what was counted. -/
theorem AtMost.countP_le {kind : Request → Bool} {n : Nat} (h : AtMost kind n x) {s : Session σ}
    {issued : List Exchange} (hrecords : Records x y s issued) :
    issued.countP (kind ·.request) ≤ n := by
  have hcount := h 0 (s.withRecord []) (Nat.le_refl 0)
  rw [hrecords, Nat.zero_add] at hcount
  exact hcount

end

/-- **Every failure is told.** Each operation makes its requests up to the first one that fails, and
that failure is its answer; it has no other way to fail but to be asked for a move that is not on
record, and then it makes no request. The begin of a move writes the target once and starts the
program once, at most. -/
theorem failures_told {σ : Type} (bus : Bus σ) :
    (∀ config link, ∃ issued,
      (connect bus.recorded config).run.run ⟨link, []⟩ =
          (((connect bus config).run.run link).1, ⟨((connect bus config).run.run link).2, issued⟩) ∧
        AccountsFor setupFailure none issued ((connect bus config).run.run link).1) ∧
    (∀ s, ∃ issued,
      Records (Controller.programRunning bus.recorded) (Controller.programRunning bus) s issued ∧
        AccountsFor transportFailure none issued
          ((Controller.programRunning bus).run.run s).1) ∧
    ∀ c s, ∃ issued,
      Records (Controller.perform bus.recorded c) (Controller.perform bus c) s issued ∧
        AccountsFor transportFailure (c.missing? s.moves) issued
          ((Controller.perform bus c).run.run s).1 ∧
        ∀ target, c = .moveTo target →
          issued.countP (·.request.isTargetWrite) ≤ 1 ∧ issued.countP (·.request.isStart) ≤ 1 := by
  have hsimulates := simulates_recorded bus
  refine ⟨fun config link ↦ ?_, fun s ↦ ?_, fun c s ↦ ?_⟩
  · obtain ⟨hanswer, hlink⟩ := parallel_connect hsimulates config ⟨link, []⟩ link rfl
    have hpropagates : Propagates Recorded.exchanges setupFailure (fun _ ↦ True)
        (connect bus.recorded config) := propagates_connect config
    obtain ⟨issued, hissued, haccounts⟩ := hpropagates [] ⟨link, []⟩ ⟨trivial, rfl⟩
    rw [List.append_nil] at hissued
    rw [hanswer] at haccounts
    refine ⟨issued, Prod.ext hanswer ?_, haccounts⟩
    show ((connect bus.recorded config).run.run ⟨link, []⟩).2 = ⟨_, issued⟩
    rw [← hlink, ← hissued]
  · have hrecords := records_of_parallel (Controller.parallel_programRunning hsimulates) s
    have hpropagates : Propagates Session.exchanges transportFailure (fun _ ↦ True)
        (Controller.programRunning bus.recorded) := Controller.propagates_programRunning
    exact ⟨_, hrecords, hpropagates.accountsFor trivial hrecords⟩
  · have hrecords := records_of_parallel (Controller.parallel_perform hsimulates c) s
    refine ⟨_, hrecords, ?_, ?_⟩
    · -- a move that is not on record is the one failure without a request
      cases hmissing : c.missing? s.moves with
      | some id =>
        have hnothing : c.missing? (s.withRecord []).moves = some id := hmissing
        rw [Controller.perform_of_missing hmissing, Controller.perform_of_missing hnothing]
        exact .missing id
      | none => exact (Controller.propagates_perform c).accountsFor hmissing hrecords
    · rintro target rfl
      exact ⟨(Controller.atMost_moveTo rfl rfl target).countP_le hrecords,
        (Controller.atMost_moveTo rfl rfl target).countP_le hrecords⟩

/-- A controller with a move to `100` in progress, whose third request from now on fails. -/
def failingThird : Session (List (Except ModuleError Int32)) where
  controller := { config := {}, moves := MoveRegistry.empty.begin 100 }
  link := [.ok 1, .ok 0, .error (.communication "timeout"), .ok 1, .ok 0]

/-- The look at the old move fails after the new target was written. Three requests were made, the
failure is the answer, and the program is not asked to start. -/
theorem failures_told_failingThird :
    ∃ issued,
      Records (Controller.perform Controller.scripted.bus.recorded (.moveTo 200))
        (Controller.perform Controller.scripted.bus (.moveTo 200)) failingThird issued ∧
      ((Controller.perform Controller.scripted.bus (.moveTo 200)).run.run failingThird).1 =
        .error (.transport (.communication "timeout")) ∧
      issued.map (·.request) =
        [.getGlobal .status, .setGlobal Profile.targetPosition 200, .getGlobal .status] ∧
      issued.countP (·.request.isTargetWrite) ≤ 1 ∧ issued.countP (·.request.isStart) ≤ 1 := by
  obtain ⟨issued, hrecords, -, hcount⟩ :=
    (failures_told Controller.scripted.bus).2.2 (.moveTo 200) failingThird
  have hissued : _ = issued := congrArg (fun s ↦ s.2.exchanges) hrecords
  refine ⟨issued, hrecords, rfl, ?_, hcount 200 rfl⟩
  rw [← hissued]
  rfl

end FocusDrive
