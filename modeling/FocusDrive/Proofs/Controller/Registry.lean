import FocusDrive.Proofs.Controller.Run
import FocusDrive.Proofs.Move.Coherent

/-!
# The registry during a run

A controller keeps its registry coherent, whatever the module does: the bus is arbitrary, so a
request may fail at any moment or be answered with anything.

`Call.Effect` is the whole of what a call can do to a registry, in terms of the registry alone. A
call that begins a move first decides the last one; a look at a move writes its status and may drop
it; any other call, and every call that fails, at most decides the last move. `perform_effect` shows
this once for each call, and everything about runs follows from `Call.Effect` by induction over the
run.
-/

namespace FocusDrive

/-- What a call may do to the registry, for each answer. -/
def Call.Effect (m : MoveRegistry) : (c : Call) → Except DriveError c.Reply → MoveRegistry → Prop
  | .moveTo target, .ok id, m' =>
    id = m.nextId ∧ ∃ m₁, m.Resolves m₁ ∧ m₁.Decided ∧ m' = m₁.begin target
  | .moveStatus id clear, .ok record, m' =>
    ∃ m₁, m.Resolves m₁ ∧ record.id = id ∧ record ∈ m₁.records ∧
      m' = if clear && record.status.isTerminal then m₁.erase id else m₁
  | _, _, m' => m.Resolves m'

namespace Controller

variable {σ α β : Type} {bus : Bus σ} {m : MoveRegistry}

/-! ### Operations that leave the registry alone -/

/-- The operation does not change the registry. -/
def KeepsMoves (x : Operation σ α) : Prop :=
  ∀ m : MoveRegistry, Meets (fun s ↦ s.moves = m) x fun _ s ↦ s.moves = m

theorem KeepsMoves.pure (a : α) : KeepsMoves (Pure.pure a : Operation σ α) :=
  fun _ ↦ .pure fun _ h ↦ h

/-- A request does not touch the registry. -/
theorem KeepsMoves.request (r : Request) : KeepsMoves (request bus r) :=
  fun _ ↦ .request fun _ h ↦ h

theorem KeepsMoves.bind {x : Operation σ α} {f : α → Operation σ β} (hx : KeepsMoves x)
    (hf : ∀ a, KeepsMoves (f a)) : KeepsMoves (x >>= f) :=
  fun m ↦ (hx m).bind (fun a ↦ hf a m) fun _ _ h ↦ h

theorem keepsMoves_programRunning : KeepsMoves (programRunning bus) :=
  (KeepsMoves.request _).bind fun _ ↦ .pure _

theorem keepsMoves_position : KeepsMoves (position bus) := .request _

theorem keepsMoves_targetPosition : KeepsMoves (targetPosition bus) := by
  refine keepsMoves_programRunning.bind fun running ↦ ?_
  split
  · exact .request _
  · exact keepsMoves_position

theorem keepsMoves_ensureRunning (wasRunning : Bool) :
    KeepsMoves (ensureRunning bus wasRunning) := by
  cases wasRunning with
  | false => exact .request _
  | true =>
    refine keepsMoves_programRunning.bind fun running ↦ ?_
    split
    · exact .request _
    · exact .pure _

/-- Looking at a record writes nothing down yet. -/
theorem keepsMoves_look (record : MoveRecord) : KeepsMoves (look bus record) := by
  rw [look]
  split
  · refine keepsMoves_programRunning.bind fun running ↦ ?_
    split
    · exact .pure _
    · exact keepsMoves_position.bind fun _ ↦ .pure _
  · exact .pure _

/-! ### Operations that decide the last move -/

/-- A look leaves the status as it is, or decides a move in progress. -/
theorem look_status (record : MoveRecord) :
    Yields (fun _ ↦ True) (look bus record) fun status _ ↦
      status = record.status ∨ record.status = .moving ∧ status.isTerminal = true := by
  rw [look]
  split
  next hmoving =>
    refine .bindYields (R := fun _ _ ↦ True) (fun _ _ _ _ ↦ trivial) fun running ↦ ?_
    split
    · exact .yield fun _ _ ↦ .inl hmoving.symm
    · refine .bindYields (R := fun _ _ ↦ True) (fun _ _ _ _ ↦ trivial) fun p ↦ ?_
      exact .yield fun _ _ ↦ .inr ⟨hmoving, MoveStatus.isTerminal_ofHalt p record.target⟩
  next => exact .yield fun _ _ ↦ .inl rfl

/-- A look writes at most one status down and drops at most one record. -/
theorem moveStatus_effect (hm : m.Coherent) (id : Nat) (clear : Bool) :
    Meets (fun s ↦ s.moves = m) (moveStatus bus id clear)
      fun a s ↦ (Call.moveStatus id clear).Effect m a s.moves := by
  rw [moveStatus_eq]
  refine .bindRegistry (fun _ hs ↦ hs) ?_
  cases hget : m.get? id with
  | none => exact .throw fun s hs ↦ hs ▸ .refl
  | some record =>
    have hmem := MoveRegistry.mem_of_get? hget
    have hid := MoveRegistry.id_of_get? hget
    refine Meets.bind (((keepsMoves_look record m).and (look_status record)).weaken
      (fun s hs ↦ ⟨hs, trivial⟩) fun _ _ h ↦ h) (fun status s hs ↦ ?_) fun _ _ h ↦ h.1 ▸ .refl
    obtain ⟨hmoves, hstatus⟩ := hs
    rw [run_report, hmoves]
    refine ⟨m.setStatus id status, ?_, hid, ?_, rfl⟩
    · -- the status is the old one, or the verdict about the last move
      rcases hstatus status rfl with rfl | ⟨hmoving, hterminal⟩
      · rw [← hid, hm.setStatus_self hmem]
        exact .refl
      · rw [← hid]
        exact .decide (hm.lastId_of_moving record hmem hmoving) hmem hmoving hterminal
    · refine List.mem_map.mpr ⟨record, hmem, ?_⟩
      rw [if_pos hid]

/-- An interruption that succeeds leaves no move in progress. -/
theorem interruptMove_moves (hm : m.Coherent) :
    Meets (fun s ↦ s.moves = m) (interruptMove bus) fun a s ↦
      m.Resolves s.moves ∧ ∀ u, a = .ok u → s.moves.Decided := by
  refine meets_interruptMove _ (fun _ hs ↦ hs) ?_ fun id r hlast hget ↦ ?_
  · intro hnone s hs
    rw [hs]
    exact ⟨.refl, fun _ _ ↦ hm.decided_of_get?_lastId hnone⟩
  · refine Meets.bind (moveStatus_effect hm id false) (fun record ↦ ?_) ?_
    · -- the look has not decided the move, or this step does
      rintro s ⟨m₁, hresolves, hid, hmem, hmoves⟩
      obtain rfl : s.moves = m₁ := hmoves
      have hm₁ := hresolves.coherent hm
      have hlast₁ : s.moves.lastId = some record.id := by
        rw [hresolves.lastId_eq, hlast, hid]
      show m.Resolves _ ∧ _
      split
      next hmoving =>
        rw [← hid]
        refine ⟨hresolves.trans hm (.decide hlast₁ hmem hmoving rfl), fun _ _ ↦ ?_⟩
        exact hm₁.decided_setStatus hlast₁ rfl
      next hmoving =>
        refine ⟨hresolves, fun _ _ r hr hmoving' ↦ hmoving ?_⟩
        have heq : r.id = record.id :=
          Option.some.inj ((hm₁.lastId_of_moving r hr hmoving').symm.trans hlast₁)
        rw [← hm₁.eq_of_id hr hmem heq, hmoving']
    · exact fun e s hs ↦ ⟨hs, nofun⟩

/-- Beginning a move decides the last one, and then adds the new one. -/
theorem moveTo_effect (hm : m.Coherent) (target : Int32) :
    Meets (fun s ↦ s.moves = m) (moveTo bus target)
      fun a s ↦ (Call.moveTo target).Effect m a s.moves := by
  rw [moveTo_eq]
  refine .bind (keepsMoves_programRunning m) (fun wasRunning ↦ ?_) fun _ _ h ↦ h ▸ .refl
  refine .bind (KeepsMoves.request _ m) (fun _ ↦ ?_) fun _ _ h ↦ h ▸ .refl
  refine .bind (interruptMove_moves hm) (fun _ ↦ ?_) fun _ _ h ↦ h.1
  rintro s ⟨hresolves, hdecided⟩
  refine Meets.bind (S := fun a s' ↦ (Call.moveTo target).Effect m a s'.moves)
    (keepsMoves_ensureRunning wasRunning s.moves) (fun _ ↦ ?_) ?_ s rfl
  · intro s' hs'
    rw [run_issue]
    refine ⟨?_, s.moves, hresolves, hdecided () rfl, congrArg (·.begin target) hs'⟩
    show s'.moves.nextId = _
    rw [hs', hresolves.nextId_eq]
  · exact fun _ s' hs' ↦ hs' ▸ hresolves

/-- An interruption followed by requests decides at most the last move. -/
theorem interruptMove_bind {x : Operation σ α} (hm : m.Coherent) (hx : KeepsMoves x) :
    Meets (fun s ↦ s.moves = m) (interruptMove bus >>= fun _ ↦ x) fun _ s ↦ m.Resolves s.moves := by
  refine .bind (interruptMove_moves hm) (fun _ s hs ↦ ?_) fun _ _ h ↦ h.1
  have hkeep := hx s.moves s rfl
  rw [hkeep]
  exact hs.1

/-- **What a call does to the registry.** -/
theorem perform_effect (hm : m.Coherent) (c : Call) :
    Meets (fun s ↦ s.moves = m) (perform bus c) fun a s ↦ c.Effect m a s.moves := by
  have hkeeps {α : Type} {x : Operation σ α} (hx : KeepsMoves x) :
      Meets (fun s ↦ s.moves = m) x fun _ s ↦ m.Resolves s.moves :=
    (hx m).weaken (fun _ h ↦ h) fun _ _ h ↦ h ▸ .refl
  cases c with
  | moveTo target => exact moveTo_effect hm target
  | moveStatus id clear => exact moveStatus_effect hm id clear
  | rotate speed => exact interruptMove_bind hm (.bind (.request _) fun _ ↦ .request _)
  | stop => exact interruptMove_bind hm (.bind (.request _) fun _ ↦ .request _)
  | targetPosition => exact hkeeps keepsMoves_targetPosition
  | position => exact hkeeps keepsMoves_position
  | setEncoder count => exact hkeeps (.request _)
  | pendingMoves => exact hkeeps fun _ ↦ .bindRegistry (fun _ h ↦ h) (.pure fun _ h ↦ h)

end Controller

/-! ### Runs -/

namespace Call

variable {m m' : MoveRegistry} {c : Call} {a : Except DriveError c.Reply}

/-- A call keeps the registry coherent, and it uses up a number exactly if it begins a move. -/
theorem Effect.coherent (h : c.Effect m a m') (hm : m.Coherent) :
    m'.Coherent ∧ (c.began a = [] ∧ m'.nextId = m.nextId ∨
      c.began a = [m.nextId] ∧ m'.nextId = m.nextId + 1) := by
  cases c with
  | moveTo target =>
    cases a with
    | error e => exact ⟨h.coherent hm, .inl ⟨rfl, h.nextId_eq⟩⟩
    | ok id =>
      obtain ⟨rfl, m₁, hresolves, hdecided, rfl⟩ := h
      refine ⟨(hresolves.coherent hm).begin hdecided target, .inr ⟨rfl, ?_⟩⟩
      rw [MoveRegistry.nextId_begin, hresolves.nextId_eq]
  | moveStatus id clear =>
    cases a with
    | error e => exact ⟨h.coherent hm, .inl ⟨rfl, h.nextId_eq⟩⟩
    | ok record =>
      obtain ⟨m₁, hresolves, -, -, rfl⟩ := h
      have hm₁ := hresolves.coherent hm
      split
      · exact ⟨hm₁.erase id, .inl ⟨rfl, hresolves.nextId_eq⟩⟩
      · exact ⟨hm₁, .inl ⟨rfl, hresolves.nextId_eq⟩⟩
  | _ =>
    have hresolves : m.Resolves m' := h
    exact ⟨hresolves.coherent hm, .inl ⟨rfl, hresolves.nextId_eq⟩⟩

/-- A call that begins no move puts none in progress. -/
theorem Effect.mem_of_moving (h : c.Effect m a m') (hc : ∀ target, c ≠ .moveTo target)
    {r : MoveRecord} (hr : r ∈ m'.records) (hmoving : r.status = .moving) : r ∈ m.records := by
  cases c with
  | moveTo target => exact absurd rfl (hc target)
  | moveStatus id clear =>
    cases a with
    | error e => exact MoveRegistry.Resolves.mem_of_moving h hr hmoving
    | ok record =>
      obtain ⟨m₁, hresolves, -, -, rfl⟩ := h
      refine hresolves.mem_of_moving ?_ hmoving
      split at hr
      · exact (List.mem_filter.mp hr).1
      · exact hr
  | _ => exact MoveRegistry.Resolves.mem_of_moving h hr hmoving

/-- A call that fails decides at most the last move. -/
theorem Effect.resolves_of_error {e : DriveError} (h : c.Effect m (.error e) m') :
    m.Resolves m' := by
  cases c <;> exact h

end Call

namespace Controller

variable {σ : Type} {w : Setting σ} {ids : List Nat} {s s' : Session σ}

/-- A new controller has no moves on record. -/
theorem connect_moves (bus : Bus σ) (config : DeviceConfig) :
    Yields (fun _ ↦ True) (connect bus config) fun c _ ↦ c.moves = .empty := by
  have step {α : Type} {x : LinkM σ α} : Yields (fun _ ↦ True) x fun _ _ ↦ True :=
    fun _ _ _ _ ↦ trivial
  rw [connect]
  iterate 6 refine .bindYields step fun _ ↦ ?_
  exact .yield fun _ _ ↦ rfl

/-- `perform_effect` for a call that was made. -/
theorem effect_of_perform {c : Call} {a : Except DriveError c.Reply} (hs : s.moves.Coherent)
    (h : (perform w.bus c).run.run s = (a, s')) : c.Effect s.moves a s'.moves := by
  have heffect : c.Effect s.moves ((perform w.bus c).run.run s).1
      ((perform w.bus c).run.run s).2.moves := perform_effect hs c s rfl
  rwa [h] at heffect

/-- The registry of a run is coherent, and the moves begun so far are numbered from `0`. -/
theorem Run.coherent (h : Run w ids s) :
    s.moves.Coherent ∧ ids = List.range s.moves.nextId := by
  induction h with
  | @connect config controller link link' hstart hconnect =>
    have hempty := connect_moves w.bus config link trivial
    rw [hconnect] at hempty
    show controller.moves.Coherent ∧ [] = List.range controller.moves.nextId
    rw [hempty controller rfl]
    exact ⟨MoveRegistry.coherent_empty, rfl⟩
  | drift _ _ ih => exact ih
  | call _ _ hcall ih =>
    obtain ⟨hm, hids⟩ := ih
    obtain ⟨hm', ⟨hbegan, hnext⟩ | ⟨hbegan, hnext⟩⟩ := (effect_of_perform hm hcall).coherent hm
    · rw [hbegan, hnext, List.append_nil]
      exact ⟨hm', hids⟩
    · rw [hbegan, hnext, List.range_succ, ← hids]
      exact ⟨hm', rfl⟩

/-- **The registry invariant.** Whatever the module answers and however calls fail, the moves begun
so far have the numbers `0`, `1`, `2` and so on; at most one move on record is in progress, and that
one is the last; every record is found under its own number, which is at most the last one. A call
that fails leaves all numbers as they are and changes no record, except that the last move may have
been decided by it. -/
theorem Run.registry_invariant (h : Run w ids s) :
    ids = List.range ids.length ∧
      s.moves.movingCount ≤ 1 ∧
      (∀ r ∈ s.moves.records, s.moves.get? r.id = some r ∧
        ∃ last, s.moves.lastId = some last ∧ r.id ≤ last ∧ (r.status = .moving → r.id = last)) ∧
      ∀ c e s', (perform w.bus c).run.run s = (.error e, s') →
        s'.moves.lastId = s.moves.lastId ∧
        s'.moves.records.map (·.id) = s.moves.records.map (·.id) ∧
        ∀ id, s'.moves.get? id = s.moves.get? id ∨
          s.moves.lastId = some id ∧ ∃ r status, s.moves.get? id = some r ∧ r.status = .moving ∧
            status.isTerminal = true ∧ s'.moves.get? id = some { r with status } := by
  obtain ⟨hm, hids⟩ := h.coherent
  refine ⟨?_, hm.movingCount_le_one, ?_, ?_⟩
  · rw [hids, List.length_range]
  · intro r hr
    refine ⟨hm.get?_of_mem hr, ?_⟩
    have hlt := hm.lt_nextId r hr
    cases hlast : s.moves.lastId with
    | none =>
      rw [MoveRegistry.nextId, hlast] at hlt
      exact absurd hlt (Nat.not_lt_zero _)
    | some last =>
      rw [MoveRegistry.nextId, hlast] at hlt
      refine ⟨last, rfl, Nat.le_of_lt_succ hlt, ?_⟩
      intro hmoving
      exact (Option.some.inj (hlast.symm.trans (hm.lastId_of_moving r hr hmoving))).symm
  · intro c e s' hcall
    have hresolves := (effect_of_perform hm hcall).resolves_of_error
    refine ⟨hresolves.lastId_eq, hresolves.ids_eq, ?_⟩
    intro id
    exact hresolves.get?_eq hm id

/-- The answer to a request when the script has a word or an error for it. -/
def scriptedAnswer : (r : Request) → Except ModuleError Int32 → Except ModuleError r.Answer
  | .getParam _, a | .getGlobal _, a => a
  | .setParam .., a | .setParams _, a | .setGlobal .., a | .rotate _, a | .stop, a
  | .startProgram, a | .stopProgram, a | .upload _, a => a.map fun _ ↦ ()

/-- A module that answers from a script, and fails when the script is over. -/
def scripted : Setting (List (Except ModuleError Int32)) where
  bus r script :=
    match script with
    | [] => (.error (.communication "end of script"), [])
    | a :: rest => (scriptedAnswer r a, rest)
  starts _ := True
  drifts _ _ := True
  admits _ _ := True

/-- A run begins with any successful setup. -/
theorem Run.ofConnect {config : DeviceConfig} {controller : Controller} {link : σ}
    (hstart : w.starts link)
    (hconnect : ((FocusDrive.connect w.bus config).run.run link).1 = .ok controller) :
    Run w [] ⟨controller, ((FocusDrive.connect w.bus config).run.run link).2⟩ :=
  .connect hstart (Prod.ext hconnect rfl)

theorem Run.perform (h : Run w ids s) (c : Call) (hadmits : w.admits s c) :
    Run w (ids ++ c.began ((Controller.perform w.bus c).run.run s).1)
      ((Controller.perform w.bus c).run.run s).2 :=
  h.call hadmits rfl

/-- A second move fails after the first was found to be done, the first is dropped, and the third
gets the next number. A fourth move interrupts that one before it fails. -/
theorem Run.registry_invariant_scripted :
    ∃ s s' e, Run scripted [0, 1] s ∧ s.moves.records = [⟨1, 300, .moving⟩] ∧
      s.moves.movingCount ≤ 1 ∧
      (Controller.perform scripted.bus (.moveTo 400)).run.run s = (.error e, s') ∧
      s'.moves.records = [⟨1, 300, .interrupted⟩] ∧ s'.moves.lastId = s.moves.lastId := by
  have hconnect : Run scripted [] ⟨{ config := {} },
      [.ok 0, .ok 0, .ok 0, .ok 1, .ok 0, .ok 0, .ok 100, .error (.communication "timeout"),
        .ok 0, .ok 0, .ok 0, .ok 1, .ok 0, .ok 1]⟩ :=
    @Run.connect _ scripted {} _ (.replicate 6 (.ok 0) ++ _) _ trivial rfl
  have hfirst := (hconnect.perform (.moveTo 100) trivial).perform (.moveTo 200) trivial
  have hthird := (hfirst.perform (.moveStatus 0 true) trivial).perform (.moveTo 300) trivial
  obtain ⟨-, hcount, -, hfailed⟩ := hthird.registry_invariant
  exact ⟨_, _, _, hthird, rfl, hcount, rfl, rfl, (hfailed (.moveTo 400) _ _ rfl).1⟩

end Controller

end FocusDrive
