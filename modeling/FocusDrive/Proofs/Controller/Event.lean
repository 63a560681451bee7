import FocusDrive.Proofs.Controller.Registry

/-!
# What a call does to one record

An event is a call with its answer. For one move on record a call can do little, whatever the module
answers (`Event.Treats`): the record stays, and at most its outcome is decided, once
(`MoveRecord.Advances`); a look at the move reports the record as it leaves it; and only a look that
reports an outcome and was asked to may drop it. `Controller.treats_of_perform` shows this once for
all calls.

An answer that was lost on the way says nothing, so a look whose request failed is none
(`Event.look?`).
-/

namespace FocusDrive

/-- A call and its answer. -/
structure Event where
  /-- The call. -/
  call : Call
  /-- The answer. -/
  answer : Except DriveError call.Reply

/-- What a look at a move was told. -/
structure Look where
  /-- Whether the record was to be dropped once the move is decided. -/
  clear : Bool
  /-- The answer. -/
  answer : Except DriveError MoveRecord

namespace Event

/-- The number of the move that the call began, if it began one. -/
def began (e : Event) : List Nat := e.call.began e.answer

/-- Whether a request failed and there is no real answer. -/
def isLost {α : Type} : Except DriveError α → Bool
  | .error (.transport _) => true
  | _ => false

/-- The look at move `id` that the event is, if its answer was not lost on the way. -/
def look? (id : Nat) : Event → Option Look
  | ⟨.moveStatus k clear, answer⟩ =>
    if k = id ∧ isLost answer = false then some ⟨clear, answer⟩ else none
  | _ => none

/-- An event that begins a move is a call for it that succeeded. -/
theorem eq_of_mem_began {e : Event} {id : Nat} (h : id ∈ e.began) :
    ∃ target, e = ⟨.moveTo target, .ok id⟩ := by
  obtain ⟨c, a⟩ := e
  cases c with
  | moveTo target =>
    cases a with
    | error => exact absurd h List.not_mem_nil
    | ok k =>
      obtain rfl := List.mem_singleton.mp h
      exact ⟨target, rfl⟩
  | _ => exact absurd h List.not_mem_nil

/-- Only a look at move `id` counts as one. -/
theorem eq_of_look? {e : Event} {id : Nat} {look : Look} (h : e.look? id = some look) :
    e = ⟨.moveStatus id look.clear, look.answer⟩ := by
  obtain ⟨c, a⟩ := e
  cases c with
  | moveStatus k clear =>
    rw [look?] at h
    split at h
    next hlook =>
      obtain ⟨rfl, -⟩ := hlook
      obtain rfl := Option.some.inj h
      rfl
    next => cases h
  | _ => cases h

end Event

/-! ### One record -/

/-- The record is unchanged, or its move was in progress and is decided now. -/
inductive MoveRecord.Advances (r : MoveRecord) : MoveRecord → Prop
  /-- Nothing happened. -/
  | refl : Advances r r
  /-- The move was decided. -/
  | decide {status : MoveStatus} (hmoving : r.status = .moving)
      (hterminal : status.isTerminal = true) : Advances r { r with status }

/-- A record that advances changes nothing but its status. -/
theorem MoveRecord.Advances.exists_status {r r' : MoveRecord} (h : r.Advances r') :
    ∃ status, some r' = some { r with status } := by
  cases h with
  | refl => exact ⟨r.status, rfl⟩
  | decide => exact ⟨_, rfl⟩

namespace MoveRegistry

variable {m m' : MoveRegistry} {r : MoveRecord} {id : Nat}

/-- A number that was not given out yet is not on record. -/
theorem Coherent.get?_of_nextId_le (h : m.Coherent) (hid : m.nextId ≤ id) : m.get? id = none := by
  rcases hget : m.get? id with _ | r
  · rfl
  · have hlt := h.lt_nextId r (mem_of_get? hget)
    rw [id_of_get? hget] at hlt
    exact absurd hlt (Nat.not_lt.mpr hid)

/-- Resolving keeps every record, and only its status may advance. -/
theorem Resolves.advances (h : m.Resolves m') (hm : m.Coherent) (hget : m.get? id = some r) :
    ∃ r', r.Advances r' ∧ m'.get? id = some r' := by
  rcases h.get?_eq hm id with heq | ⟨-, r₀, status, hget₀, hmoving, hterminal, hget'⟩
  · exact ⟨r, .refl, heq.trans hget⟩
  · obtain rfl := Option.some.inj (hget.symm.trans hget₀)
    exact ⟨_, .decide hmoving hterminal, hget'⟩

theorem Resolves.get?_eq_none (h : m.Resolves m') (hm : m.Coherent) (hget : m.get? id = none) :
    m'.get? id = none := by
  rcases h.get?_eq hm id with heq | ⟨-, r, _, hget', -⟩
  · exact heq.trans hget
  · rw [hget] at hget'
    cases hget'

/-- The new status is found under the number of the record. -/
theorem Coherent.get?_setStatus_self (h : m.Coherent) (hr : r ∈ m.records) (status : MoveStatus) :
    (m.setStatus r.id status).get? r.id = some { r with status } := by
  rw [MoveRegistry.get?_setStatus, if_pos rfl, h.get?_of_mem hr]
  rfl

/-! A look may drop the record. -/

/-- The record that may have been dropped is found unless it was. -/
theorem get?_ite_erase_self (hget : m.get? id = some r) (drop : Bool) :
    (if drop = true then m.erase id else m).get? id = if drop = true then none else some r := by
  split
  · rw [get?_erase, if_pos rfl]
  · exact hget

/-- The other records are found in both cases. -/
theorem get?_ite_erase_of_ne {k : Nat} (hne : k ≠ id) (drop : Bool) :
    (if drop = true then m.erase id else m).get? k = m.get? k := by
  split
  · rw [get?_erase, if_neg hne]
  · rfl

end MoveRegistry

/-- Whether the call takes over from a move in progress. -/
def Call.supersedes : Call → Bool
  | moveTo _ | rotate _ | stop => true
  | _ => false

/-! ### Operations and records -/

namespace Controller

variable {σ α β : Type} {bus : Bus σ} {m : MoveRegistry}

/-- A look leaves the records of other moves alone. -/
theorem get?_moveStatus_of_ne {id k : Nat}
    (hne : k ≠ id) (clear : Bool) :
    Meets (fun s : Session σ ↦ s.moves = m) (moveStatus bus id clear)
      fun _ s ↦ s.moves.get? k = m.get? k := by
  rw [moveStatus_eq]
  refine .bindRegistry (fun _ hs ↦ hs) ?_
  cases m.get? id with
  | none => exact .throw fun _ hs ↦ hs ▸ rfl
  | some record =>
    refine (keepsMoves_look record m).bind (fun status s hs ↦ ?_) fun _ _ hs ↦ hs ▸ rfl
    rw [run_report, hs]
    show (if _ then _ else _ : MoveRegistry).get? k = _
    rw [MoveRegistry.get?_ite_erase_of_ne hne, MoveRegistry.get?_setStatus, if_neg hne]

/-- A call that neither supersedes a move nor looks at one leaves the registry alone. -/
theorem keepsMoves_perform {c : Call} (hc : c.supersedes = false)
    (hlook : ∀ id clear, c ≠ .moveStatus id clear) : KeepsMoves (perform bus c) := by
  cases c with
  | moveTo | rotate | stop => cases hc
  | moveStatus id clear => exact absurd rfl (hlook id clear)
  | targetPosition => exact keepsMoves_targetPosition
  | position => exact keepsMoves_position
  | setEncoder => exact .request _
  | pendingMoves => exact fun _ ↦ .bindRegistry (fun _ h ↦ h) (.pure fun _ h ↦ h)

end Controller

/-! ### One event -/

/-- What an event does to the record under `id`, and what it tells about it. -/
inductive Event.Treats (id : Nat) (e : Event) : Option MoveRecord → Option MoveRecord → Prop
  /-- The record stays unseen. -/
  | unseen {r r' : MoveRecord} (hlook : e.look? id = none) (hadvances : r.Advances r') :
      Treats id e (some r) (some r')
  /-- The record is reported as it is left, or dropped. -/
  | seen {r r' : MoveRecord} {clear : Bool} (hlook : e.look? id = some ⟨clear, .ok r'⟩)
      (hadvances : r.Advances r') :
      Treats id e (some r) (if clear && r'.status.isTerminal then none else some r')
  /-- There is no record, and a look finds none. -/
  | absent (hlook : ∀ look, e.look? id = some look → look.answer = .error (.unknownMove id)) :
      Treats id e none none
  /-- The move is begun. -/
  | begun {target : Int32} (hcall : e = ⟨.moveTo target, .ok id⟩) :
      Treats id e none (some ⟨id, target, .moving⟩)

namespace Event.Treats

variable {e : Event} {id : Nat} {record : Option MoveRecord} {r : MoveRecord}

/-- Whoever looks at a move that is not on record, and is not begun by the call, is told so. -/
theorem look_of_none (h : e.Treats id none record) (hbegan : id ∉ e.began) :
    ∀ look, e.look? id = some look → look.answer = .error (.unknownMove id) := by
  cases h with
  | absent hlook => exact hlook
  | begun hcall =>
    rw [hcall] at hbegan
    exact absurd (List.mem_singleton_self id) hbegan

/-- A record that was not there is that of a new move. -/
theorem moving_of_new (h : e.Treats id none (some r)) : r.status = .moving := by
  generalize hrecord : some r = record at h
  cases h with
  | absent => cases hrecord
  | begun => exact Option.some.inj hrecord ▸ rfl

/-- A record that stays advances. -/
theorem advances {r' : MoveRecord} (h : e.Treats id (some r) (some r')) : r.Advances r' := by
  generalize hrecord : some r' = record at h
  cases h with
  | unseen _ hadvances => exact Option.some.inj hrecord ▸ hadvances
  | seen _ hadvances =>
    split at hrecord
    · cases hrecord
    · exact Option.some.inj hrecord ▸ hadvances

/-- A record stays, unless a look at it reports its outcome and is asked to drop it. -/
theorem kept_or_dropped (h : e.Treats id (some r) record) :
    (∃ status, record = some { r with status }) ∨
      ∃ reported, e = ⟨.moveStatus id true, .ok reported⟩ ∧ reported.status.isTerminal = true := by
  cases h with
  | unseen _ hadvances => exact .inl hadvances.exists_status
  | @seen _ r' clear hlook hadvances =>
    split
    next hdrop =>
      obtain ⟨rfl, hterminal⟩ := Bool.and_eq_true_iff.mp hdrop
      exact .inr ⟨r', eq_of_look? hlook, hterminal⟩
    next => exact .inl hadvances.exists_status

end Event.Treats

namespace MoveRegistry

variable {m m' : MoveRegistry} {e : Event} {id : Nat}

/-- A new move is in progress. -/
theorem get?_of_begun {target : Int32} (h : (Call.moveTo target).Effect m (.ok id) m') :
    m'.get? id = some ⟨id, target, .moving⟩ := by
  obtain ⟨rfl, m₁, hresolves, -, rfl⟩ := h
  rw [get?_begin, hresolves.nextId_eq, if_pos rfl]

/-- A call that only resolves treats every move well. -/
theorem Resolves.treats (h : m.Resolves m') (hm : m.Coherent) (hlook : e.look? id = none) :
    e.Treats id (m.get? id) (m'.get? id) := by
  cases hget : m.get? id with
  | none =>
    rw [h.get?_eq_none hm hget]
    exact .absent fun look hsome ↦ nomatch hlook.symm.trans hsome
  | some r =>
    obtain ⟨r', hadvances, hget'⟩ := h.advances hm hget
    rw [hget']
    exact .unseen hlook hadvances

end MoveRegistry

namespace Controller

variable {σ : Type} {w : Setting σ} {s s' : Session σ}

/-- The begin of a move treats the other moves as a supersession does, and the new one as a
begin. -/
theorem treats_moveTo {m m' : MoveRegistry} (hm : m.Coherent) {target : Int32}
    {a : Except DriveError Nat} (h : (Call.moveTo target).Effect m a m') (id : Nat) :
    (⟨.moveTo target, a⟩ : Event).Treats id (m.get? id) (m'.get? id) := by
  cases a with
  | error err => exact h.resolves_of_error.treats hm rfl
  | ok k =>
    obtain ⟨rfl, m₁, hresolves, -, rfl⟩ := h
    rw [MoveRegistry.get?_begin, hresolves.nextId_eq]
    split
    next hid =>
      subst hid
      rw [hm.get?_of_nextId_le (Nat.le_refl _)]
      exact .begun rfl
    next => exact hresolves.treats hm rfl

/-- A look treats the move that it is about as it reports, and leaves the others alone. -/
theorem treats_moveStatus {m m' : MoveRegistry} (hm : m.Coherent) {k : Nat} {clear : Bool}
    {a : Except DriveError MoveRecord} (h : (Call.moveStatus k clear).Effect m a m')
    (herror : ∀ err, a = .error err →
      (∃ cause, err = .transport cause) ∨ m.get? k = none ∧ err = .unknownMove k) (id : Nat) :
    (⟨.moveStatus k clear, a⟩ : Event).Treats id (m.get? id) (m'.get? id) := by
  cases a with
  | error err =>
    have hresolves := h.resolves_of_error
    rcases herror err rfl with ⟨cause, rfl⟩ | ⟨hget, rfl⟩
    · exact hresolves.treats hm (if_neg fun h ↦ nomatch h.2)
    · rcases eq_or_ne k id with rfl | hne
      · rw [hget, hresolves.get?_eq_none hm hget]
        refine .absent fun look hlook ↦ ?_
        rw [Event.look?, if_pos ⟨rfl, rfl⟩] at hlook
        obtain rfl := Option.some.inj hlook
        rfl
      · exact hresolves.treats hm (if_neg fun h ↦ hne h.1)
  | ok record =>
    obtain ⟨m₁, hresolves, rfl, hmem, rfl⟩ := h
    have hget₁ := (hresolves.coherent hm).get?_of_mem hmem
    rcases eq_or_ne record.id id with rfl | hne
    · -- the record that is reported is the one that is left
      cases hget : m.get? record.id with
      | none =>
        rw [hresolves.get?_eq_none hm hget] at hget₁
        cases hget₁
      | some r =>
        obtain ⟨r', hadvances, hget'⟩ := hresolves.advances hm hget
        obtain rfl := Option.some.inj (hget₁.symm.trans hget')
        rw [MoveRegistry.get?_ite_erase_self hget₁]
        exact .seen (if_pos ⟨rfl, rfl⟩) hadvances
    · rw [MoveRegistry.get?_ite_erase_of_ne hne.symm]
      exact hresolves.treats hm (if_neg fun h ↦ hne h.1)

/-- **What a call does to a record.** -/
theorem treats_of_perform {c : Call} {a : Except DriveError c.Reply} (hs : s.moves.Coherent)
    (hcall : (perform w.bus c).run.run s = (a, s')) (id : Nat) :
    (⟨c, a⟩ : Event).Treats id (s.moves.get? id) (s'.moves.get? id) := by
  have heffect := effect_of_perform hs hcall
  cases c with
  | moveTo target => exact treats_moveTo hs heffect id
  | moveStatus k clear =>
    refine treats_moveStatus hs heffect ?_ id
    have herror := moveStatus_error w.bus k clear s rfl
    rwa [show (moveStatus w.bus k clear).run.run s = (a, s') from hcall] at herror
  | _ => exact MoveRegistry.Resolves.treats heffect hs rfl

end Controller

end FocusDrive
