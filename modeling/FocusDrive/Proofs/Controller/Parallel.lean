import FocusDrive.Proofs.Controller.Run

/-!
# The same operation on two links

An operation reaches the module through its bus and in no other way. So if two links that are
related answer every request alike and stay related (`Simulates`), then every operation gives the
same answer on both of them, leaves the same registry and leaves the links related.

This is shown once, operation by operation (`parallel_perform`, `parallel_connect`). What is known
of single requests holds of calls from there: a property of the link that every request keeps is
kept by every call (`keepsLink_perform`) and holds in every session of a run (`Run.keepsLink`).
-/

namespace FocusDrive

/-- Run in related states, the operations give the same answer and states that are related. -/
def Parallel {τ υ α : Type} (S : τ → υ → Prop) (x : ExceptT DriveError (StateM τ) α)
    (y : ExceptT DriveError (StateM υ) α) : Prop :=
  ∀ s t, S s t → (x.run.run s).1 = (y.run.run t).1 ∧ S (x.run.run s).2 (y.run.run t).2

/-- Related links answer every request alike and stay related. -/
def Simulates {σ τ : Type} (R : σ → τ → Prop) (bus : Bus σ) (bus' : Bus τ) : Prop :=
  ∀ r l l', R l l' → (bus r l).1 = (bus' r l').1 ∧ R (bus r l).2 (bus' r l').2

/-- The controllers are the same and the links are related. -/
def Session.Related {σ τ : Type} (R : σ → τ → Prop) (s : Session σ) (t : Session τ) : Prop :=
  s.controller = t.controller ∧ R s.link t.link

namespace Parallel

variable {σ τ υ α β : Type} {S : τ → υ → Prop}

theorem pure (a : α) : Parallel S (Pure.pure a) (Pure.pure a) := fun _ _ h ↦ ⟨rfl, h⟩

theorem throw (e : DriveError) : Parallel (α := α) S (MonadExcept.throw e) (MonadExcept.throw e) :=
  fun _ _ h ↦ ⟨rfl, h⟩

/-- Sequences are parallel if their steps are. -/
theorem bind {x : ExceptT DriveError (StateM τ) α} {y : ExceptT DriveError (StateM υ) α}
    {f : α → ExceptT DriveError (StateM τ) β} {g : α → ExceptT DriveError (StateM υ) β}
    (hxy : Parallel S x y) (hfg : ∀ a, Parallel S (f a) (g a)) :
    Parallel S (x >>= f) (y >>= g) := by
  intro s t h
  obtain ⟨hanswer, hstates⟩ := hxy s t h
  show (StateT.bind x (ExceptT.bindCont f) s).1 = (StateT.bind y (ExceptT.bindCont g) t).1 ∧
    S (StateT.bind x (ExceptT.bindCont f) s).2 (StateT.bind y (ExceptT.bindCont g) t).2
  change (x s).1 = (y t).1 at hanswer
  change S (x s).2 (y t).2 at hstates
  rcases hx : x s with ⟨a, s'⟩
  rcases hy : y t with ⟨a', t'⟩
  rw [hx, hy] at hanswer hstates
  obtain rfl : a = a' := hanswer
  simp only [StateT.bind, Bind.bind, hx, hy]
  cases a with
  | error e => exact ⟨rfl, hstates⟩
  | ok v => exact hfg v s' t' hstates

theorem mapM {γ : Type} {f : γ → ExceptT DriveError (StateM τ) α}
    {g : γ → ExceptT DriveError (StateM υ) α} (hfg : ∀ c, Parallel S (f c) (g c)) (l : List γ) :
    Parallel S (l.mapM f) (l.mapM g) := by
  induction l with
  | nil => exact .pure []
  | cons c l ih =>
    rw [List.mapM_cons, List.mapM_cons]
    exact .bind (hfg c) fun _ ↦ .bind ih fun _ ↦ .pure _

/-! ### Steps of the host side -/

variable {R : σ → τ → Prop} {bus : Bus σ} {bus' : Bus τ}

/-- A request on related links is answered alike. -/
theorem busRequest (h : Simulates R bus bus') (failure : ModuleError → DriveError) (r : Request) :
    Parallel R (bus.request failure r) (bus'.request failure r) := by
  intro l l' hl
  obtain ⟨hanswer, hlinks⟩ := h r l l' hl
  exact ⟨congrArg (Except.mapError failure) hanswer, hlinks⟩

theorem request (h : Simulates R bus bus') (r : Request) :
    Parallel (Session.Related R) (Controller.request bus r) (Controller.request bus' r) := by
  rintro s t ⟨hcontroller, hlinks⟩
  obtain ⟨hanswer, hlinks⟩ := h r s.link t.link hlinks
  exact ⟨congrArg (Except.mapError _) hanswer, hcontroller, hlinks⟩

/-- The controllers are the same, and so are their registries. -/
theorem registry : Parallel (Session.Related R) Controller.registry Controller.registry :=
  fun _ _ h ↦ ⟨congrArg (fun c : Controller ↦ Except.ok c.moves) h.1, h⟩

/-- The same change of the same registry. -/
theorem modifyMoves (f : MoveRegistry → MoveRegistry) :
    Parallel (Session.Related R) (Controller.modifyMoves f) (Controller.modifyMoves f) :=
  fun _ _ h ↦ ⟨rfl, congrArg (fun c : Controller ↦ { c with moves := f c.moves }) h.1, h.2⟩

/-- A failure that is observed is the same failure on both links. -/
theorem observing {x : Operation σ α} {y : Operation τ α}
    (h : Parallel (Session.Related R) x y) :
    Parallel (Session.Related R) (observing x : Operation σ (Except DriveError α))
      (observing y : Operation τ (Except DriveError α)) := by
  intro s t hst
  obtain ⟨hanswer, hstates⟩ := h s t hst
  rw [Controller.run_observing, Controller.run_observing]
  exact ⟨congrArg Except.ok hanswer, hstates⟩

end Parallel

/-! ### Operations -/

section

variable {σ τ : Type} {R : σ → τ → Prop} {bus : Bus σ} {bus' : Bus τ}

/-- The setup is the same on related links. -/
theorem parallel_connect (h : Simulates R bus bus') (config : DeviceConfig) :
    Parallel R (connect bus config) (connect bus' config) := by
  rw [connect, connect]
  iterate 6 refine .bind (.busRequest h _ _) fun _ ↦ ?_
  exact .pure _

namespace Controller

theorem parallel_programRunning (h : Simulates R bus bus') :
    Parallel (Session.Related R) (programRunning bus) (programRunning bus') :=
  .bind (.request h _) fun _ ↦ .pure _

theorem parallel_position (h : Simulates R bus bus') :
    Parallel (Session.Related R) (position bus) (position bus') :=
  .request h _

theorem parallel_targetPosition (h : Simulates R bus bus') :
    Parallel (Session.Related R) (targetPosition bus) (targetPosition bus') := by
  refine .bind (parallel_programRunning h) fun running ↦ ?_
  cases running with
  | true => exact .request h _
  | false => exact parallel_position h

theorem parallel_look (h : Simulates R bus bus') (record : MoveRecord) :
    Parallel (Session.Related R) (look bus record) (look bus' record) := by
  rw [look, look]
  split
  · refine .bind (parallel_programRunning h) fun running ↦ ?_
    cases running with
    | true => exact .pure _
    | false => exact .bind (parallel_position h) fun _ ↦ .pure _
  · exact .pure _

theorem parallel_report (id : Nat) (clear : Bool) (record : MoveRecord) (status : MoveStatus) :
    Parallel (Session.Related R) (report id clear record status)
      (report id clear record status) := by
  refine .bind (.modifyMoves _) fun _ ↦ ?_
  split
  · exact .bind (.modifyMoves _) fun _ ↦ .pure _
  · exact .pure _

/-- A look is the same on related links, also one that fails for lack of a record. -/
theorem parallel_moveStatus (h : Simulates R bus bus') (id : Nat) (clear : Bool) :
    Parallel (Session.Related R) (moveStatus bus id clear) (moveStatus bus' id clear) := by
  rw [moveStatus_eq, moveStatus_eq]
  refine .bind .registry fun known ↦ ?_
  cases known.get? id with
  | none => exact .throw _
  | some record => exact .bind (parallel_look h record) fun _ ↦ parallel_report _ _ _ _

/-- An interruption passes over the same failures on related links. -/
theorem parallel_interruptMove (h : Simulates R bus bus') :
    Parallel (Session.Related R) (interruptMove bus) (interruptMove bus') := by
  rw [interruptMove, interruptMove]
  refine .bind .registry fun known ↦ ?_
  cases known.lastId with
  | none => exact .pure _
  | some id =>
    refine .bind (.observing (parallel_moveStatus h id false)) fun answer ↦ ?_
    rcases answer with e | record
    · cases e with
      | unknownMove k => exact .pure _
      | _ => exact .throw _
    · simp only
      split
      · exact .modifyMoves _
      · exact .pure _

theorem parallel_ensureRunning (h : Simulates R bus bus') (wasRunning : Bool) :
    Parallel (Session.Related R) (ensureRunning bus wasRunning)
      (ensureRunning bus' wasRunning) := by
  cases wasRunning with
  | false => exact .request h _
  | true =>
    refine .bind (parallel_programRunning h) fun running ↦ ?_
    cases running with
    | true => exact .pure _
    | false => exact .request h _

/-- Beginning a move is the same on related links. -/
theorem parallel_moveTo (h : Simulates R bus bus') (target : Int32) :
    Parallel (Session.Related R) (moveTo bus target) (moveTo bus' target) := by
  rw [moveTo_eq, moveTo_eq]
  refine .bind (parallel_programRunning h) fun wasRunning ↦ .bind (.request h _) fun _ ↦ ?_
  refine .bind (parallel_interruptMove h) fun _ ↦ .bind (parallel_ensureRunning h wasRunning) ?_
  exact fun _ ↦ .bind .registry fun _ ↦ .bind (.modifyMoves _) fun _ ↦ .pure _

/-- **Calls on two links.** -/
theorem parallel_perform (h : Simulates R bus bus') (c : Call) :
    Parallel (Session.Related R) (perform bus c) (perform bus' c) := by
  cases c with
  | moveTo target => exact parallel_moveTo h target
  | moveStatus id clear => exact parallel_moveStatus h id clear
  | rotate speed | stop =>
    exact .bind (parallel_interruptMove h) fun _ ↦ .bind (.request h _) fun _ ↦ .request h _
  | targetPosition => exact parallel_targetPosition h
  | position => exact parallel_position h
  | setEncoder count => exact .request h _
  | pendingMoves => exact .bind .registry fun _ ↦ .pure _

/-! ### What requests keep true of the link -/

variable {P : σ → Prop} (hP : ∀ r l, P l → P (bus r l).2)

include hP

/-- A link with a property that requests keep is a simulation of itself. -/
theorem simulates_self : Simulates (fun l l' ↦ l = l' ∧ P l) bus bus := by
  rintro r l _ ⟨rfl, hl⟩
  exact ⟨rfl, rfl, hP r l hl⟩

/-- The setup keeps what every request keeps. -/
theorem keepsLink_connect (config : DeviceConfig) {l : σ} (hl : P l) :
    P ((connect bus config).run.run l).2 :=
  (parallel_connect (simulates_self hP) config l l ⟨rfl, hl⟩).2.2

/-- What every request keeps true of the link, every call keeps true. -/
theorem keepsLink_perform (c : Call) {s : Session σ} (hs : P s.link) :
    P ((perform bus c).run.run s).2.link :=
  (parallel_perform (simulates_self hP) c s s ⟨rfl, rfl, hs⟩).2.2.2

omit hP

/-- What requests and drifts keep true of the link is true in every session of a run. -/
theorem Run.keepsLink {w : Setting σ} (hstarts : ∀ l, w.starts l → P l)
    (hdrifts : ∀ l l', w.drifts l l' → P l → P l') (hbus : ∀ r l, P l → P (w.bus r l).2)
    {ids : List Nat} {s : Session σ} (h : Run w ids s) : P s.link := by
  induction h with
  | @connect config _ link _ hstart hconnect =>
    have hlink := keepsLink_connect hbus config (hstarts link hstart)
    rwa [hconnect] at hlink
  | drift _ hdrift ih => exact hdrifts _ _ hdrift ih
  | @call _ _ _ c _ _ _ hcall ih =>
    have hlink := keepsLink_perform hbus c ih
    rwa [hcall] at hlink

end Controller

end

end FocusDrive
