import FocusDrive.Controller

/-!
# Contracts

The operations of the host side succeed or fail, and they act on a state in both cases. A contract
`Meets P x Q` says that `x`, run in a state with `P`, gives an answer and a state with `Q`; what is
to hold after a failure is part of `Q`, so no contract is silent about it.

There is one rule for each thing that an operation is built from. A proof about an operation follows
its text with `Meets.bind` and states what holds between two steps. Two forms of contracts have a
simpler rule: after a step that cannot fail (`Succeeds`), and before an end that only matters if it
is a success (`Yields`), there is nothing to show about failures.
-/

namespace FocusDrive

/-- Run in a state with `P`, the operation gives an answer and a state with `Q`. -/
def Meets {τ α : Type} (P : τ → Prop) (x : ExceptT DriveError (StateM τ) α)
    (Q : Except DriveError α → τ → Prop) : Prop :=
  ∀ s, P s → Q (x.run.run s).1 (x.run.run s).2

/-- Run in a state with `P`, the operation succeeds, and value and state have `R`. -/
abbrev Succeeds {τ α : Type} (P : τ → Prop) (x : ExceptT DriveError (StateM τ) α)
    (R : α → τ → Prop) : Prop :=
  Meets P x fun a s ↦ ∃ v, a = .ok v ∧ R v s

/-- Run in a state with `P`, the operation may fail; if it succeeds, value and state have `R`. -/
abbrev Yields {τ α : Type} (P : τ → Prop) (x : ExceptT DriveError (StateM τ) α)
    (R : α → τ → Prop) : Prop :=
  Meets P x fun a s ↦ ∀ v, a = .ok v → R v s

namespace Meets

variable {τ σ α β : Type} {P P' : τ → Prop} {x : ExceptT DriveError (StateM τ) α}
  {Q Q' R : Except DriveError α → τ → Prop}

/-- The rule of consequence. -/
theorem weaken (h : Meets P x Q) (hpre : ∀ s, P' s → P s) (hpost : ∀ a s, Q a s → Q' a s) :
    Meets P' x Q' :=
  fun s hs ↦ hpost _ _ (h s (hpre s hs))

/-- Two contracts of one operation hold together. -/
theorem and (h : Meets P x Q) (h' : Meets P' x Q') :
    Meets (fun s ↦ P s ∧ P' s) x fun a s ↦ Q a s ∧ Q' a s :=
  fun s hs ↦ ⟨h s hs.1, h' s hs.2⟩

/-- The rule for a precondition with a part that is not about the state. -/
theorem assume {p : Prop} (h : p → Meets P x Q) : Meets (fun s ↦ p ∧ P s) x Q :=
  fun s hs ↦ h hs.1 s hs.2

theorem pure {a : α} (h : ∀ s, P s → Q (.ok a) s) :
    Meets P (Pure.pure a : ExceptT DriveError (StateM τ) α) Q :=
  h

theorem throw {e : DriveError} (h : ∀ s, P s → Q (.error e) s) :
    Meets P (MonadExcept.throw e : ExceptT DriveError (StateM τ) α) Q :=
  h

/-- The rule for a sequence: what follows the first step may rely on how that step succeeded. -/
theorem bind {f : α → ExceptT DriveError (StateM τ) β} {S : Except DriveError β → τ → Prop}
    (hx : Meets P x R) (hf : ∀ a, Meets (R (.ok a)) (f a) S)
    (herror : ∀ e s, R (.error e) s → S (.error e) s) : Meets P (x >>= f) S := by
  intro s hs
  have hfirst := hx s hs
  show S (StateT.bind x (ExceptT.bindCont f) s).1 (StateT.bind x (ExceptT.bindCont f) s).2
  change R (x s).1 (x s).2 at hfirst
  rcases hrun : x s with ⟨e | a, s'⟩
  all_goals
    rw [hrun] at hfirst
    simp only [StateT.bind, Bind.bind, hrun]
  · exact herror _ s' hfirst
  · exact hf _ s' hfirst

theorem succeed {a : α} {R : α → τ → Prop} (h : ∀ s, P s → R a s) :
    Succeeds P (Pure.pure a : ExceptT DriveError (StateM τ) α) R :=
  fun s hs ↦ ⟨a, rfl, h s hs⟩

/-- The rule for a sequence whose first step cannot fail. -/
theorem andThen {R : α → τ → Prop} {f : α → ExceptT DriveError (StateM τ) β}
    {S : Except DriveError β → τ → Prop} (hx : Succeeds P x R) (hf : ∀ v, Meets (R v) (f v) S) :
    Meets P (x >>= f) S := by
  refine hx.bind (fun v s hs ↦ ?_) ?_
  · obtain ⟨v', hv, hR⟩ := hs
    obtain rfl := Except.ok.inj hv
    exact hf v s hR
  · rintro e s ⟨v, herror, -⟩
    cases herror

/-- The rule for a sequence whose first step fails. -/
theorem bindFails {e : DriveError} {R : τ → Prop} {f : α → ExceptT DriveError (StateM τ) β}
    {S : Except DriveError β → τ → Prop} (hx : Meets P x fun a s ↦ a = .error e ∧ R s)
    (herror : ∀ s, R s → S (.error e) s) : Meets P (x >>= f) S := by
  refine hx.bind ?_ ?_
  · rintro v s ⟨hok, -⟩
    cases hok
  · rintro e' s ⟨he, hR⟩
    obtain rfl := Except.error.inj he
    exact herror s hR

theorem yield {a : α} {R : α → τ → Prop} (h : ∀ s, P s → R a s) :
    Yields P (Pure.pure a : ExceptT DriveError (StateM τ) α) R :=
  fun s hs _ hv ↦ Except.ok.inj hv ▸ h s hs

/-- The rule for a sequence whose failures do not matter. -/
theorem bindYields {R : α → τ → Prop} {f : α → ExceptT DriveError (StateM τ) β}
    {S : β → τ → Prop} (hx : Yields P x R) (hf : ∀ v, Yields (R v) (f v) S) :
    Yields P (x >>= f) S := by
  refine hx.bind (fun v s hs ↦ hf v s (hs v rfl)) ?_
  intro e s _ v herror
  cases herror

/-! ### Steps of the host side -/

variable {bus : Bus σ} {I : Session σ → Prop}

/-- The rule for a request on a link alone. -/
theorem busRequest {P : σ → Prop} {failure : ModuleError → DriveError} {r : Request}
    {Q : Except DriveError r.Answer → σ → Prop}
    (h : ∀ l, P l → Q ((bus r l).1.mapError failure) (bus r l).2) :
    Meets P (bus.request failure r) Q :=
  h

/-- The rule for a request in a session: it is answered by the link, and the registry stays. -/
theorem request {r : Request} {Q : Except DriveError r.Answer → Session σ → Prop}
    (h : ∀ s, I s → Q ((bus r s.link).1.mapError .transport) { s with link := (bus r s.link).2 }) :
    Meets I (Controller.request bus r) Q :=
  h

/-- What follows a look at the registry works with the registry that there is. -/
theorem bindRegistry {m : MoveRegistry} {f : MoveRegistry → Operation σ β}
    {S : Except DriveError β → Session σ → Prop} (hm : ∀ s, I s → s.controller.moves = m)
    (h : Meets I (f m) S) : Meets I (Controller.registry >>= f) S := by
  intro s hs
  have hf := h s hs
  rw [← hm s hs] at hf
  exact hf

/-- The rule for a change of the registry, which cannot fail. -/
theorem modifyMoves {f : MoveRegistry → MoveRegistry}
    {Q : Except DriveError Unit → Session σ → Prop}
    (h : ∀ s, I s → Q (.ok ())
      { s with controller := { s.controller with moves := f s.controller.moves } }) :
    Meets I (Controller.modifyMoves f) Q :=
  h

end Meets

end FocusDrive
