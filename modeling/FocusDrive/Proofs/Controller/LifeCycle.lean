import FocusDrive.Proofs.Controller.Event

/-!
# The life of a move

A history (`Controller.History`) is a run that keeps its calls and their answers. What it says about
one move are the answers to the looks at it (`looks`). They follow a fixed pattern (`LifeCycle`),
whatever the module does: every event continues it (`LifeCycle.event`), and a history keeps it by
induction.

Whether the program runs can also be asked outside of these calls. This leaves the registry alone,
so it is one of the changes of the link between two calls.
-/

namespace FocusDrive

/-- The numbers given out before a move was begun, its own, and those given out after it. -/
theorem flatMap_began_split (before after : List Event) (target : Int32) (id : Nat) :
    (before ++ ⟨.moveTo target, .ok id⟩ :: after).flatMap Event.began =
      before.flatMap Event.began ++ id :: after.flatMap Event.began := by
  rw [List.flatMap_append, List.flatMap_cons]
  rfl

/-- The looks at move `id` among the events. -/
def looks (id : Nat) (events : List Event) : List Look := events.filterMap (Event.look? id)

/-- The last event adds its own look, if it is one. -/
theorem looks_append_singleton (id : Nat) (events : List Event) (e : Event) :
    looks id (events ++ [e]) = looks id events ++ (e.look? id).toList := by
  rw [looks, List.filterMap_append, looks, List.filterMap_cons]
  cases e.look? id <;> rfl

/-- The looks at a move since it was begun, and the record that is left of it. -/
inductive LifeCycle (id : Nat) (target : Int32) : List Look → Option MoveRecord → Prop
  /-- The looks found it in progress and then, once it was decided, found its outcome. -/
  | kept {asked settled : List Look} {status : MoveStatus}
      (hasked : ∀ look ∈ asked, look.answer = .ok ⟨id, target, .moving⟩)
      (hsettled : ∀ look ∈ settled, look = ⟨false, .ok ⟨id, target, status⟩⟩)
      (hterminal : settled ≠ [] → status.isTerminal = true) :
      LifeCycle id target (asked ++ settled) (some ⟨id, target, status⟩)
  /-- After that a look found its outcome and dropped the record, and later ones found nothing. -/
  | dropped {asked settled forgotten : List Look} {status : MoveStatus}
      (hasked : ∀ look ∈ asked, look.answer = .ok ⟨id, target, .moving⟩)
      (hsettled : ∀ look ∈ settled, look = ⟨false, .ok ⟨id, target, status⟩⟩)
      (hterminal : status.isTerminal = true)
      (hforgotten : ∀ look ∈ forgotten, look.answer = .error (.unknownMove id)) :
      LifeCycle id target
        (asked ++ settled ++ ⟨true, .ok ⟨id, target, status⟩⟩ :: forgotten) none

/-! ### The pattern -/

namespace LifeCycle

variable {id : Nat} {target : Int32} {past : List Look} {r r' : MoveRecord}
  {record record' : Option MoveRecord}

/-- A move that was just begun. -/
theorem begun (id : Nat) (target : Int32) : LifeCycle id target [] (some ⟨id, target, .moving⟩) :=
  @LifeCycle.kept id target [] [] .moving nofun nofun (absurd rfl)

/-- A move in progress was never found decided. -/
theorem asked_of_moving (h : LifeCycle id target past (some r)) (hmoving : r.status = .moving) :
    r = ⟨id, target, .moving⟩ ∧ ∀ look ∈ past, look.answer = .ok ⟨id, target, .moving⟩ := by
  cases h with
  | @kept asked settled status hasked hsettled hterminal =>
    obtain rfl : status = .moving := hmoving
    obtain rfl : settled = [] := by
      by_contra hne
      exact absurd (hterminal hne) (by decide)
    rw [List.append_nil]
    exact ⟨rfl, hasked⟩

/-- Nothing was seen of what became of the record. -/
theorem advance (h : LifeCycle id target past (some r)) (hadvances : r.Advances r') :
    LifeCycle id target past (some r') := by
  cases hadvances with
  | refl => exact h
  | @decide status hmoving hterminal =>
    obtain ⟨rfl, hasked⟩ := h.asked_of_moving hmoving
    rw [← List.append_nil past]
    exact .kept hasked nofun (absurd rfl)

/-- The record was reported, and dropped if this was asked for and the move is decided. -/
theorem look (h : LifeCycle id target past (some r)) (clear : Bool) :
    LifeCycle id target (past ++ [⟨clear, .ok r⟩])
      (if clear && r.status.isTerminal then none else some r) := by
  cases hterminal : r.status.isTerminal with
  | false =>
    -- one more look that finds the move in progress, after others that did
    have hmoving : r.status = .moving := by
      by_contra hne
      rw [MoveStatus.isTerminal_iff.mpr hne] at hterminal
      cases hterminal
    obtain ⟨rfl, hasked⟩ := h.asked_of_moving hmoving
    rw [Bool.and_false, if_neg Bool.false_ne_true, ← List.append_nil (past ++ _)]
    refine .kept ?_ nofun (absurd rfl)
    intro look hlook
    rcases List.mem_append.mp hlook with hlook | hlook
    · exact hasked look hlook
    · rw [List.mem_singleton.mp hlook]
  | true =>
    -- what was reported was settled before, or is from now on
    cases h with
    | @kept asked settled status hasked hsettled _ =>
      cases clear with
      | true => exact .dropped hasked hsettled hterminal nofun
      | false =>
        rw [List.append_assoc]
        refine .kept hasked ?_ fun _ ↦ hterminal
        intro look hlook
        rcases List.mem_append.mp hlook with hlook | hlook
        · exact hsettled look hlook
        · exact List.mem_singleton.mp hlook

/-- A record that was dropped is not found any more. -/
theorem look_none (h : LifeCycle id target past none) {look : Look}
    (hlook : look.answer = .error (.unknownMove id)) :
    LifeCycle id target (past ++ [look]) none := by
  cases h with
  | dropped hasked hsettled hterminal hforgotten =>
    rw [List.append_assoc, List.cons_append]
    refine .dropped hasked hsettled hterminal ?_
    intro look' hlook'
    rcases List.mem_append.mp hlook' with hlook' | hlook'
    · exact hforgotten look' hlook'
    · rw [List.mem_singleton.mp hlook', hlook]

/-- An event that does not begin the move continues its life. -/
theorem event (h : LifeCycle id target past record) {e : Event}
    (he : e.Treats id record record') (hbegan : id ∉ e.began) :
    LifeCycle id target (past ++ (e.look? id).toList) record' := by
  cases he with
  | unseen hlook hadvances =>
    rw [hlook, Option.toList_none, List.append_nil]
    exact h.advance hadvances
  | seen hlook hadvances =>
    rw [hlook, Option.toList_some]
    exact (h.advance hadvances).look _
  | absent hlook =>
    cases hsome : e.look? id with
    | none =>
      rw [Option.toList_none, List.append_nil]
      exact h
    | some look => exact h.look_none (hlook look hsome)
  | begun hcall =>
    rw [hcall] at hbegan
    exact absurd (List.mem_singleton_self id) hbegan

end LifeCycle

/-! ### Histories -/

namespace Controller

variable {σ : Type} {w : Setting σ} {events : List Event} {s s' : Session σ} {id : Nat}

/-- The sessions that are reached, each with the calls made so far. -/
inductive History (w : Setting σ) : List Event → Session σ → Prop
  /-- A controller is constructed. -/
  | connect {config : DeviceConfig} {controller : Controller} {link link' : σ}
      (hstart : w.starts link)
      (hconnect : (connect w.bus config).run.run link = (.ok controller, link')) :
      History w [] ⟨controller, link'⟩
  /-- The link changes. -/
  | drift {events : List Event} {s : Session σ} {link : σ} (h : History w events s)
      (hdrift : w.drifts s.link link) : History w events { s with link }
  /-- A call is made. -/
  | call {events : List Event} {s s' : Session σ} {c : Call} {a : Except DriveError c.Reply}
      (h : History w events s) (hadmits : w.admits s c)
      (hcall : (perform w.bus c).run.run s = (a, s')) : History w (events ++ [⟨c, a⟩]) s'

namespace History

/-- A history is a run. -/
theorem run (h : History w events s) : Run w (events.flatMap Event.began) s := by
  induction h with
  | connect hstart hconnect => exact .connect hstart hconnect
  | drift _ hdrift ih => exact ih.drift hdrift
  | call _ hadmits hcall ih =>
    rw [List.flatMap_append, List.flatMap_singleton]
    exact ih.call hadmits hcall

/-- At the end of a history the registry is coherent. -/
theorem coherent (h : History w events s) : s.moves.Coherent := h.run.coherent.1

/-- No number is given twice. -/
theorem nodup_began (h : History w events s) : (events.flatMap Event.began).Nodup := by
  rw [h.run.coherent.2]
  exact List.nodup_range

/-- What was called up to some moment is a history. -/
theorem of_append (h : History w events s) {before after : List Event}
    (hevents : events = before ++ after) : ∃ s₀, History w before s₀ := by
  induction h generalizing after with
  | connect hstart hconnect =>
    obtain ⟨rfl, -⟩ := List.append_eq_nil_iff.mp hevents.symm
    exact ⟨_, .connect hstart hconnect⟩
  | drift _ _ ih => exact ih hevents
  | call h hadmits hcall ih =>
    rcases List.eq_nil_or_concat after with rfl | ⟨after, e, rfl⟩
    · rw [List.append_nil] at hevents
      exact ⟨_, hevents ▸ h.call hadmits hcall⟩
    · rw [List.concat_eq_append, ← List.append_assoc] at hevents
      exact ih (List.append_inj' hevents rfl).1

/-- A move that was never begun is not on record. -/
theorem get?_of_not_began (h : History w events s) (hbegan : id ∉ events.flatMap Event.began) :
    s.moves.get? id = none := by
  obtain ⟨hm, hids⟩ := h.run.coherent
  rw [hids, List.mem_range, Nat.not_lt] at hbegan
  exact hm.get?_of_nextId_le hbegan

/-- Looks at a move that was not begun find none. -/
theorem looks_of_not_began (h : History w events s) (hbegan : id ∉ events.flatMap Event.began) :
    ∀ look ∈ looks id events, look.answer = .error (.unknownMove id) := by
  induction h with
  | connect => exact fun _ hlook ↦ absurd hlook List.not_mem_nil
  | drift _ _ ih => exact ih hbegan
  | @call events s s' c a h _ hcall ih =>
    rw [List.flatMap_append, List.flatMap_singleton, List.mem_append, not_or] at hbegan
    have htreats := treats_of_perform h.coherent hcall id
    rw [h.get?_of_not_began hbegan.1] at htreats
    intro look hlook
    rw [looks_append_singleton, List.mem_append] at hlook
    rcases hlook with hlook | hlook
    · exact ih hbegan.1 look hlook
    · exact htreats.look_of_none hbegan.2 look (Option.mem_toList.mp hlook)

/-- After its begin a move lives by the pattern. -/
theorem lifeCycle_of_began (h : History w events s) {before after : List Event} {target : Int32}
    (hevents : events = before ++ ⟨.moveTo target, .ok id⟩ :: after) :
    LifeCycle id target (looks id after) (s.moves.get? id) := by
  induction h generalizing after with
  | connect => exact absurd hevents.symm (by simp)
  | drift _ _ ih => exact ih hevents
  | @call events s s' c a h hadmits hcall ih =>
    have hnodup := (h.call hadmits hcall).nodup_began
    rw [List.flatMap_append, List.flatMap_singleton] at hnodup
    rcases List.eq_nil_or_concat after with rfl | ⟨after, e, rfl⟩
    · -- the last call is the one that begins the move
      obtain ⟨-, hevent⟩ := List.append_inj' hevents rfl
      cases hevent
      rw [MoveRegistry.get?_of_begun (effect_of_perform h.coherent hcall)]
      exact .begun id target
    · -- the last call comes after the begin, and no call begins the move again
      rw [List.concat_eq_append, ← List.cons_append, ← List.append_assoc] at hevents
      obtain ⟨rfl, hevent⟩ := List.append_inj' hevents rfl
      obtain rfl := List.singleton_inj.mp hevent
      rw [List.concat_eq_append, looks_append_singleton]
      refine (ih rfl).event (treats_of_perform h.coherent hcall id) fun hbegan ↦ ?_
      refine List.disjoint_of_nodup_append hnodup ?_ hbegan
      rw [flatMap_began_split]
      exact List.mem_append_right _ List.mem_cons_self

/-- **The life of a move.** Looks at a move that was not begun yet find none. From its begin on they
find it in progress any number of times, and then always the same outcome, with the number and the
target that the move was begun with; from the first time on that the outcome was reported and the
record was to be dropped, they find none. A record stays through every call but such a look. -/
theorem lifeCycle (h : History w events s) :
    (∀ before target id after, events = before ++ ⟨.moveTo target, .ok id⟩ :: after →
      id ∉ (before ++ after).flatMap Event.began ∧
        (∀ look ∈ looks id before, look.answer = .error (.unknownMove id)) ∧
        LifeCycle id target (looks id after) (s.moves.get? id)) ∧
    (∀ id, (∀ target, ⟨.moveTo target, .ok id⟩ ∉ events) →
      ∀ look ∈ looks id events, look.answer = .error (.unknownMove id)) ∧
    ∀ c a s', (perform w.bus c).run.run s = (a, s') → ∀ id r, s.moves.get? id = some r →
      (∃ status, s'.moves.get? id = some { r with status }) ∨
        ∃ record, (⟨c, a⟩ : Event) = ⟨.moveStatus id true, .ok record⟩ ∧
          record.status.isTerminal = true := by
  refine ⟨?_, ?_, ?_⟩
  · intro before target id after hevents
    have hnodup := h.nodup_began
    rw [hevents, flatMap_began_split, List.nodup_middle, List.nodup_cons,
      ← List.flatMap_append] at hnodup
    have hbefore : id ∉ before.flatMap Event.began := by
      rw [List.flatMap_append, List.mem_append, not_or] at hnodup
      exact hnodup.1.1
    obtain ⟨s₀, h₀⟩ := h.of_append hevents
    exact ⟨hnodup.1, h₀.looks_of_not_began hbefore, h.lifeCycle_of_began hevents⟩
  · intro id hid
    refine h.looks_of_not_began fun hbegan ↦ ?_
    obtain ⟨e, hmem, hbegan⟩ := List.mem_flatMap.mp hbegan
    obtain ⟨target, rfl⟩ := Event.eq_of_mem_began hbegan
    exact hid target hmem
  · intro c a s' hcall id r hget
    have htreats := treats_of_perform h.coherent hcall id
    rw [hget] at htreats
    exact htreats.kept_or_dropped

/-- A history may go on with any call that is admitted. -/
theorem perform (h : History w events s) (c : Call) (hadmits : w.admits s c) :
    History w (events ++ [⟨c, ((Controller.perform w.bus c).run.run s).1⟩])
      ((Controller.perform w.bus c).run.run s).2 :=
  h.call hadmits rfl

/-- Looks at a first move. The second one gets no answer. -/
def polls : List Event :=
  [⟨.moveStatus 0 true, .ok ⟨0, 100, .moving⟩⟩,
    ⟨.moveStatus 0 true, .error (.transport (.communication "timeout"))⟩,
    ⟨.moveStatus 0 false, .ok ⟨0, 100, .done⟩⟩,
    ⟨.moveStatus 0 true, .ok ⟨0, 100, .done⟩⟩,
    ⟨.moveStatus 0 true, .error (.unknownMove 0)⟩]

/-- Before its begin the move is not found, then it is in progress, then its outcome is reported
twice, and then it is not found any more. -/
theorem lifeCycle_scripted :
    ∃ s, History scripted
        ([⟨.moveStatus 0 true, .error (.unknownMove 0)⟩] ++ ⟨.moveTo 100, .ok 0⟩ :: polls) s ∧
      looks 0 polls = [⟨true, .ok ⟨0, 100, .moving⟩⟩, ⟨false, .ok ⟨0, 100, .done⟩⟩,
        ⟨true, .ok ⟨0, 100, .done⟩⟩, ⟨true, .error (.unknownMove 0)⟩] ∧
      LifeCycle 0 100 (looks 0 polls) none := by
  have hconnect : History scripted [] ⟨{ config := {} },
      [.ok 0, .ok 0, .ok 0, .ok 1, .error (.communication "timeout"), .ok 0, .ok 100]⟩ :=
    @History.connect _ scripted {} _ (.replicate 6 (.ok 0) ++ _) _ trivial rfl
  have hbegun := (hconnect.perform (.moveStatus 0 true) trivial).perform (.moveTo 100) trivial
  have hlost := (hbegun.perform (.moveStatus 0 true) trivial).perform (.moveStatus 0 true) trivial
  have hdone := (hlost.perform (.moveStatus 0 false) trivial).perform (.moveStatus 0 true) trivial
  have hgone := hdone.perform (.moveStatus 0 true) trivial
  have hlife := hgone.lifeCycle.1 [⟨.moveStatus 0 true, .error (.unknownMove 0)⟩] 100 0 polls rfl
  exact ⟨_, hgone, rfl, hlife.2.2⟩

end History

end Controller

end FocusDrive
