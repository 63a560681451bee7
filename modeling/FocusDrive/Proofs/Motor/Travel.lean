import FocusDrive.Proofs.Motor

/-!
# No travel is lost

A motor is given commands and ticks, in any order and with any words as arguments
(`Motor.Action`). The encoder counts whole counts only, but what is left over is carried, so the
encoder and the carry together account for every speed that the motor had in a tick
(`Motor.CountsFrom`). An action that is not an overwrite of the encoder keeps this account
(`CountsFrom.act`), and an overwrite opens a new one.

The account is kept in integers. The encoder is the only quantity that may leave the words, and it
is meant to: all other operations of an update are exact (`Motor.Exact`), because the speeds stay
within what an axis can do and the carry stays below one count (`Motor.InRange`). This again is
kept by every action, whatever the settings are.
-/

namespace FocusDrive

namespace Motor

/-! ### Actions -/

/-- What is done to a motor. -/
inductive Action
  /-- Command a speed. -/
  | setTargetSpeed (v : Int32)
  /-- Overwrite the current speed. -/
  | setActualSpeed (v : Int32)
  /-- Overwrite the encoder count. -/
  | setEncoder (count : Int32)
  /-- Stop at once. -/
  | stop
  /-- Advance by one tick. -/
  | update (maximumSpeed maximumAcceleration : Int32)
deriving DecidableEq, Repr

/-- Whether the action leaves the encoder count to the travel. -/
def Action.keepsCount : Action → Bool
  | setEncoder _ => false
  | setTargetSpeed _ | setActualSpeed _ | stop | update .. => true

/-- The motor after an action. -/
def act (m : Motor) : Action → Motor
  | .setTargetSpeed v => m.setTargetSpeed v
  | .setActualSpeed v => m.setActualSpeed v
  | .setEncoder count => m.setEncoder count
  | .stop => m.stop
  | .update s a => m.update s a

/-- The motor after several actions. -/
def after (m : Motor) (actions : List Action) : Motor := actions.foldl act m

/-- The travel of an action: in a tick the speed after the tick, and otherwise none. -/
def travelOf (m : Motor) : Action → ℤ
  | .update s a => (m.update s a).actualSpeed.toInt
  | _ => 0

/-- The travel of several actions, which is the sum of the speeds after their ticks. -/
def totalTravel (m : Motor) : List Action → ℤ
  | [] => 0
  | action :: rest => m.travelOf action + (m.act action).totalTravel rest

variable {m : Motor} {actions : List Action} {action : Action} {origin : Int32} {total : ℤ}

@[simp] theorem after_nil (m : Motor) : m.after [] = m := rfl

theorem after_cons (m : Motor) (action : Action) (rest : List Action) :
    m.after (action :: rest) = (m.act action).after rest :=
  rfl

/-! ### Ranges -/

/-- The speeds are within what an axis can do, and less than one count is carried. -/
structure InRange (m : Motor) : Prop where
  /-- The commanded speed. -/
  abs_targetSpeed : |m.targetSpeed.toInt| ≤ 2047
  /-- The current speed. -/
  abs_actualSpeed : |m.actualSpeed.toInt| ≤ 2047
  /-- The carried travel. -/
  abs_carry : |m.carry.toInt| < 64

/-- A speed that was limited to what an axis can do. -/
theorem abs_clamp_maxSpeed (v : Int32) : |((Bounds.symmetric maxSpeed).clamp v).toInt| ≤ 2047 := by
  have hmax : maxSpeed.toInt = 2047 := by decide
  rw [toInt_clamp_symmetric (by decide), hmax, abs_le]
  omega

/-- A motor at rest is in range. -/
theorem inRange_atRest (p : Int32) : (atRest p).InRange where
  abs_targetSpeed := by
    show |(0 : Int32).toInt| ≤ 2047
    decide
  abs_actualSpeed := by
    show |(0 : Int32).toInt| ≤ 2047
    decide
  abs_carry := by
    show |(0 : Int32).toInt| < 64
    decide

/-- Each action clamps what it stores. -/
theorem InRange.act (h : m.InRange) (action : Action) : (m.act action).InRange := by
  have hzero : |(0 : Int32).toInt| ≤ 2047 := by decide
  cases action with
  | setTargetSpeed v => exact ⟨abs_clamp_maxSpeed v, h.abs_actualSpeed, h.abs_carry⟩
  | setActualSpeed v => exact ⟨h.abs_targetSpeed, abs_clamp_maxSpeed v, h.abs_carry⟩
  | setEncoder count =>
    refine ⟨h.abs_targetSpeed, h.abs_actualSpeed, ?_⟩
    show |(0 : Int32).toInt| < 64
    decide
  | stop => exact ⟨hzero, hzero, h.abs_carry⟩
  | update s a =>
    exact ⟨h.abs_targetSpeed, abs_nextSpeed s a h.abs_actualSpeed, abs_carry_update s a⟩

theorem InRange.after (h : m.InRange) (actions : List Action) : (m.after actions).InRange := by
  induction actions generalizing m with
  | nil => exact h
  | cons action rest ih => exact ih (h.act action)

/-! ### Exact arithmetic -/

/-- Every operation of an update gives the same on words as on integers, and every interval to which
a word is limited has its ends in order. Only the sum that is the new encoder count is left out. -/
structure Exact (m : Motor) (s a : Int32) : Prop where
  /-- The acceleration setting in units of speed. -/
  quotient : (a / accelerationScale).toInt = a.toInt.tdiv accelerationScale.toInt
  /-- The interval of speeds that an axis can do. -/
  axis_ordered : (Bounds.symmetric maxSpeed).lo ≤ (Bounds.symmetric maxSpeed).hi
  /-- The interval to which the speed setting is limited. -/
  setting_ordered : (0 : Int32) ≤ maxSpeed
  /-- The lower end of the interval of speeds. -/
  neg_limit : (-limit s).toInt = -(limit s).toInt
  /-- The interval of speeds. -/
  limit_ordered : (Bounds.symmetric (limit s)).lo ≤ (Bounds.symmetric (limit s)).hi
  /-- The speed that is missing. -/
  difference : (m.wanted s - m.actualSpeed).toInt = (m.wanted s).toInt - m.actualSpeed.toInt
  /-- The lower end of the interval of changes. -/
  neg_step : (-step a).toInt = -(step a).toInt
  /-- The interval of changes. -/
  step_ordered : (Bounds.symmetric (step a)).lo ≤ (Bounds.symmetric (step a)).hi
  /-- The new speed. -/
  nextSpeed : (m.nextSpeed s a).toInt = m.actualSpeed.toInt +
    ((Bounds.symmetric (step a)).clamp (m.wanted s - m.actualSpeed)).toInt
  /-- The travel with what was carried. -/
  travel : (m.travel s a).toInt = m.carry.toInt + (m.nextSpeed s a).toInt
  /-- The whole counts in it. -/
  counts : (m.counts s a).toInt = (m.travel s a).toInt.tdiv speedPerCount.toInt
  /-- Their travel. -/
  counted : (m.counts s a * speedPerCount).toInt = (m.counts s a).toInt * speedPerCount.toInt
  /-- What is left over. -/
  carry : (m.update s a).carry.toInt =
    (m.travel s a).toInt - (m.counts s a * speedPerCount).toInt

/-- Negating a word that is not negative does not increase it. -/
theorem neg_le_self_of_nonneg {b : Int32} (h : 0 ≤ b.toInt) : -b ≤ b := by
  rw [Int32.le_iff_toInt_le, Word.toInt_neg (by omega)]
  omega

/-- The update of a motor whose speeds and carry are in range is exact, under any settings. -/
theorem InRange.exact (h : m.InRange) (s a : Int32) : m.Exact s a := by
  have hscale : speedPerCount.toInt = 64 := by decide
  have hlimit := toInt_limit s
  have hstep := toInt_step a
  have hdifference := toInt_difference s h.abs_actualSpeed
  refine
    { quotient := Word.toInt_div (by decide) a
      axis_ordered := by decide
      setting_ordered := by decide
      neg_limit := Word.toInt_neg (by omega)
      limit_ordered := neg_le_self_of_nonneg hlimit.1
      difference := hdifference
      neg_step := Word.toInt_neg (by omega)
      step_ordered := neg_le_self_of_nonneg (by omega)
      nextSpeed := ?_
      travel := toInt_travel s a h.abs_actualSpeed h.abs_carry
      counts := ?_
      counted := ?_
      carry := ?_ }
  · rw [toInt_nextSpeed s a h.abs_actualSpeed, toInt_clamp_symmetric (by omega), hdifference, ramp]
  · rw [toInt_counts, hscale]
  · rw [toInt_counted, toInt_counts, hscale, mul_comm]
  · rw [toInt_carry_update, toInt_counted]

/-! ### The account -/

/-- The encoder, counted on from `origin`, and the carry account for a travel of `total`. The
encoder is a word, so what it tells about the counts is told modulo the number of words. -/
def CountsFrom (origin : Int32) (total : ℤ) (m : Motor) : Prop :=
  ∃ counted : ℤ, m.encoder = origin + Int32.ofInt counted ∧ 64 * counted + m.carry.toInt = total

/-- With nothing carried over the count starts at the encoder. -/
theorem countsFrom_of_carry_eq_zero (h : m.carry = 0) : CountsFrom m.encoder 0 m := by
  refine ⟨0, (Int32.add_zero _).symm, ?_⟩
  rw [h]
  rfl

namespace CountsFrom

/-- A tick adds its speed to the account. -/
theorem update (h : CountsFrom origin total m) (hm : m.InRange) (s a : Int32) :
    CountsFrom origin (total + (m.update s a).actualSpeed.toInt) (m.update s a) := by
  obtain ⟨counted, hencoder, htotal⟩ := h
  refine ⟨counted + (m.counts s a).toInt, ?_, ?_⟩
  · rw [encoder_update, hencoder, Int32.ofInt_add, Int32.ofInt_toInt, Int32.add_assoc]
  · rw [toInt_carry_update, toInt_counts, toInt_travel s a hm.abs_actualSpeed hm.abs_carry,
      actualSpeed_update, ← htotal]
    omega

/-- Each action adds what it travels to the count. -/
theorem act (h : CountsFrom origin total m) (hm : m.InRange) (hkeeps : action.keepsCount = true) :
    CountsFrom origin (total + m.travelOf action) (m.act action) := by
  cases action with
  | setEncoder => cases hkeeps
  | update s a => exact h.update hm s a
  | setTargetSpeed | setActualSpeed | stop =>
    -- the encoder and the carry are as before
    show CountsFrom origin (total + 0) _
    rw [add_zero]
    exact h

/-- A sequence of actions adds what it travels in all. -/
theorem after (h : CountsFrom origin total m) (hm : m.InRange)
    (hkeeps : ∀ action ∈ actions, action.keepsCount = true) :
    CountsFrom origin (total + m.totalTravel actions) (m.after actions) := by
  induction actions generalizing m total with
  | nil =>
    rw [totalTravel, add_zero]
    exact h
  | cons action rest ih =>
    obtain ⟨hfirst, hrest⟩ := List.forall_mem_cons.mp hkeeps
    rw [totalTravel, ← add_assoc]
    exact ih (h.act hm hfirst) (hm.act action) hrest

end CountsFrom

/-! ### Rest -/

/-- Ticks do not move a motor at rest. -/
theorem IsAtRest.after_updates (h : m.IsAtRest) (settings : List (Int32 × Int32)) :
    m.after (settings.map fun w ↦ .update w.1 w.2) = m := by
  induction settings with
  | nil => rfl
  | cons w rest ih =>
    rw [List.map_cons, after_cons]
    show (m.update w.1 w.2).after _ = m
    rw [h.update]
    exact ih

/-! ### Any motor -/

/-- **No travel is lost.** Take a motor that was at rest at `p`, after any actions. Its speeds and
its carry are in range, and its next update is exact under any settings. If the encoder was not
overwritten, encoder and carry account for the speeds of all ticks, counted from `p`. If it is
overwritten now, they account from there for the speeds of the ticks that follow, beginning with no
carry. And once both speeds are `0`, ticks change nothing any more. -/
theorem travel_accounted (p : Int32) (actions : List Action) :
    ((atRest p).after actions).InRange ∧
      (∀ s a, ((atRest p).after actions).Exact s a) ∧
      ((∀ action ∈ actions, action.keepsCount = true) →
        CountsFrom p ((atRest p).totalTravel actions) ((atRest p).after actions)) ∧
      (∀ q later, (∀ action ∈ later, action.keepsCount = true) →
        (((atRest p).after actions).setEncoder q).carry = 0 ∧
          CountsFrom q ((((atRest p).after actions).setEncoder q).totalTravel later)
            ((((atRest p).after actions).setEncoder q).after later)) ∧
      (((atRest p).after actions).targetSpeed = 0 → ((atRest p).after actions).actualSpeed = 0 →
        ∀ settings : List (Int32 × Int32),
          ((atRest p).after actions).after (settings.map fun w ↦ .update w.1 w.2) =
            (atRest p).after actions) := by
  have hinRange := (inRange_atRest p).after actions
  refine ⟨hinRange, hinRange.exact, ?_, ?_, ?_⟩
  · intro hkeeps
    have hstart : CountsFrom p 0 (atRest p) := countsFrom_of_carry_eq_zero rfl
    have hcounts := hstart.after (inRange_atRest p) hkeeps
    rwa [zero_add] at hcounts
  · -- overwriting the encoder clears the carry, so that a new count begins
    intro q later hkeeps
    have hstart : CountsFrom q 0 (((atRest p).after actions).setEncoder q) :=
      countsFrom_of_carry_eq_zero rfl
    have hcounts := hstart.after (hinRange.act (.setEncoder q)) hkeeps
    rw [zero_add] at hcounts
    exact ⟨rfl, hcounts⟩
  · intro htarget hactual settings
    exact IsAtRest.after_updates ⟨htarget, hactual, hinRange.abs_carry⟩ settings

/-- Speeds and settings beyond all limits, and a stop after two ticks. -/
def hasty : List Action :=
  [.setTargetSpeed 5000, .setActualSpeed 2147483647, .update 2147483647 2147483647,
    .update (-2147483648) (-2147483648), .stop]

/-- The motor turns at `2047` and then at `2046`, which is `63` counts and `61` on the carry, and
the encoder wraps on the way. -/
theorem travel_accounted_hasty :
    (∀ action ∈ hasty, action.keepsCount = true) ∧
      CountsFrom 2147483640 4093 ((atRest 2147483640).after hasty) ∧
      (atRest 2147483640).after hasty = { encoder := -2147483593, carry := 61 } ∧
      ((atRest 2147483640).after hasty).after [.update 2000 1000, .update 2047 0] =
        (atRest 2147483640).after hasty := by
  have hkeeps : ∀ action ∈ hasty, action.keepsCount = true := by decide
  obtain ⟨-, -, hcounts, -, hrest⟩ := travel_accounted 2147483640 hasty
  have htotal : (atRest 2147483640).totalTravel hasty = 4093 := by decide
  refine ⟨hkeeps, ?_, by decide, hrest (by decide) (by decide) [(2000, 1000), (2047, 0)]⟩
  rw [← htotal]
  exact hcounts hkeeps

end Motor

end FocusDrive
