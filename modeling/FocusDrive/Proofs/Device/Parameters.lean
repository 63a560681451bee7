import FocusDrive.Device.Registers

/-!
# Parameters written by a host

A host writes a parameter only after its value was checked. What is written in this way reads back,
also for the speeds, where the motor clamps what it is given, and the other parameters keep their
values. For a list of writes this gives the value of every parameter: the last one written to it, or
the one that it had.
-/

namespace FocusDrive

namespace Registers

/-- A value that the parameter accepts reads back. -/
theorem param_storeParam_self (r : Registers) {p : AxisParam} {v : Int32}
    (h : p.accepts v = true) : (r.storeParam p v).param p = v := by
  cases p with
  | targetSpeed | actualSpeed => exact Bounds.clamp_of_contains h
  | encoderPosition => rfl
  | _ => exact ParamTable.get_set_self _ _ _

/-- Storing a parameter leaves the others as they were. -/
theorem param_storeParam_of_ne (r : Registers) {p q : AxisParam} (h : p ≠ q) (v : Int32) :
    (r.storeParam p v).param q = r.param q := by
  cases q with
  | targetSpeed | actualSpeed | encoderPosition =>
    cases p <;> first | rfl | exact absurd rfl h
  | _ =>
    cases p with
    | targetSpeed | actualSpeed | encoderPosition => rfl
    | _ => exact ParamTable.get_set_of_ne _ h v

theorem param_storeUser (r : Registers) (n : UInt8) (v : Int32) (p : AxisParam) :
    (r.storeUser n v).param p = r.param p := by
  cases p <;> rfl

/-- Settings are not the motor's. -/
theorem motor_storeParam_of_setting (r : Registers) {p : AxisParam}
    (hp : p ∉ [AxisParam.targetSpeed, .actualSpeed, .encoderPosition]) (v : Int32) :
    (r.storeParam p v).motor = r.motor := by
  cases p with
  | targetSpeed | actualSpeed | encoderPosition => exact absurd (by decide) hp
  | _ => rfl

/-- Settings do not act on the motor: only the two speeds and the encoder do. -/
theorem motor_storeParams_of_settings (r : Registers) {writes : List (AxisParam × Int32)}
    (h : ∀ p ∈ writes.map Prod.fst, p ∉ [AxisParam.targetSpeed, .actualSpeed, .encoderPosition]) :
    (r.storeParams writes).motor = r.motor := by
  induction writes generalizing r with
  | nil => rfl
  | cons write writes ih =>
    obtain ⟨hfirst, hrest⟩ := List.forall_mem_cons.mp h
    show ((r.storeParam write.1 write.2).storeParams writes).motor = r.motor
    rw [ih _ hrest, motor_storeParam_of_setting r hfirst]

/-- A parameter that no write names keeps its word. -/
theorem param_storeParams_of_notMem (r : Registers) {writes : List (AxisParam × Int32)}
    {q : AxisParam} (h : q ∉ writes.map Prod.fst) : (r.storeParams writes).param q = r.param q := by
  induction writes generalizing r with
  | nil => rfl
  | cons write writes ih =>
    rw [List.map_cons, List.mem_cons, not_or] at h
    show ((r.storeParam write.1 write.2).storeParams writes).param q = _
    rw [ih _ h.2, param_storeParam_of_ne r (Ne.symm h.1)]

/-- Writes in two portions are the same writes. -/
theorem storeParams_append (r : Registers) (writes writes' : List (AxisParam × Int32)) :
    r.storeParams (writes ++ writes') = (r.storeParams writes).storeParams writes' :=
  List.foldl_append

/-- The last value that is written to a parameter reads back. -/
theorem param_storeParams_last (r : Registers) (before : List (AxisParam × Int32))
    {p : AxisParam} {v : Int32} {after : List (AxisParam × Int32)}
    (hlast : p ∉ after.map Prod.fst) (haccepts : p.accepts v = true) :
    (r.storeParams (before ++ (p, v) :: after)).param p = v := by
  rw [storeParams_append]
  show (((r.storeParams before).storeParam p v).storeParams after).param p = v
  rw [param_storeParams_of_notMem _ hlast, param_storeParam_self _ haccepts]

/-- Of parameters that are written once each, every one reads back. -/
theorem param_storeParams_of_mem (r : Registers) {writes : List (AxisParam × Int32)}
    (hnodup : (writes.map Prod.fst).Nodup) {p : AxisParam} {v : Int32} (hmem : (p, v) ∈ writes)
    (haccepts : p.accepts v = true) : (r.storeParams writes).param p = v := by
  obtain ⟨before, after, rfl⟩ := List.append_of_mem hmem
  rw [List.map_append, List.map_cons] at hnodup
  have honce := (List.nodup_cons.mp (List.nodup_append.mp hnodup).2.1).1
  exact r.param_storeParams_last before honce haccepts

theorem global_storeParam (r : Registers) (p : AxisParam) (v : Int32) (g : GlobalVar) :
    (r.storeParam p v).global g = r.global g := by
  cases p <;> rfl

theorem global_storeParams (r : Registers) (writes : List (AxisParam × Int32)) (g : GlobalVar) :
    (r.storeParams writes).global g = r.global g := by
  induction writes generalizing r with
  | nil => rfl
  | cons write writes ih =>
    show ((r.storeParam write.1 write.2).storeParams writes).global g = r.global g
    rw [ih, global_storeParam]

end Registers

end FocusDrive
