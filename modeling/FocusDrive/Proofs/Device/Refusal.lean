import FocusDrive.Device.Host
import FocusDrive.Proofs.Device.Parameters

/-!
# Requests that are refused

A module carries a request out or refuses it, and nothing lies between: what the host is told
decides whether the state has changed. For most requests this can be seen from a single check. A
list of writes takes more, since it is checked in one sweep and stored in another. `applyWrites_eq`
says that the second sweep is the sequence of single writes in the order of the list, and
`setParams_error` that the first one stops at the first write that would be refused on its own. So
the list is as good as its writes made one by one, except that it is not left half done.

Everything here is said of what the host sees (`Device.bus`), where a refusal is a text.
-/

namespace FocusDrive

namespace Device

variable {d : Device}

/-! ### What the host is told -/

/-- An error on the bus is a refusal of the module, as the host is told about it. -/
theorem bus_eq_error_iff {r : Request} {e : ModuleError} :
    (bus r d).1 = .error e ↔
      ∃ refusal, (d.handle r).1 = .error refusal ∧ refusal.toModuleError = e := by
  show (d.handle r).1.mapError Refusal.toModuleError = .error e ↔ _
  cases (d.handle r).1 with
  | ok answer =>
    show Except.ok answer = .error e ↔ _
    simp
  | error refusal =>
    show Except.error refusal.toModuleError = .error e ↔ _
    simp

/-- A request is refused for the host exactly if the module has a cause to refuse it. -/
theorem exists_bus_eq_error_iff {r : Request} :
    (∃ e, (bus r d).1 = .error e) ↔ ∃ refusal, (d.handle r).1 = .error refusal := by
  constructor
  · rintro ⟨e, he⟩
    obtain ⟨refusal, hrefusal, -⟩ := bus_eq_error_iff.mp he
    exact ⟨refusal, hrefusal⟩
  · rintro ⟨refusal, hrefusal⟩
    exact ⟨_, bus_eq_error_iff.mpr ⟨refusal, hrefusal, rfl⟩⟩

/-- A refused request changes nothing. -/
theorem bus_of_error {r : Request} {e : ModuleError} (h : (bus r d).1 = .error e) :
    (bus r d).2 = d := by
  obtain ⟨refusal, hrefusal, -⟩ := bus_eq_error_iff.mp h
  exact handle_of_error hrefusal

/-- Reading a parameter is never refused. -/
theorem bus_getParam (d : Device) (p : AxisParam) :
    bus (.getParam p) d = (.ok (d.registers.param p), d) :=
  rfl

/-! ### Lists of writes -/

variable {writes before after : List (AxisParam × Int32)} {p : AxisParam} {v : Int32}

/-- No write is found out of range exactly if all are accepted. -/
theorem firstOutOfRange?_eq_none_iff :
    firstOutOfRange? writes = none ↔ ∀ w ∈ writes, w.1.accepts w.2 = true :=
  ⟨accepts_of_firstOutOfRange?, fun h ↦ by simpa [firstOutOfRange?] using h⟩

/-- The first write that is out of range, by what stands before it. -/
theorem firstOutOfRange?_append (hbefore : ∀ w ∈ before, w.1.accepts w.2 = true)
    (hv : p.accepts v = false) :
    firstOutOfRange? (before ++ (p, v) :: after) = some (p, v) := by
  rw [firstOutOfRange?, List.find?_append, ← firstOutOfRange?,
    firstOutOfRange?_eq_none_iff.mpr hbefore, Option.none_or, List.find?_cons_of_pos (by simp [hv])]

/-- The first write out of range is what the refusal names, and none is done. -/
theorem handle_setParams_of_some (h : firstOutOfRange? writes = some (p, v)) :
    d.handle (.setParams writes) = (.error (.valueOutOfRange p v), d) := by
  rw [handle, h]

/-- When all are in range all are stored. -/
theorem handle_setParams_of_none (h : firstOutOfRange? writes = none) :
    d.handle (.setParams writes) = (.ok (), d.withRegisters (d.registers.storeParams writes)) := by
  rw [handle, h]

/-- Accepted writes go through the bus as one change. -/
theorem bus_setParams_of_accepts (h : ∀ w ∈ writes, w.1.accepts w.2 = true) :
    bus (.setParams writes) d = (.ok (), d.withRegisters (d.registers.storeParams writes)) := by
  rw [bus, handle_setParams_of_none (firstOutOfRange?_eq_none_iff.mpr h)]
  rfl

/-- An accepted write goes through the bus. -/
theorem bus_setParam_of_accepts (h : p.accepts v = true) :
    bus (.setParam p v) d = (.ok (), d.withRegisters (d.registers.storeParam p v)) := by
  rw [bus, handle, if_pos h]
  rfl

/-- A list of writes is made as a whole or not at all. -/
theorem bus_setParams_cases (d : Device) (writes : List (AxisParam × Int32)) :
    (bus (.setParams writes) d).2 = d ∨
      (bus (.setParams writes) d).2 = d.withRegisters (d.registers.storeParams writes) := by
  cases hfirst : firstOutOfRange? writes with
  | none => exact .inr (by rw [bus, handle_setParams_of_none hfirst])
  | some write => exact .inl (by rw [bus, handle_setParams_of_some hfirst])

/-- The module after the writes were made one after the other. -/
def applyWrites (d : Device) (writes : List (AxisParam × Int32)) : Device :=
  writes.foldl (fun d w ↦ (bus (.setParam w.1 w.2) d).2) d

/-- Accepted writes made one at a time are the writes made at once. -/
theorem applyWrites_eq (h : ∀ w ∈ writes, w.1.accepts w.2 = true) (d : Device) :
    d.applyWrites writes = d.withRegisters (d.registers.storeParams writes) := by
  induction writes generalizing d with
  | nil => rfl
  | cons write writes ih =>
    obtain ⟨hfirst, hrest⟩ := List.forall_mem_cons.mp h
    show (bus (.setParam write.1 write.2) d).2.applyWrites writes = _
    rw [bus_setParam_of_accepts hfirst, ih hrest]
    rfl

/-- The first write that is out of range is the one that the host is told. -/
theorem setParams_error (hbefore : ∀ w ∈ before, w.1.accepts w.2 = true)
    (hv : p.accepts v = false) :
    (bus (.setParams (before ++ (p, v) :: after)) d).1 =
      .error (.rejected "SAP" s!"{p.name} = {v.toInt} outside {p.range.text}") := by
  rw [bus_eq_error_iff, handle_setParams_of_some (firstOutOfRange?_append hbefore hv)]
  exact ⟨_, rfl, rfl⟩

/-- Writes are refused exactly if one of them is out of range. -/
theorem setParams_refused_iff :
    (∃ e, (bus (.setParams writes) d).1 = .error e) ↔ ∃ w ∈ writes, w.1.accepts w.2 = false := by
  rw [exists_bus_eq_error_iff]
  cases hfirst : firstOutOfRange? writes with
  | none =>
    have haccepts := firstOutOfRange?_eq_none_iff.mp hfirst
    rw [handle_setParams_of_none hfirst]
    simpa using haccepts
  | some write =>
    have hrefused : write.1.accepts write.2 = false := by simpa using List.find?_some hfirst
    rw [handle_setParams_of_some hfirst]
    exact iff_of_true ⟨_, rfl⟩ ⟨write, List.mem_of_find?_eq_some hfirst, hrefused⟩

/-- An upload is refused exactly while a program runs or when the memory is too small. -/
theorem upload_refused_iff {program : Program} :
    (∃ e, (bus (.upload program) d).1 = .error e) ↔
      d.isRunning = true ∨ d.capacity < program.size := by
  rw [exists_bus_eq_error_iff, handle]
  split
  next hrunning => exact iff_of_true ⟨_, rfl⟩ (.inl hrunning)
  next hidle =>
    split
    next hlong => exact iff_of_true ⟨_, rfl⟩ (.inr hlong)
    next hfits => exact iff_of_false (by simp) (not_or.mpr ⟨hidle, hfits⟩)

/-! ### All or nothing -/

/-- What the host may conclude from what it is told. -/
structure AllOrNothing (d : Device) : Prop where
  /-- A request that is refused has changed nothing. -/
  unchanged : ∀ (r : Request) (e : ModuleError), (bus r d).1 = .error e → (bus r d).2 = d
  /-- A list of writes is refused exactly if one of them is out of its parameter's range. -/
  writes_refused : ∀ writes : List (AxisParam × Int32),
    (∃ e, (bus (.setParams writes) d).1 = .error e) ↔ ∃ w ∈ writes, w.1.accepts w.2 = false
  /-- The refusal names the first such write. -/
  writes_error : ∀ before p v after, (∀ w ∈ before, w.1.accepts w.2 = true) →
    p.accepts v = false →
    (bus (.setParams (before ++ (p, v) :: after)) d).1 =
      .error (.rejected "SAP" s!"{p.name} = {v.toInt} outside {p.range.text}")
  /-- Otherwise the writes are made in the order of the list. -/
  writes_applied : ∀ writes : List (AxisParam × Int32), (∀ w ∈ writes, w.1.accepts w.2 = true) →
    bus (.setParams writes) d = (.ok (), d.applyWrites writes)
  /-- The last value that is written to a parameter reads back. -/
  writes_last : ∀ before p v after, (∀ w ∈ before ++ (p, v) :: after, w.1.accepts w.2 = true) →
    p ∉ after.map Prod.fst →
    (bus (.getParam p) (bus (.setParams (before ++ (p, v) :: after)) d).2).1 = .ok v
  /-- A parameter that is not written keeps its value. -/
  writes_others : ∀ (writes : List (AxisParam × Int32)) p, p ∉ writes.map Prod.fst →
    (bus (.getParam p) (bus (.setParams writes) d).2).1 = (bus (.getParam p) d).1
  /-- The writes change nothing but parameters. -/
  writes_frame : ∀ writes : List (AxisParam × Int32), ∃ r,
    (bus (.setParams writes) d).2 = d.withRegisters r ∧ ∀ g, r.global g = d.registers.global g
  /-- A download is refused exactly if a program runs or there is no room. -/
  upload_refused : ∀ program : Program, (∃ e, (bus (.upload program) d).1 = .error e) ↔
    d.isRunning = true ∨ d.capacity < program.size

/-- **Refused requests change nothing**, whatever state the module is in. -/
theorem allOrNothing (d : Device) : d.AllOrNothing where
  unchanged _ _ := bus_of_error
  writes_refused _ := setParams_refused_iff
  writes_error _ _ _ _ := setParams_error
  writes_applied writes h := by rw [bus_setParams_of_accepts h, applyWrites_eq h]
  writes_last before p v after h hlast := by
    have hv : p.accepts v = true := h (p, v) (List.mem_append_right _ List.mem_cons_self)
    rw [bus_setParams_of_accepts h, bus_getParam]
    exact congrArg Except.ok (d.registers.param_storeParams_last before hlast hv)
  writes_others writes p hp := by
    rcases d.bus_setParams_cases writes with hsame | hstored
    · rw [hsame]
    · rw [hstored]
      exact congrArg Except.ok (d.registers.param_storeParams_of_notMem hp)
  writes_frame writes := by
    rcases d.bus_setParams_cases writes with hsame | hstored
    · exact ⟨d.registers, hsame, fun _ ↦ rfl⟩
    · exact ⟨_, hstored, d.registers.global_storeParams writes⟩
  upload_refused _ := upload_refused_iff

/-- Of two values for the current the second one stays. A resolution that no driver has refuses the
list, though the current before it would be accepted. -/
theorem allOrNothing_currents :
    (bus (.getParam .maximumCurrent) (bus (.setParams [(.maximumCurrent, 100),
      (.rampDivisor, 3), (.maximumCurrent, 120)]) (initial 0 8)).2).1 = .ok 120 ∧
    (bus (.setParams [(.maximumCurrent, 100), (.microstepResolution, 9), (.rampDivisor, 99)])
      (initial 0 8)).1 =
        .error (.rejected "SAP" "microstep_resolution = 9 outside 0..=6") := by
  have h := (initial 0 8).allOrNothing
  exact ⟨h.writes_last [(.maximumCurrent, 100), (.rampDivisor, 3)] .maximumCurrent 120 []
      (by decide) (by decide),
    h.writes_error [(.maximumCurrent, 100)] .microstepResolution 9 [(.rampDivisor, 99)] (by decide)
      (by decide)⟩

end Device

end FocusDrive
