import FocusDrive.Config.Validation
import FocusDrive.Proofs.Controller.Clocked
import FocusDrive.Proofs.Device.Parameters
import FocusDrive.Proofs.Device.Refusal
import FocusDrive.Proofs.Device.Standstill

/-!
# Setting a module up

A controller is constructed on a module in whatever state it is: a program may run, the motor may
turn, and time passes between the requests. The first two requests bring the module to a standstill,
and this is what the others rest on. From then on time counts ticks and does nothing else, so the
encoder count that is read is still right when it is written to the target, and the outcome is a
function of the module at its standstill (`Configured`).

The host and the module check the parameters by the same ranges and in the same order. So the setup
is rejected for its parameters exactly if the configuration is faulty, and for the parameter that
validation names (`SetUp`).
-/

namespace FocusDrive

namespace Device

/-- Program memory, settings and user variables are the same. -/
structure SameMemory (b d : Device) : Prop where
  /-- The program is the same. -/
  program : d.program = b.program
  /-- Program memory has the same size. -/
  capacity : d.capacity = b.capacity
  /-- The settings are the same. -/
  settings : d.registers.settings = b.registers.settings
  /-- The user variables are the same. -/
  users : d.registers.users = b.registers.users

namespace SameMemory

variable {b d : Device}

/-- Modules with the same memory have the same settings. -/
theorem param_eq (h : b.SameMemory d) {p : AxisParam}
    (hp : p ∉ [AxisParam.targetSpeed, .actualSpeed, .encoderPosition]) :
    d.registers.param p = b.registers.param p := by
  cases p with
  | targetSpeed | actualSpeed | encoderPosition => exact absurd (by decide) hp
  | _ => exact congrArg (ParamTable.get · _) h.settings

theorem global_eq (h : b.SameMemory d) {g : GlobalVar} (hg : g ≠ .status) :
    d.registers.global g = b.registers.global g := by
  cases g with
  | status => exact absurd rfl hg
  | user n => exact congrArg (UserTable.get · n) h.users

end SameMemory

/-- The module is `e` but for its ticks. -/
def IsLater (e d : Device) : Prop := ∃ n, d = e.aged n

/-- With the parameters of a configuration. -/
def withParams (e : Device) (config : DeviceConfig) : Device :=
  e.withRegisters (e.registers.storeParams config.params)

/-- With a program in program memory. -/
def withProgram (d : Device) (program : Program) : Device := { d with program := some program }

@[simp] theorem registers_withProgram (d : Device) (program : Program) :
    (d.withProgram program).registers = d.registers :=
  rfl

@[simp] theorem encoder_withProgram (d : Device) (program : Program) :
    (d.withProgram program).encoder = d.encoder :=
  rfl

@[simp] theorem program_withProgram (d : Device) (program : Program) :
    (d.withProgram program).program = some program :=
  rfl

/-- A module whose program does not run accepts every program that fits. -/
theorem handle_upload_of_idle {d : Device} (h : d.isRunning = false) (program : Program) :
    d.handle (.upload program) =
      if d.capacity < program.size then (.error (.programTooLong program.size d.capacity), d)
      else (.ok (), d.withProgram program) := by
  rw [handle, h]
  rfl

theorem param_withTarget (d : Device) (target : Int32) (p : AxisParam) :
    (d.withTarget target).registers.param p = d.registers.param p :=
  d.registers.param_storeUser 0 target p

/-- With the parameters of a configuration, and the encoder count as its target. -/
def configured (e : Device) (config : DeviceConfig) : Device :=
  (e.withParams config).withTarget e.encoder

@[simp] theorem capacity_configured (e : Device) (config : DeviceConfig) :
    (e.configured config).capacity = e.capacity := by
  rw [configured, withTarget, capacity_withRegisters, withParams, capacity_withRegisters]

@[simp] theorem program_configured (e : Device) (config : DeviceConfig) :
    (e.configured config).program = e.program := by
  rw [configured, withTarget, program_withRegisters, withParams, program_withRegisters]

/-- The parameters that are written are those of the configuration. -/
theorem param_configured (e : Device) (config : DeviceConfig) (p : AxisParam) :
    (e.configured config).registers.param p = (e.registers.storeParams config.params).param p := by
  rw [configured, param_withTarget, withParams, registers_withRegisters]

namespace Standstill

variable {e : Device}

/-- The rule for a request to a module at a standstill. -/
theorem request (h : e.Standstill) {r : Request} {failure : ModuleError → DriveError}
    {Q : Except DriveError r.Answer → Device → Prop}
    (hQ : ∀ n, Q ((((e.aged n).handle r).1.mapError Refusal.toModuleError).mapError failure)
      ((e.aged n).handle r).2) :
    Meets (fun l ↦ e.IsLater l.device) (Clocked.bus.request failure r) fun a l ↦ Q a l.device := by
  refine Clocked.busRequest fun l hl ↦ ?_
  obtain ⟨n, hdevice⟩ := hl
  rw [Clocked.found, hdevice, (h.aged n).runTicks, aged_aged]
  exact hQ _

end Standstill

end Device

/-! ### Writing to a module at a standstill -/

/-- The part of the setup that writes the parameters, the target and the program. -/
def configure {σ : Type} (bus : Bus σ) (config : DeviceConfig) : LinkM σ Controller := do
  bus.request (.setup .applyConfig) (.setParams config.params)
  let position ← bus.request .transport (.getParam .encoderPosition)
  bus.request .transport (.setGlobal Profile.targetPosition position)
  bus.request (.setup .uploadProgram) (.upload profile)
  return { config }

/-- The setup stops the module before it configures it. -/
theorem connect_eq {σ : Type} (bus : Bus σ) (config : DeviceConfig) :
    connect bus config = (do
      bus.request .transport .stopProgram
      bus.request .transport .stop
      configure bus config) :=
  rfl

/-- What writing to a module `e` at a standstill can lead to. -/
inductive Configured (e : Device) (config : DeviceConfig) :
    Except DriveError Controller → Device → Prop
  /-- A parameter is out of range, and nothing was written. -/
  | rejected {p : AxisParam} {v : Int32} (n : Nat)
      (hfault : config.fault? = some (.valueOutOfRange p v)) :
      Configured e config (.error (.setup .applyConfig (Refusal.valueOutOfRange p v).toModuleError))
        (e.aged n)
  /-- The program does not fit, and nothing was written after the target. -/
  | refused (n : Nat) (hfault : config.fault? = none) (hsmall : e.capacity < profile.size) :
      Configured e config (.error (.setup .uploadProgram
          (Refusal.programTooLong profile.size e.capacity).toModuleError))
        ((e.configured config).aged n)
  /-- Everything was written. -/
  | accepted (n : Nat) (hfault : config.fault? = none) (hfits : profile.size ≤ e.capacity) :
      Configured e config (.ok { config }) (((e.configured config).aged n).withProgram profile)

namespace DeviceConfig

/-- Validation and the module look for the same parameter. -/
theorem fault?_eq (config : DeviceConfig) :
    config.fault? = (Device.firstOutOfRange? config.params).map fun w ↦ .valueOutOfRange w.1 w.2 :=
  rfl

/-- The parameters of a configuration without fault are accepted. -/
theorem accepts_of_fault? {config : DeviceConfig} (h : config.fault? = none) {p : AxisParam}
    {v : Int32} (hmem : (p, v) ∈ config.params) : p.accepts v = true := by
  rw [fault?_eq, Option.map_eq_none_iff] at h
  exact Device.accepts_of_firstOutOfRange? h (p, v) hmem

/-- The parameters of a configuration are the same for every configuration. -/
theorem map_fst_params (config : DeviceConfig) :
    config.params.map Prod.fst =
      [.maximumCurrent, .maximumAcceleration, .maximumSpeed, .rampDivisor, .pulseDivisor,
        .standbyCurrent, .mixedDecayThreshold, .encoderPrescaler, .microstepResolution,
        .fullstepThreshold, .stallDetectionThreshold] :=
  rfl

/-- A configuration names every parameter once. -/
theorem nodup_params (config : DeviceConfig) : (config.params.map Prod.fst).Nodup := by
  rw [map_fst_params]
  decide

/-- No parameter of a configuration is the motor's. -/
theorem motor_storeParams (config : DeviceConfig) (r : Registers) :
    (r.storeParams config.params).motor = r.motor := by
  refine r.motor_storeParams_of_settings ?_
  rw [map_fst_params]
  decide

end DeviceConfig

namespace Device

/-- Settings do not move the encoder. -/
theorem encoder_withParams (e : Device) (config : DeviceConfig) :
    (e.withParams config).encoder = e.encoder :=
  congrArg Motor.encoder (config.motor_storeParams e.registers)

namespace Standstill

variable {e : Device}

/-- Settings do not set a module in motion. -/
theorem withParams (h : e.Standstill) (config : DeviceConfig) : (e.withParams config).Standstill :=
  h.withRegisters (config.motor_storeParams _) (e.registers.global_storeParams _ .status)

theorem withProgram (h : e.Standstill) (program : Program) : (e.withProgram program).Standstill :=
  ⟨⟨h.abs_carry, h.status⟩, h.idle, h.atRest⟩

/-- A module that was configured stands still. -/
theorem configured (h : e.Standstill) (config : DeviceConfig) : (e.configured config).Standstill :=
  (h.withParams config).withTarget e.encoder

end Standstill

end Device

section

variable {e : Device} {config : DeviceConfig}

/-- A faulty parameter is refused before anything is written. -/
theorem configure_of_fault (h : e.Standstill) {p : AxisParam} {v : Int32}
    (hfirst : Device.firstOutOfRange? config.params = some (p, v)) :
    Meets (fun l ↦ e.IsLater l.device) (configure Clocked.bus config)
      fun a l ↦ Configured e config a l.device := by
  have hfault : config.fault? = some (.valueOutOfRange p v) := by
    rw [config.fault?_eq, hfirst]
    rfl
  have hrejected (n : Nat) : (e.aged n).handle (.setParams config.params) =
      (.error (.valueOutOfRange p v), e.aged n) :=
    Device.handle_setParams_of_some hfirst
  refine Meets.bindFails (R := fun l ↦ e.IsLater l.device)
    (h.request (Q := fun a d ↦ a = .error (.setup .applyConfig
      (Refusal.valueOutOfRange p v).toModuleError) ∧ e.IsLater d) fun n ↦ ?_) ?_
  · rw [hrejected]
    exact ⟨rfl, n, rfl⟩
  · rintro l ⟨n, hdevice⟩
    rw [hdevice]
    exact .rejected n hfault

/-- The download is the last request, and its refusal the only one that is left. -/
theorem upload_configured (h : (e.configured config).Standstill) (hfault : config.fault? = none) :
    Meets (fun l ↦ (e.configured config).IsLater l.device)
      (Clocked.bus.request (.setup .uploadProgram) (.upload profile) >>= fun _ ↦ pure { config })
      fun a l ↦ Configured e config a l.device := by
  have hupload (n : Nat) : ((e.configured config).aged n).handle (.upload profile) =
      if e.capacity < profile.size then
        (.error (.programTooLong profile.size e.capacity), (e.configured config).aged n)
      else (.ok (), ((e.configured config).aged n).withProgram profile) := by
    rw [Device.handle_upload_of_idle (h.aged n).idle, Device.capacity_aged,
      Device.capacity_configured]
  rcases Nat.lt_or_ge e.capacity profile.size with hsmall | hfits
  · refine Meets.bindFails (R := fun l ↦ (e.configured config).IsLater l.device)
      (h.request (Q := fun a d ↦ a = .error (.setup .uploadProgram
        (Refusal.programTooLong profile.size e.capacity).toModuleError) ∧
        (e.configured config).IsLater d) fun n ↦ ?_) ?_
    · rw [hupload, if_pos hsmall]
      exact ⟨rfl, n, rfl⟩
    · rintro l ⟨n, hdevice⟩
      rw [hdevice]
      exact .refused n hfault hsmall
  · refine .andThen (R := fun _ l ↦
        ∃ n, l.device = ((e.configured config).aged n).withProgram profile)
      (h.request (Q := fun a d ↦ ∃ v, a = .ok v ∧
        ∃ n, d = ((e.configured config).aged n).withProgram profile)
        fun n ↦ ?_) fun _ ↦ .pure ?_
    · rw [hupload, if_neg (Nat.not_lt.mpr hfits)]
      exact ⟨(), rfl, n, rfl⟩
    · rintro l ⟨n, hdevice⟩
      rw [hdevice]
      exact .accepted n hfault hfits

/-- Without a faulty parameter everything is written, and only the download can still fail. -/
theorem configure_of_valid (h : e.Standstill)
    (hfirst : Device.firstOutOfRange? config.params = none) :
    Meets (fun l ↦ e.IsLater l.device) (configure Clocked.bus config)
      fun a l ↦ Configured e config a l.device := by
  have hfault : config.fault? = none := by
    rw [config.fault?_eq, hfirst]
    rfl
  have hparams := h.withParams config
  have hencoder := e.encoder_withParams config
  refine .andThen (R := fun _ l ↦ (e.withParams config).IsLater l.device)
    (h.request (Q := fun a d ↦ ∃ v, a = .ok v ∧ (e.withParams config).IsLater d) fun n ↦ ?_)
    fun _ ↦ ?_
  · rw [Device.handle_setParams_of_none hfirst, Device.registers_aged, ← Device.aged_withRegisters]
    exact ⟨(), rfl, n, rfl⟩
  -- time has not moved the encoder, so what is read is the count at the standstill
  refine .andThen (R := fun p l ↦ p = e.encoder ∧ (e.withParams config).IsLater l.device)
    (hparams.request (r := .getParam .encoderPosition)
      (Q := fun a d ↦ ∃ v, a = .ok v ∧ v = e.encoder ∧ (e.withParams config).IsLater d)
      fun n ↦ ⟨(e.withParams config).encoder, rfl, hencoder, n, rfl⟩) fun position ↦ ?_
  refine .andThen (R := fun _ l ↦ (e.configured config).IsLater l.device) ?_
    fun _ ↦ upload_configured (h.configured config) hfault
  rintro l ⟨rfl, hl⟩
  refine hparams.request (r := .setGlobal Profile.targetPosition e.encoder)
    (Q := fun a d ↦ ∃ v, a = .ok v ∧ (e.configured config).IsLater d) (fun n ↦ ?_) l hl
  rw [Device.handle_setTarget, Device.withTarget_aged]
  exact ⟨(), rfl, n, rfl⟩

/-- How a module at a standstill is configured, whatever the configuration. -/
theorem configure_configured (h : e.Standstill) (config : DeviceConfig) :
    Meets (fun l ↦ e.IsLater l.device) (configure Clocked.bus config)
      fun a l ↦ Configured e config a l.device := by
  rcases hfirst : Device.firstOutOfRange? config.params with _ | ⟨p, v⟩
  · exact configure_of_valid h hfirst
  · exact configure_of_fault h hfirst

end

/-! ### The whole setup -/

/-- What is true after the setup of a module, with the answer that the host got. The module was `b`
when the first request reached it. -/
structure SetUp (b : Device) (config : DeviceConfig) (a : Except DriveError Controller)
    (d : Device) : Prop where
  /-- No program runs. -/
  idle : d.isRunning = false
  /-- No speed is commanded. -/
  targetSpeed : d.registers.param .targetSpeed = 0
  /-- The motor does not turn. -/
  actualSpeed : d.registers.param .actualSpeed = 0
  /-- The setup succeeds for a valid configuration if the program fits. -/
  ok_iff : (∃ c, a = .ok c) ↔ config.fault? = none ∧ 43 ≤ b.capacity
  /-- It is rejected for the parameters if the configuration is faulty. -/
  applyConfig_iff : (∃ e, a = .error (.setup .applyConfig e)) ↔ config.fault? ≠ none
  /-- It is refused for the program if only this does not fit. -/
  uploadProgram_iff :
    (∃ e, a = .error (.setup .uploadProgram e)) ↔ config.fault? = none ∧ b.capacity < 43
  /-- A rejection names the parameter that validation names, and nothing was written. -/
  rejected : config.fault? ≠ none →
    (∃ p v, config.fault? = some (.valueOutOfRange p v) ∧
      a = .error (.setup .applyConfig (Refusal.valueOutOfRange p v).toModuleError)) ∧
    (∀ p ∉ [AxisParam.targetSpeed, .actualSpeed, .encoderPosition],
      d.registers.param p = b.registers.param p) ∧
    (∀ g ≠ .status, d.registers.global g = b.registers.global g) ∧ d.program = b.program
  /-- A refusal leaves the program that was loaded. -/
  refused : config.fault? = none → b.capacity < 43 → d.program = b.program
  /-- A success leaves the parameters configured, the program loaded, and the drive on its target
  for as long as nothing is asked of it. -/
  accepted : config.fault? = none → 43 ≤ b.capacity →
    (∀ p v, (p, v) ∈ config.params → d.registers.param p = v) ∧ d.program = some profile ∧
    ∀ n, (Device.runTicks n d).registers.global Profile.targetPosition =
      (Device.runTicks n d).encoder

namespace Configured

variable {b e d : Device} {config : DeviceConfig} {a : Except DriveError Controller}

/-- However the setup ends, the module is still at a standstill. -/
theorem standstill (h : Configured e config a d) (he : e.Standstill) : d.Standstill := by
  cases h with
  | rejected n => exact he.aged n
  | refused n => exact (he.configured config).aged n
  | accepted n => exact ((he.configured config).aged n).withProgram profile

/-- After a success every parameter reads its configured value. -/
theorem param_configured (hfault : config.fault? = none) {p : AxisParam} {v : Int32}
    (hmem : (p, v) ∈ config.params) : (e.configured config).registers.param p = v := by
  rw [Device.param_configured]
  exact Registers.param_storeParams_of_mem _ config.nodup_params hmem
    (config.accepts_of_fault? hfault hmem)

/-- The target is the encoder count. -/
theorem target_configured (e : Device) (config : DeviceConfig) :
    (e.configured config).registers.global Profile.targetPosition =
      (e.configured config).encoder := by
  rw [Device.configured, Device.global_withTarget, Device.encoder_withTarget,
    Device.encoder_withParams]

/-- The requirements hold for a module that was brought to its standstill from `b`. -/
theorem setUp (h : Configured e config a d) (he : e.Standstill) (hmemory : b.SameMemory e) :
    SetUp b config a d := by
  have hd := h.standstill he
  have htarget : d.registers.param .targetSpeed = 0 := hd.atRest.targetSpeed
  have hactual : d.registers.param .actualSpeed = 0 := hd.atRest.actualSpeed
  have hcapacity := hmemory.capacity
  have hsize := size_profile
  cases h with
  | rejected n hfault =>
    refine ⟨hd.idle, htarget, hactual, by simp [hfault], by simp [hfault], by simp [hfault],
      fun _ ↦ ⟨⟨_, _, hfault, rfl⟩, ?_, ?_, ?_⟩, ?_, ?_⟩
    · -- nothing was written, so the memory is that of `b`
      intro p hp
      exact hmemory.param_eq hp
    · intro g hg
      exact hmemory.global_eq hg
    · exact hmemory.program
    all_goals
      intro hvalid
      rw [hfault] at hvalid
      cases hvalid
  | refused n hfault hsmall =>
    refine ⟨hd.idle, htarget, hactual, ?_, by simp [hfault], ?_, fun h ↦ absurd hfault h, ?_, ?_⟩
    · simp only [reduceCtorEq, exists_false, false_iff]
      omega
    · have : b.capacity < 43 := by omega
      simp [hfault, this]
    · intro _ _
      rw [Device.program_aged, Device.program_configured]
      exact hmemory.program
    · intro _ hfits
      omega
  | accepted n hfault hfits =>
    refine ⟨hd.idle, htarget, hactual, ?_, by simp [hfault], ?_, fun h ↦ absurd hfault h, ?_, ?_⟩
    · have : 43 ≤ b.capacity := by omega
      simp [hfault, this]
    · simp only [reduceCtorEq, exists_false, false_iff]
      omega
    · intro _ hsmall
      omega
    · intro _ _
      refine ⟨?_, Device.program_withProgram _ _, ?_⟩
      · intro p v hmem
        rw [Device.registers_withProgram, Device.registers_aged]
        exact param_configured hfault hmem
      · intro k
        rw [hd.runTicks, Device.registers_aged, Device.registers_withProgram,
          Device.registers_aged, Device.encoder_aged, Device.encoder_withProgram,
          Device.encoder_aged, target_configured]

end Configured

/-- The first request ends the program that runs. -/
theorem stopProgram_halts (b : Device) :
    Succeeds (fun l ↦ l.found = b) (Clocked.bus.request .transport .stopProgram)
      fun _ l ↦ l.device = b.haltProgram := by
  refine Clocked.busRequest (Q := fun a d ↦ ∃ v, a = .ok v ∧ d = b.haltProgram) fun l hl ↦ ?_
  rw [hl]
  exact ⟨(), rfl, rfl⟩

/-- The second request stops the motor. In the time before it nothing but the motor moves, since no
program runs any more. -/
theorem stop_standstill {b : Device} (hb : b.Sound) :
    Succeeds (fun l ↦ l.device = b.haltProgram) (Clocked.bus.request .transport .stop)
      fun _ l ↦ l.device.Standstill ∧ b.SameMemory l.device := by
  refine Clocked.busRequest
    (Q := fun a d ↦ ∃ v, a = .ok v ∧ d.Standstill ∧ b.SameMemory d) fun l hl ↦ ?_
  have hhalted : b.haltProgram.Sound := hb.handle .stopProgram
  obtain ⟨motor, hcarry, hfound⟩ := Device.runTicks_of_idle hhalted rfl (l.delays 0)
  rw [Clocked.found, hl, hfound]
  have hrest := Motor.isAtRest_stop hcarry
  exact ⟨(), rfl, ⟨⟨hrest.abs_carry, rfl⟩, rfl, hrest⟩, rfl, rfl, rfl, rfl⟩

/-- **Setting a module up.** The module may be in any reachable state, and any time may pass before
each request. Whether the setup succeeds, and where it fails otherwise, is decided by the
configuration and by the size of program memory alone. -/
theorem connect_setUp {l : Clocked} (h : l.device.Reachable) (config : DeviceConfig) :
    l.found.capacity = l.device.capacity ∧ l.found.program = l.device.program ∧
      SetUp l.found config ((connect Clocked.bus config).run.run l).1
        ((connect Clocked.bus config).run.run l).2.device := by
  obtain ⟨hprogram, hcapacity⟩ := Device.memory_runTicks (l.delays 0) l.device
  refine ⟨hcapacity, hprogram, ?_⟩
  have hsound : l.found.Sound := (h.runTicks (l.delays 0)).sound
  have hconnect : Meets (fun l' ↦ l'.found = l.found) (connect Clocked.bus config)
      fun a l' ↦ SetUp l.found config a l'.device := by
    rw [connect_eq]
    refine .andThen (stopProgram_halts l.found) fun _ ↦ .andThen (stop_standstill hsound) fun _ ↦ ?_
    rintro l' ⟨hstill, hmemory⟩
    exact (configure_configured hstill config l' ⟨0, rfl⟩).setUp hstill hmemory
  exact hconnect l rfl

/-- A module under way to `5000`, whose requests take longer and longer. -/
def underWay : Clocked where
  device :=
    let loaded := ((Device.initial 0 programMemory).handle (.upload profile)).2
    let targeted := (loaded.handle (.setGlobal Profile.targetPosition 5000)).2
    Device.runTicks 3 (targeted.handle .startProgram).2
  delays n := n + 1

/-- A module under way is set up and stays where it is, and a current that no axis can take is
found by the module as it is by validation. -/
theorem connect_setUp_underWay :
    underWay.device.isRunning = true ∧ underWay.device.actualSpeed ≠ 0 ∧
      (∃ c, ((connect Clocked.bus {}).run.run underWay).1 = .ok c) ∧
      (∀ n, (Device.runTicks n ((connect Clocked.bus {}).run.run underWay).2.device).registers.global
          Profile.targetPosition =
        (Device.runTicks n ((connect Clocked.bus {}).run.run underWay).2.device).encoder) ∧
      ∃ e, ((connect Clocked.bus { maximumCurrent := 256 }).run.run underWay).1 =
        .error (.setup .applyConfig e) := by
  have hreachable : underWay.device.Reachable := by
    dsimp only [underWay]
    exact .runTicks (.handle (.handle (.handle (.initial 0 programMemory) _) _) _) 3
  obtain ⟨hcapacity, -, hsetUp⟩ := connect_setUp hreachable {}
  have hfault : ({} : DeviceConfig).fault? = none := by decide
  have hfits : 43 ≤ underWay.found.capacity := by
    rw [hcapacity]
    decide +kernel
  refine ⟨by decide +kernel, by decide +kernel, hsetUp.ok_iff.mpr ⟨hfault, hfits⟩,
    (hsetUp.accepted hfault hfits).2.2, ?_⟩
  exact (connect_setUp hreachable { maximumCurrent := 256 }).2.2.applyConfig_iff.mpr (by decide)

end FocusDrive
