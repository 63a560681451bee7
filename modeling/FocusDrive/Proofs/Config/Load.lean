import FocusDrive.Proofs.Config.Order
import FocusDrive.Proofs.Toml.Distinct
import Mathlib

/-!
# What comes of a configuration file

Loading asks two questions. Can the file be read? And is what was read without fault? The first one
is about the whole file and goes before the second one, so a value that is out of its range is
reported only if nothing else keeps the file from being read. Of several faults the first one is
reported, in the order of the sections and of the parameters (`ConfigFault.rank`).

A configuration is checked after it was decoded, when nobody can tell any more which values were
given. But the defaults are not faulty, so its faults are those of the values that were given
(`DriverConfig.mem_faults_iff`), and every outcome of loading can be told from the file alone.

All this holds of any lawful reader of documents. Only the examples are about the parser.
-/

namespace FocusDrive

open Toml (Value)

/-! ### Faults in their order -/

/-- The place of a fault in the order in which faults are looked for. -/
def ConfigFault.rank : ConfigFault → ℕ
  | emptyServiceName => 0
  | valueOutOfRange p _ => 1 + (({} : DeviceConfig).params.map Prod.fst).idxOf p
  | zeroTick => 1 + ({} : DeviceConfig).params.length
  | zeroCapacity => 2 + ({} : DeviceConfig).params.length

/-- All faults of the shared settings. -/
def SharedConfig.faults (c : SharedConfig) : List ConfigFault :=
  if c.serviceName.isEmpty then [.emptyServiceName] else []

/-- All faults of the motor parameters. -/
def DeviceConfig.faults (c : DeviceConfig) : List ConfigFault :=
  (c.params.filter fun (p, w) ↦ !p.accepts w).map fun (p, w) ↦ .valueOutOfRange p w

namespace DeviceConfig

/-- The parameters that are configured are always the same ones; only the values differ. -/
theorem mem_params_iff {c : DeviceConfig} {p : AxisParam} {w : Int32} :
    (p, w) ∈ c.params ↔ (∃ d, (p, d) ∈ ({} : DeviceConfig).params) ∧ w = c.get p := by
  have hparams : c.params = ({} : DeviceConfig).params.map fun (p, _) ↦ (p, c.get p) := rfl
  rw [hparams, List.mem_map]
  constructor
  · rintro ⟨⟨q, d⟩, hq, heq⟩
    cases heq
    exact ⟨⟨d, hq⟩, rfl⟩
  · rintro ⟨⟨d, hp⟩, rfl⟩
    exact ⟨(p, d), hp, rfl⟩

/-- The module accepts every default. -/
theorem accepts_default : ∀ entry ∈ ({} : DeviceConfig).params, entry.1.accepts entry.2 = true := by
  decide

end DeviceConfig

/-- All faults of the simulation settings. -/
def SimulationConfig.faults (c : SimulationConfig) : List ConfigFault :=
  (if c.tickMicros = 0 then [.zeroTick] else []) ++
    if c.programCapacity = 0 then [.zeroCapacity] else []

namespace DriverConfig

variable {c : DriverConfig} {v : Value} {f : ConfigFault}

/-- All faults of a configuration. -/
def faults (c : DriverConfig) : List ConfigFault :=
  c.shared.faults ++ (c.device.faults ++ c.simulation.faults)

/-- The check stops at the first fault. -/
theorem fault?_eq_head? (c : DriverConfig) : c.fault? = c.faults.head? := by
  have hshared : c.shared.fault? = c.shared.faults.head? := by
    rw [SharedConfig.fault?, SharedConfig.faults]
    split <;> rfl
  have hdevice : c.device.fault? = c.device.faults.head? := by
    rw [DeviceConfig.fault?, DeviceConfig.faults, List.head?_map, List.head?_filter]
  have hsimulation : c.simulation.fault? = c.simulation.faults.head? := by
    rw [SimulationConfig.fault?, SimulationConfig.faults]
    split
    · rfl
    · split <;> rfl
  rw [fault?, faults, List.head?_append, List.head?_append, hshared, hdevice, hsimulation,
    Option.orElse_eq_orElse, Option.orElse_eq_or, Option.orElse_eq_or]

/-- The faults are listed in the order of their ranks, and no rank occurs twice. -/
theorem pairwise_rank_faults (c : DriverConfig) :
    (c.faults.map ConfigFault.rank).Pairwise (· < ·) := by
  have hshared : (c.shared.faults.map ConfigFault.rank).Sublist [0] := by
    rw [SharedConfig.faults]
    split <;> simp [ConfigFault.rank]
  have hdevice : (c.device.faults.map ConfigFault.rank).Sublist (List.range' 1 11) := by
    have hranks : List.range' 1 11 =
        c.device.params.map fun (p, w) ↦ (ConfigFault.valueOutOfRange p w).rank := rfl
    rw [DeviceConfig.faults, List.map_map, hranks]
    exact List.filter_sublist.map _
  have hsimulation : (c.simulation.faults.map ConfigFault.rank).Sublist [12, 13] := by
    rw [SimulationConfig.faults]
    split <;> split <;> decide
  -- Which faults there are differs, but they are always some of the fourteen in their order.
  have hranks : (c.faults.map ConfigFault.rank).Sublist (List.range 14) := by
    rw [faults, List.map_append, List.map_append]
    exact hshared.append (hdevice.append hsimulation)
  exact List.pairwise_lt_range.sublist hranks

/-- The fault that is named is the one that comes first. -/
theorem fault?_eq_some_iff :
    c.fault? = some f ↔ f ∈ c.faults ∧ ∀ g ∈ c.faults, f.rank ≤ g.rank := by
  have hranks := c.pairwise_rank_faults
  rw [fault?_eq_head?]
  cases hfaults : c.faults with
  | nil => simp
  | cons first others =>
    rw [hfaults, List.map_cons, List.pairwise_cons, List.forall_mem_map] at hranks
    rw [List.head?_cons, Option.some.injEq, List.forall_mem_cons]
    constructor
    · rintro rfl
      exact ⟨List.mem_cons_self, Nat.le_refl _, fun g hg ↦ Nat.le_of_lt (hranks.1 g hg)⟩
    · rintro ⟨hmem, hfirst, -⟩
      rcases List.mem_cons.mp hmem with rfl | hothers
      · rfl
      · exact absurd (hranks.1 f hothers) (Nat.not_lt.mpr hfirst)

/-- A configuration passes the check if it has no fault at all. -/
theorem fault?_eq_none_iff : c.fault? = none ↔ ∀ f, f ∉ c.faults := by
  rw [fault?_eq_head?, List.head?_eq_none_iff, List.eq_nil_iff_forall_not_mem]

/-! ### Faults in a document -/

/-- A value that is given is faulty. -/
inductive HasFault (v : Value) : ConfigFault → Prop
  /-- The instance is given no name but an empty one. -/
  | emptyServiceName (h : v.at? "shared" "service_name" = some (.string "")) :
      HasFault v .emptyServiceName
  /-- A motor parameter is given a word that the module would refuse. -/
  | valueOutOfRange {p : AxisParam} {w : Int32}
      (h : v.at? "device" p.name = some (.integer w.toInt)) (hw : p.accepts w = false) :
      HasFault v (.valueOutOfRange p w)
  /-- A tick is given no length. -/
  | zeroTick (h : v.at? "simulation" "tick_us" = some (.integer 0)) : HasFault v .zeroTick
  /-- Program memory is given no size. -/
  | zeroCapacity (h : v.at? "simulation" "program_capacity" = some (.integer 0)) :
      HasFault v .zeroCapacity

/-- A field has what was given, or the default. -/
theorem eq_getD_of_overridden {given : String → Option Value}
    {values defaults : List (String × Value)} (h : values = overridden given defaults)
    {name : String} {x default : Value} (hx : values.lookup name = some x)
    (hdefault : defaults.lookup name = some default) :
    x = (given name).getD default := by
  rw [h, lookup_overridden, hdefault, Option.map_some] at hx
  exact (Option.some.inj hx).symm

namespace Overrides

theorem serviceName (h : Overrides v c) :
    .string c.shared.serviceName =
      (v.at? "shared" "service_name").getD (.string FocusDrive.serviceName) :=
  eq_getD_of_overridden h.shared rfl rfl

theorem tick (h : Overrides v c) :
    .integer c.simulation.tickMicros =
      (v.at? "simulation" "tick_us").getD (.integer (10000 : ℕ)) :=
  eq_getD_of_overridden h.simulation rfl rfl

theorem capacity (h : Overrides v c) :
    .integer c.simulation.programCapacity =
      (v.at? "simulation" "program_capacity").getD (.integer programMemory) :=
  eq_getD_of_overridden h.simulation rfl rfl

/-- A parameter is the word that is given for it, or its default. -/
theorem param (h : Overrides v c) {p : AxisParam} {d : Int32}
    (hp : (p, d) ∈ ({} : DeviceConfig).params) :
    .integer (c.device.get p).toInt = (v.at? "device" p.name).getD (.integer d.toInt) := by
  have hfields : c.device.fields = ({} : DeviceConfig).params.map fun (p, _) ↦
      (p.name, .integer (c.device.get p).toInt) := rfl
  have hmap := hfields.symm.trans h.device
  rw [overridden, DeviceConfig.fields, List.map_map, List.map_inj_left] at hmap
  exact congrArg Prod.snd (hmap _ hp)

end Overrides

/-- A value that is not the default is there only if it was given. -/
theorem eq_getD_iff {given : Option Value} {default x : Value} (h : default ≠ x) :
    x = given.getD default ↔ given = some x := by
  cases given with
  | none => simp [h.symm]
  | some y => simp [eq_comm]

/-- The name of the instance is empty only if an empty one is given. -/
theorem mem_faults_shared (h : Overrides v c) :
    f ∈ c.shared.faults ↔ f = .emptyServiceName ∧
      v.at? "shared" "service_name" = some (.string "") := by
  have hdefault : Value.string serviceName ≠ .string "" := by
    rw [ne_eq, Value.string.injEq]
    decide
  have hname : c.shared.serviceName.isEmpty = true ↔
      v.at? "shared" "service_name" = some (.string "") := by
    rw [← eq_getD_iff hdefault, ← h.serviceName, Value.string.injEq, String.isEmpty_iff, eq_comm]
  rw [SharedConfig.faults, ← hname]
  split <;> simp [*]

/-- What is given in the device section is given for a parameter that can be configured. -/
theorem Readable.known_param [Toml.Reader] (h : Readable v) {k : String} {y : Value}
    (hat : v.at? "device" k = some y) :
    ∃ p d, (p, d) ∈ ({} : DeviceConfig).params ∧ p.name = k := by
  obtain ⟨x, hx, hy⟩ := Option.bind_eq_some_iff.mp hat
  obtain ⟨⟨p, d⟩, hp, hname⟩ := List.mem_map.mp ((h.device x hx).known k y hy)
  exact ⟨p, d, hp, hname⟩

/-- A parameter is out of its range only if such a word is given for it. -/
theorem mem_faults_device [Toml.Reader] (hreadable : Readable v) (h : Overrides v c) :
    f ∈ c.device.faults ↔ ∃ p w, f = .valueOutOfRange p w ∧
      v.at? "device" p.name = some (.integer w.toInt) ∧ p.accepts w = false := by
  rw [DeviceConfig.faults, List.mem_map]
  constructor
  · rintro ⟨⟨p, w⟩, hmem, rfl⟩
    obtain ⟨hparams, hrefused⟩ := List.mem_filter.mp hmem
    obtain ⟨⟨d, hp⟩, rfl⟩ := DeviceConfig.mem_params_iff.mp hparams
    have hw : p.accepts (c.device.get p) = false := by simpa using hrefused
    have hdefault : Value.integer d.toInt ≠ .integer (c.device.get p).toInt := by
      have hd : p.accepts d = true := DeviceConfig.accepts_default (p, d) hp
      rw [ne_eq, Value.integer.injEq, Int32.toInt_inj]
      intro heq
      rw [heq, hw] at hd
      contradiction
    exact ⟨p, _, rfl, (eq_getD_iff hdefault).mp (h.param hp), hw⟩
  · rintro ⟨p, w, rfl, hat, hw⟩
    obtain ⟨q, d, hq, hname⟩ := hreadable.known_param hat
    obtain rfl := AxisParam.name_inj.mp hname
    have hparam := h.param hq
    rw [hat, Option.getD_some, Value.integer.injEq, Int32.toInt_inj] at hparam
    have hmem : (q, w) ∈ c.device.params :=
      DeviceConfig.mem_params_iff.mpr ⟨⟨d, hq⟩, hparam.symm⟩
    exact ⟨(q, w), List.mem_filter.mpr ⟨hmem, by simpa using hw⟩, rfl⟩

/-- A number that is not zero by default is zero only if this is given. -/
theorem natural_eq_zero_iff {given : Option Value} {default n : ℕ} (hdefault : default ≠ 0)
    (h : .integer n = given.getD (.integer default)) : n = 0 ↔ given = some (.integer 0) := by
  have hne : Value.integer default ≠ .integer 0 := by
    rw [ne_eq, Value.integer.injEq, Int.natCast_eq_zero]
    exact hdefault
  rw [← eq_getD_iff hne, ← h, Value.integer.injEq]
  omega

/-- A length or a size is zero only if this is given. -/
theorem mem_faults_simulation (h : Overrides v c) :
    f ∈ c.simulation.faults ↔
      (f = .zeroTick ∧ v.at? "simulation" "tick_us" = some (.integer 0)) ∨
        (f = .zeroCapacity ∧ v.at? "simulation" "program_capacity" = some (.integer 0)) := by
  rw [SimulationConfig.faults, ← natural_eq_zero_iff (by decide) h.tick,
    ← natural_eq_zero_iff (by decide) h.capacity, List.mem_append]
  split <;> split <;> simp [*]

/-- The faults of a configuration are those in the document it was read from. -/
theorem mem_faults_iff [Toml.Reader] (hreadable : Readable v) (h : Overrides v c) :
    f ∈ c.faults ↔ HasFault v f := by
  rw [faults, List.mem_append, List.mem_append, mem_faults_shared h,
    mem_faults_device hreadable h, mem_faults_simulation h]
  constructor
  · rintro (⟨rfl, hat⟩ | ⟨p, w, rfl, hat, hw⟩ | ⟨rfl, hat⟩ | ⟨rfl, hat⟩)
    · exact .emptyServiceName hat
    · exact .valueOutOfRange hat hw
    · exact .zeroTick hat
    · exact .zeroCapacity hat
  · intro hfault
    cases hfault with
    | emptyServiceName hat => exact .inl ⟨rfl, hat⟩
    | valueOutOfRange hat hw => exact .inr (.inl ⟨_, _, rfl, hat, hw⟩)
    | zeroTick hat => exact .inr (.inr (.inl ⟨rfl, hat⟩))
    | zeroCapacity hat => exact .inr (.inr (.inr ⟨rfl, hat⟩))

/-! ### Loading -/

section Loading

variable {contents : ByteArray} {entries : List (String × Value)}

/-- Once the file is read, loading is decoding and then checking. -/
theorem loadValidated_eq [Toml.Reader] (hread : Toml.Reader.readBytes? contents = some v) :
    loadValidated (some contents) =
      (decode? v).elim (.error .unreadable) fun c ↦ c.validate.mapError .invalid := by
  rw [loadValidated, load, loadWith, hread, Option.bind_eq_bind, Option.bind_some]
  cases decode? v <;> rfl

variable [Toml.Reader] [Toml.LawfulReader]
  (hread : Toml.Reader.readBytes? contents = some (.table entries))
  (hv : (Value.table entries).Distinct) (hregular : Regular (.table entries))

include hread hv hregular

/-- A document that breaks the rules cannot be read, whatever else is wrong with it. -/
theorem loadValidated_of_not_readable (h : ¬Readable (.table entries)) :
    loadValidated (some contents) = .error .unreadable := by
  have hdecode : decode? (.table entries) = none :=
    Option.eq_none_iff_forall_ne_some.mpr fun c hc ↦ h (readable_of_decode? hv hregular hc).1
  rw [loadValidated_eq hread, hdecode, Option.elim_none]

/-- For a document that obeys the rules the check has the last word. -/
theorem loadValidated_of_readable (h : Readable (.table entries)) :
    ∃ c, Overrides (.table entries) c ∧
      loadValidated (some contents) = c.validate.mapError .invalid := by
  obtain ⟨c, hc⟩ := exists_decode? hv hregular h
  refine ⟨c, (readable_of_decode? hv hregular hc).2, ?_⟩
  rw [loadValidated_eq hread, hc, Option.elim_some]

theorem loadValidated_eq_unreadable_iff :
    loadValidated (some contents) = .error .unreadable ↔ ¬Readable (.table entries) := by
  refine ⟨fun hload hreadable ↦ ?_, loadValidated_of_not_readable hread hv hregular⟩
  obtain ⟨c, -, hc⟩ := loadValidated_of_readable hread hv hregular hreadable
  rw [hc, validate] at hload
  cases hfault : c.fault? <;> rw [hfault] at hload <;> cases hload

/-- What is accepted, and with which configuration. -/
theorem loadValidated_eq_ok_iff :
    loadValidated (some contents) = .ok c ↔
      (Readable (.table entries) ∧ ∀ f, ¬HasFault (.table entries) f) ∧
        Overrides (.table entries) c := by
  constructor
  · intro hload
    by_cases hreadable : Readable (.table entries)
    · obtain ⟨c', hoverrides, hc'⟩ := loadValidated_of_readable hread hv hregular hreadable
      rw [hc', validate] at hload
      cases hfault : c'.fault? with
      | none =>
        rw [hfault] at hload
        cases hload
        refine ⟨⟨hreadable, fun f hf ↦ ?_⟩, hoverrides⟩
        exact fault?_eq_none_iff.mp hfault f ((mem_faults_iff hreadable hoverrides).mpr hf)
      | some f =>
        rw [hfault] at hload
        cases hload
    · cases (loadValidated_of_not_readable hread hv hregular hreadable).symm.trans hload
  · rintro ⟨⟨hreadable, hfaults⟩, hoverrides⟩
    obtain ⟨c', hoverrides', hc'⟩ := loadValidated_of_readable hread hv hregular hreadable
    obtain rfl := hoverrides.unique hoverrides'
    have hfault : c.fault? = none :=
      fault?_eq_none_iff.mpr fun f hf ↦ hfaults f ((mem_faults_iff hreadable hoverrides).mp hf)
    rw [hc', validate, hfault]
    rfl

/-- Which fault is reported. -/
theorem loadValidated_eq_invalid_iff :
    loadValidated (some contents) = .error (.invalid f) ↔
      Readable (.table entries) ∧ HasFault (.table entries) f ∧
        ∀ g, HasFault (.table entries) g → f.rank ≤ g.rank := by
  by_cases hreadable : Readable (.table entries)
  · obtain ⟨c, hoverrides, hc⟩ := loadValidated_of_readable hread hv hregular hreadable
    have hload : loadValidated (some contents) = .error (.invalid f) ↔ c.fault? = some f := by
      rw [hc, validate]
      cases c.fault? with
      | none => exact ⟨(nomatch ·), (nomatch ·)⟩
      | some g =>
        constructor
        · intro h
          cases h
          rfl
        · rintro ⟨⟩
          rfl
    rw [hload, fault?_eq_some_iff]
    simp only [mem_faults_iff hreadable hoverrides, hreadable, true_and]
  · have hload := loadValidated_of_not_readable hread hv hregular hreadable
    exact ⟨fun h ↦ absurd (hload.symm.trans h) nofun, fun h ↦ absurd h.1 hreadable⟩

end Loading

/-- A text is read from its own bytes. -/
theorem readBytes?_toUTF8 [Toml.Reader] (text : String) :
    Toml.Reader.readBytes? text.toUTF8 = Toml.Reader.read? text := by
  have htext : String.fromUTF8? text.toUTF8 = some text := dif_pos text.isValidUTF8
  rw [Toml.Reader.readBytes?, htext, Option.bind_eq_bind, Option.bind_some]

/-- **Loading a configuration.** A file whose sections are tables and whose log level is a string is
accepted exactly if it can be read and no value in it is faulty, and it gives the defaults with the
values in it put in their places. If it cannot be read, this is the error, whatever else may be
wrong; and if it can, the error is the first fault. The order of the keys plays no part. -/
theorem loadValidated_classified [Toml.Reader] [Toml.LawfulReader] {contents : ByteArray}
    (hread : Toml.Reader.readBytes? contents = some v) (hregular : Regular v) :
    (∀ c, loadValidated (some contents) = .ok c ↔
      (Readable v ∧ ∀ f, ¬HasFault v f) ∧ Overrides v c) ∧
    ((∃ c, loadValidated (some contents) = .ok c) ↔ Readable v ∧ ∀ f, ¬HasFault v f) ∧
    (loadValidated (some contents) = .error .unreadable ↔ ¬Readable v) ∧
    (∀ f, loadValidated (some contents) = .error (.invalid f) ↔
      Readable v ∧ HasFault v f ∧ ∀ g, HasFault v g → f.rank ≤ g.rank) ∧
    ∀ contents' w, Toml.Reader.readBytes? contents' = some w → v.Reordered w →
      loadValidated (some contents') = loadValidated (some contents) := by
  obtain ⟨entries, rfl⟩ := Toml.LawfulReader.isTable_readBytes? hread
  have hv := Toml.LawfulReader.distinct_readBytes? hread
  refine ⟨fun c ↦ loadValidated_eq_ok_iff hread hv hregular, ⟨?_, ?_⟩,
    loadValidated_eq_unreadable_iff hread hv hregular,
    fun f ↦ loadValidated_eq_invalid_iff hread hv hregular, fun contents' w hread' hvw ↦ ?_⟩
  · rintro ⟨c, hc⟩
    exact ((loadValidated_eq_ok_iff hread hv hregular).mp hc).1
  · intro h
    obtain ⟨c, hoverrides, -⟩ := loadValidated_of_readable hread hv hregular h.1
    exact ⟨c, (loadValidated_eq_ok_iff hread hv hregular).mpr ⟨h, hoverrides⟩⟩
  · rw [loadValidated_eq hread, loadValidated_eq hread',
      decode?_reordered hvw ⟨entries, rfl⟩ hv hregular]

/-- A file that names the instance and limits the speed. -/
def slowFile : String := "device.maximum_speed = 1500\n[shared]\nservice_name = \"slow\"\n"

/-- What it says. -/
def slowTree : Value :=
  .table [("device", .table [("maximum_speed", .integer 1500)]),
    ("shared", .table [("service_name", .string "slow")])]

theorem read?_slowFile : Toml.read? slowFile = some slowTree := by
  cbv

theorem regular_slowTree : Regular slowTree := by
  constructor
  · intro k _ x hx
    rcases List.mem_pair.mp (Toml.mem_of_lookup hx) with heq | heq
    all_goals
      cases heq
      exact ⟨_, rfl⟩
  · intro y hy
    have hnone : slowTree.at? "shared" "log_level" = none := rfl
    exact absurd (hnone.symm.trans hy) (Option.some_ne_none y).symm

/-- The file is accepted, and the two values that it gives replace the defaults. -/
theorem loadValidated_slowFile :
    Toml.LawfulReader ∧ Toml.Reader.readBytes? slowFile.toUTF8 = some slowTree ∧
      Regular slowTree ∧
      loadValidated (some slowFile.toUTF8) =
        .ok { shared := { serviceName := "slow" }, device := { maximumSpeed := 1500 } } := by
  have hread := (readBytes?_toUTF8 slowFile).trans read?_slowFile
  refine ⟨inferInstance, hread, regular_slowTree, ?_⟩
  obtain ⟨hok, -⟩ := loadValidated_classified hread regular_slowTree
  have hdecode : decode? slowTree =
      some { shared := { serviceName := "slow" }, device := { maximumSpeed := 1500 } } := rfl
  obtain ⟨hreadable, hoverrides⟩ :=
    readable_of_decode? (Toml.LawfulReader.distinct_readBytes? hread) regular_slowTree hdecode
  refine (hok _).mpr ⟨⟨hreadable, fun f hf ↦ ?_⟩, hoverrides⟩
  exact fault?_eq_none_iff.mp (by decide) f ((mem_faults_iff hreadable hoverrides).mpr hf)

/-- A file with a number that no machine word holds, under a key that nobody asks for. -/
def boundlessFile : String := "[shared]\nservice_name = \"s\"\ngain = 1e400\n"

/-- What it says. -/
def boundlessTree : Value :=
  .table [("shared", .table [("service_name", .string "s"),
    ("gain", .float (.decimal false 1 400))])]

theorem read?_boundlessFile : Toml.read? boundlessFile = some boundlessTree := by
  cbv

/-- It is refused although nothing but that number speaks against it. -/
theorem loadValidated_boundlessFile :
    Toml.LawfulReader ∧ Toml.Reader.readBytes? boundlessFile.toUTF8 = some boundlessTree ∧
      Regular boundlessTree ∧
      boundlessTree.entries.map Prod.fst = ["shared"] ∧
      boundlessTree.at? "shared" "service_name" = some (.string "s") ∧
      boundlessTree.at? "shared" "log_level" = none ∧
      loadValidated (some boundlessFile.toUTF8) = .error .unreadable := by
  have hread := (readBytes?_toUTF8 boundlessFile).trans read?_boundlessFile
  have hdecode : decode? boundlessTree = none := by decide +kernel
  refine ⟨inferInstance, hread, ⟨fun k _ x hx ↦ ?_, fun y hy ↦ ?_⟩, rfl, rfl, rfl, ?_⟩
  · cases List.mem_singleton.mp (Toml.mem_of_lookup hx)
    exact ⟨_, rfl⟩
  · have hnone : boundlessTree.at? "shared" "log_level" = none := rfl
    exact absurd (hnone.symm.trans hy) (Option.some_ne_none y).symm
  · rw [loadValidated_eq hread, hdecode, Option.elim_none]

end DriverConfig

end FocusDrive
