import FocusDrive.Proofs.Config.Decode

/-!
# A configuration does not depend on the order of its keys

A document and a reordered one stand for the same configuration, or both for none
(`decode?_reordered`).

The rules for what can be read ask what stands under a key. For a field of the configuration that is
a string or an integer, which reordering leaves alone. Only under the other keys of the shared
settings may there be a value that is reordered itself, and there the rule asks about the numbers in
it, of which none is lost.
-/

namespace FocusDrive

open Toml (Value)

variable {x y v w : Value}

namespace SharedConfig

/-- The rules for the shared settings do not ask for an order. -/
theorem Readable.reordered [Toml.Reader] (h : Readable x) (hxy : x.Reordered y)
    (hx : x.Distinct) : Readable y := by
  have hy := hxy.distinct hx
  constructor
  · obtain ⟨s, hs⟩ := h.named
    obtain ⟨z, hz, hsz⟩ := hxy.get? hx hs
    exact ⟨s, hsz.eq_string ▸ hz⟩
  · intro z hz
    obtain ⟨u, hu, hzu⟩ := hxy.symm.get? hy hz
    obtain ⟨l, rfl⟩ := h.logLevel u hu
    exact ⟨l, hzu.symm.eq_string⟩
  · intro k hk z hz n hn
    obtain ⟨u, hu, hzu⟩ := hxy.symm.get? hy hz
    exact h.others k hk u hu n (hzu.hasNumber hn)

/-- No field of the shared settings is a value that could be reordered. -/
theorem Readable.eq_of_reordered [Toml.Reader] (h : Readable x) {k : String}
    (hk : k ∈ fieldNames) {y z : Value} (hy : x.get? k = some y) (hyz : y.Reordered z) : z = y := by
  rcases List.mem_pair.mp hk with rfl | rfl
  · obtain ⟨l, rfl⟩ := h.logLevel y hy
    exact hyz.eq_string
  · obtain ⟨s, hs⟩ := h.named
    obtain rfl := Option.some.inj (hy.symm.trans hs)
    exact hyz.eq_string

end SharedConfig

namespace DeviceConfig

theorem Readable.reordered (h : Readable x) (hxy : x.Reordered y) (hx : x.Distinct) :
    Readable y := by
  have hy := hxy.distinct hx
  constructor
  · intro k z hz
    obtain ⟨u, hu, -⟩ := hxy.symm.get? hy hz
    exact h.known k u hu
  · intro k z hz
    obtain ⟨u, hu, hzu⟩ := hxy.symm.get? hy hz
    obtain ⟨w, rfl⟩ := h.words k u hu
    exact ⟨w, hzu.symm.eq_integer⟩

theorem Readable.eq_of_reordered (h : Readable x) {k : String} {y z : Value}
    (hy : x.get? k = some y) (hyz : y.Reordered z) : z = y := by
  obtain ⟨w, rfl⟩ := h.words k y hy
  exact hyz.eq_integer

end DeviceConfig

namespace SimulationConfig

/-- Everything among the simulation settings is an integer. -/
theorem Readable.exists_integer (h : Readable x) {k : String} (hy : x.get? k = some y) :
    ∃ n, y = .integer n := by
  have hk := h.known k y hy
  rw [fieldNames, List.mem_cons, List.mem_pair] at hk
  rcases hk with rfl | rfl | rfl
  · obtain ⟨n, -, rfl⟩ := h.tick y hy
    exact ⟨n, rfl⟩
  · obtain ⟨n, -, rfl⟩ := h.capacity y hy
    exact ⟨n, rfl⟩
  · obtain ⟨w, rfl⟩ := h.position y hy
    exact ⟨w.toInt, rfl⟩

theorem Readable.eq_of_reordered (h : Readable x) {k : String} {y z : Value}
    (hy : x.get? k = some y) (hyz : y.Reordered z) : z = y := by
  obtain ⟨n, rfl⟩ := h.exists_integer hy
  exact hyz.eq_integer

theorem Readable.reordered (h : Readable x) (hxy : x.Reordered y) (hx : x.Distinct) :
    Readable y := by
  have hback {k : String} {z : Value} (hz : y.get? k = some z) : x.get? k = some z := by
    obtain ⟨u, hu, hzu⟩ := hxy.symm.get? (hxy.distinct hx) hz
    rw [hu, h.eq_of_reordered hu hzu.symm]
  exact ⟨fun k z hz ↦ h.known k z (hback hz), fun z hz ↦ h.tick z (hback hz),
    fun z hz ↦ h.capacity z (hback hz), fun z hz ↦ h.position z (hback hz)⟩

end SimulationConfig

namespace DriverConfig

variable {c : DriverConfig}

/-- A document that is reordered stays regular. -/
theorem Regular.reordered (h : Regular v) (hvw : v.Reordered w) (hv : v.Distinct) : Regular w := by
  have hw := hvw.distinct hv
  constructor
  · intro k hk y hy
    obtain ⟨x, hx, hyx⟩ := hvw.symm.get? hw hy
    obtain ⟨entries, rfl⟩ := h.sections k hk x hx
    exact hyx.symm.eq_table
  · intro y hy
    obtain ⟨x, hx, hyx⟩ := hvw.symm.at? hw hy
    obtain ⟨s, rfl⟩ := h.logLevel x hx
    exact ⟨s, hyx.symm.eq_string⟩

variable [Toml.Reader]

/-- The rules for a document do not ask for an order. -/
theorem Readable.reordered (h : Readable v) (hvw : v.Reordered w) (hv : v.Distinct) :
    Readable w := by
  have hw := hvw.distinct hv
  constructor
  · intro k y hy
    obtain ⟨x, hx, -⟩ := hvw.symm.get? hw hy
    exact h.known k x hx
  · intro y hy
    obtain ⟨x, hx, hyx⟩ := hvw.symm.get? hw hy
    exact (h.shared x hx).reordered hyx.symm (hv.get? hx)
  · intro y hy
    obtain ⟨x, hx, hyx⟩ := hvw.symm.get? hw hy
    exact (h.device x hx).reordered hyx.symm (hv.get? hx)
  · intro y hy
    obtain ⟨x, hx, hyx⟩ := hvw.symm.get? hw hy
    exact (h.simulation x hx).reordered hyx.symm (hv.get? hx)

/-- Reordering changes nothing that is given for a field. -/
theorem Overrides.reordered (h : Overrides v c) (hreadable : Readable v) (hvw : v.Reordered w)
    (hv : v.Distinct) : Overrides w c := by
  constructor
  · refine h.shared.trans (overridden_congr fun entry hentry ↦ (hvw.at?_eq hv ?_).symm)
    intro y z hy hyz
    obtain ⟨x, hx, hy⟩ := Option.bind_eq_some_iff.mp hy
    have hk : entry.1 ∈ SharedConfig.fieldNames := List.mem_map_of_mem hentry
    exact (hreadable.shared x hx).eq_of_reordered hk hy hyz
  · refine h.device.trans (overridden_congr fun entry _ ↦ (hvw.at?_eq hv ?_).symm)
    intro y z hy hyz
    obtain ⟨x, hx, hy⟩ := Option.bind_eq_some_iff.mp hy
    exact (hreadable.device x hx).eq_of_reordered hy hyz
  · refine h.simulation.trans (overridden_congr fun entry _ ↦ (hvw.at?_eq hv ?_).symm)
    intro y z hy hyz
    obtain ⟨x, hx, hy⟩ := Option.bind_eq_some_iff.mp hy
    exact (hreadable.simulation x hx).eq_of_reordered hy hyz

/-- A document and a reordered one stand for the same configuration, or both for none. -/
theorem decode?_reordered [Toml.LawfulReader] (hvw : v.Reordered w)
    (htable : ∃ entries, v = .table entries) (hv : v.Distinct) (hregular : Regular v) :
    decode? w = decode? v := by
  obtain ⟨es, rfl⟩ := htable
  obtain ⟨fs, rfl⟩ := hvw.eq_table
  have hw := hvw.distinct hv
  have hregular' := hregular.reordered hvw hv
  ext c
  rw [decode?_eq_some_iff hv hregular, decode?_eq_some_iff hw hregular']
  constructor
  · rintro ⟨hreadable, hoverrides⟩
    exact ⟨hreadable.reordered hvw.symm hw, hoverrides.reordered hreadable hvw.symm hw⟩
  · rintro ⟨hreadable, hoverrides⟩
    exact ⟨hreadable.reordered hvw hv, hoverrides.reordered hreadable hvw hv⟩

end DriverConfig

end FocusDrive
