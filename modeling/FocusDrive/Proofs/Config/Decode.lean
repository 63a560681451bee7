import FocusDrive.Config.Decode
import FocusDrive.Proofs.Toml.Reorder

/-!
# Which documents are configurations

For the author of a configuration file there are rules: what may stand in a section, and what stands
in the configuration if a key is left out. They are stated here of the tree of a document and of
what one finds in it under a key (`Readable`, `Overrides`). A regular document, one whose sections
are tables and whose log level is a string, stands for a configuration exactly if it can be read,
and then for the one that has what is given and the defaults elsewhere
(`DriverConfig.decode?_eq_some_iff`).

Each section comes with its own rules and with the same three lemmas: its fields determine it
(`fields_injective`), what is decoded obeys the rules (`readable_of_decode?`), and what obeys them
is decoded (`exists_decode?`). The decoder goes through the entries of a table where the rules look
keys up. That the two agree is where distinct keys are needed: under a repeated key the decoder
would see values that are not found.
-/

namespace FocusDrive

open Toml (Value)

/-! ### Single values -/

/-- A word is decoded from the integer that it stands for, and from nothing else. -/
theorem decodeWord?_eq_some_iff {x : Value} {w : Int32} :
    decodeWord? x = some w ↔ x = .integer w.toInt := by
  constructor
  · intro h
    cases x with
    | integer n =>
      rw [decodeWord?] at h
      split at h
      case isTrue hn =>
        rw [← Option.some.inj h, Int32.toInt_ofInt_of_le hn.1 (Int.lt_add_one_of_le hn.2)]
      case isFalse => contradiction
    | _ => contradiction
  · rintro rfl
    rw [decodeWord?, if_pos ⟨w.minValue_le_toInt, Int.le_of_lt_add_one w.toInt_lt⟩,
      Int32.ofInt_toInt]

/-- An unsigned number is decoded from itself if 64 bits hold it. -/
theorem decodeNatural?_eq_some_iff {x : Value} {n : ℕ} :
    decodeNatural? x = some n ↔ n < UInt64.size ∧ x = .integer n := by
  constructor
  · intro h
    cases x with
    | integer m =>
      rw [decodeNatural?] at h
      split at h
      case isTrue hm =>
        obtain rfl := Option.some.inj h
        exact ⟨by omega, by rw [Int.toNat_of_nonneg hm.1]⟩
      case isFalse => contradiction
    | _ => contradiction
  · rintro ⟨hn, rfl⟩
    rw [decodeNatural?, if_pos ⟨Int.natCast_nonneg n, Int.ofNat_lt.mpr hn⟩, Int.toNat_natCast]

theorem decodeString?_eq_some_iff {x : Value} {s : String} :
    decodeString? x = some s ↔ x = .string s := by
  cases x with
  | string t => simp [decodeString?]
  | _ => simp [decodeString?]

theorem LogLevel.ofName?_eq_some_iff {s : String} {l : LogLevel} :
    ofName? s = some l ↔ s = l.name := by
  refine ⟨fun h ↦ ?_, fun h ↦ h ▸ l.ofName?_name⟩
  exact (eq_of_beq (List.find?_some h :)).symm

theorem LogLevel.name_inj {l m : LogLevel} : l.name = m.name ↔ l = m := by
  rw [← ofName?_eq_some_iff, ofName?_name, Option.some.injEq, eq_comm]

theorem AxisParam.ofName?_eq_some_iff {s : String} {p : AxisParam} :
    ofName? s = some p ↔ s = p.name := by
  refine ⟨fun h ↦ ?_, fun h ↦ h ▸ p.ofName?_name⟩
  exact (eq_of_beq (List.find?_some h :)).symm

theorem AxisParam.name_inj {p q : AxisParam} : p.name = q.name ↔ p = q := by
  rw [← ofName?_eq_some_iff, ofName?_name, Option.some.injEq, eq_comm]

/-! ### Fields -/

/-- The fields with the values that are given in place of their own. -/
def overridden (given : String → Option Value) (fields : List (String × Value)) :
    List (String × Value) :=
  fields.map fun (name, default) ↦ (name, (given name).getD default)

/-- Only what is given for the fields matters. -/
theorem overridden_congr {given given' : String → Option Value} {fields : List (String × Value)}
    (h : ∀ entry ∈ fields, given entry.1 = given' entry.1) :
    overridden given fields = overridden given' fields :=
  List.map_congr_left fun (name, default) hentry ↦
    congrArg (fun x ↦ (name, x.getD default)) (h _ hentry)

/-- Under the name of a field stands what is given for it, or its own value. -/
theorem lookup_overridden (given : String → Option Value) (fields : List (String × Value))
    (name : String) :
    (overridden given fields).lookup name = (fields.lookup name).map (given name).getD := by
  induction fields with
  | nil => rfl
  | cons entry fields ih =>
    obtain ⟨k, default⟩ := entry
    rw [overridden, List.map_cons, List.lookup_cons, List.lookup_cons]
    cases hk : name == k with
    | true => rw [eq_of_beq hk, Option.map_some]
    | false => exact ih

section Fields

variable {α : Type} {fields : List (String × Value)} {names : List String} {name : String}
  {decode? : Value → Option α} {default a : α}

/-- That the entries have known names is a fact about what can be found among them. -/
theorem onlyFields_iff :
    onlyFields names fields = true ↔ ∀ k y, fields.lookup k = some y → k ∈ names := by
  rw [onlyFields, List.all_eq_true]
  constructor
  · intro h k y hk
    exact List.contains_iff_mem.mp (h _ (Toml.mem_of_lookup hk))
  · intro h entry hentry
    obtain ⟨y, hy⟩ : ∃ y, fields.lookup entry.1 = some y :=
      Option.isSome_iff_exists.mp (List.lookup_isSome_iff.mpr ⟨entry, hentry, beq_self_eq_true _⟩)
    exact List.contains_iff_mem.mpr (h _ y hy)

/-- Other fields are passed over if all the numbers in them are. -/
theorem othersSkipped_iff [Toml.Reader] [Toml.LawfulReader]
    (hfields : (fields.map Prod.fst).Nodup) :
    othersSkipped names fields = true ↔
      ∀ k ∉ names, ∀ y, fields.lookup k = some y →
        ∀ n, y.HasNumber n → Toml.Reader.skips n = true := by
  simp only [← Toml.LawfulReader.skips_iff]
  rw [othersSkipped, List.all_eq_true]
  constructor
  · intro h k hk y hy
    have hentry := h _ (Toml.mem_of_lookup hy)
    rw [Bool.or_eq_true, List.contains_iff_mem] at hentry
    exact hentry.resolve_left hk
  · rintro h ⟨k, y⟩ hentry
    rw [Bool.or_eq_true, List.contains_iff_mem]
    refine or_iff_not_imp_left.mpr fun hk ↦ h k hk y ?_
    exact (Toml.lookup_eq_some_iff_mem hfields).mpr hentry

/-- A field can be read unless it is given and its value cannot be read. -/
theorem exists_fieldOr :
    (∃ a, fieldOr fields name decode? default = some a) ↔
      ∀ y, fields.lookup name = some y → ∃ a, decode? y = some a := by
  rw [fieldOr]
  cases fields.lookup name with
  | none => simp
  | some y => simp

/-- What is read is what was given, or the default. -/
theorem encode_of_fieldOr (encode : α → Value)
    (hdecode : ∀ y a, fields.lookup name = some y → decode? y = some a → y = encode a)
    (h : fieldOr fields name decode? default = some a) :
    encode a = (fields.lookup name).getD (encode default) := by
  rw [fieldOr] at h
  split at h
  case h_1 hnone => rw [hnone, Option.getD_none, Option.some.inj h]
  case h_2 y hy => rw [hy, Option.getD_some, hdecode y a hy h]

end Fields

/-! ### Shared settings -/

namespace SharedConfig

variable {x : Value} {c : SharedConfig}

/-- The settings as they are written. -/
def fields (c : SharedConfig) : List (String × Value) :=
  [("log_level", .string c.logLevel.name), ("service_name", .string c.serviceName)]

/-- The fields as written determine the shared settings. -/
theorem fields_injective : Function.Injective fields := by
  intro c c' h
  obtain ⟨⟩ := c
  obtain ⟨⟩ := c'
  simpa [fields, LogLevel.name_inj] using h

/-- Shared settings that are given name the instance. What stands under other keys does not matter,
but the reader must be able to pass over the numbers in it. -/
structure Readable [Toml.Reader] (x : Value) : Prop where
  /-- There is a name. -/
  named : ∃ s, x.get? "service_name" = some (.string s)
  /-- The log level is one. -/
  logLevel : ∀ y, x.get? "log_level" = some y → ∃ l : LogLevel, y = .string l.name
  /-- The numbers under other keys can be passed over. -/
  others : ∀ k ∉ fieldNames, ∀ y, x.get? k = some y →
    ∀ n, y.HasNumber n → Toml.Reader.skips n = true

/-- What shared settings in a table are decoded from, field by field. -/
theorem decode?_table [Toml.Reader] {entries : List (String × Value)} :
    decode? (.table entries) = some c ↔
      othersSkipped fieldNames entries = true ∧
        fieldOr entries "log_level" LogLevel.decode? .info = some c.logLevel ∧
        entries.lookup "service_name" = some (.string c.serviceName) := by
  obtain ⟨l, s⟩ := c
  simp [decode?, sectionFields?, guard, Option.bind_eq_some_iff, decodeString?_eq_some_iff]

variable {entries : List (String × Value)} (hentries : (entries.map Prod.fst).Nodup)
  (hlevel : ∀ y, entries.lookup "log_level" = some y → ∃ s, y = .string s)

include hlevel in
/-- A log level that is a string is decoded from the name of the level. -/
theorem logLevel_eq {y : Value} {l : LogLevel} (hy : entries.lookup "log_level" = some y) :
    LogLevel.decode? y = some l ↔ y = .string l.name := by
  obtain ⟨s, rfl⟩ := hlevel y hy
  rw [LogLevel.decode?, LogLevel.ofName?_eq_some_iff, Value.string.injEq]

variable [Toml.Reader] [Toml.LawfulReader]

include hentries hlevel

/-- Shared settings that are decoded obey the rules, and they are what is given. -/
theorem readable_of_decode? (h : decode? (.table entries) = some c) :
    Readable (.table entries) ∧
      c.fields = overridden (Value.table entries).get? ({} : SharedConfig).fields := by
  obtain ⟨hothers, hlogLevel, hname⟩ := decode?_table.mp h
  constructor
  · refine ⟨⟨_, hname⟩, fun y hy ↦ ?_, (othersSkipped_iff hentries).mp hothers⟩
    obtain ⟨l, hl⟩ := exists_fieldOr.mp ⟨_, hlogLevel⟩ y hy
    exact ⟨l, (logLevel_eq hlevel hy).mp hl⟩
  · have hl := encode_of_fieldOr (fun l : LogLevel ↦ .string l.name)
      (fun y l hy ↦ (logLevel_eq hlevel hy).mp) hlogLevel
    have hs : Value.string c.serviceName =
        (entries.lookup "service_name").getD (.string FocusDrive.serviceName) := by
      rw [hname, Option.getD_some]
    rw [fields, hl, hs]
    rfl

/-- Shared settings that obey the rules are decoded. -/
theorem exists_decode? (h : Readable (.table entries)) :
    ∃ c, decode? (.table entries) = some c := by
  obtain ⟨s, hs⟩ := h.named
  obtain ⟨l, hl⟩ := exists_fieldOr.mpr fun y hy ↦ by
    obtain ⟨l, hl⟩ := h.logLevel y hy
    exact ⟨l, (logLevel_eq hlevel hy).mpr hl⟩
  exact ⟨⟨l, s⟩, decode?_table.mpr ⟨(othersSkipped_iff hentries).mpr h.others, hl, hs⟩⟩

end SharedConfig

/-! ### Motor parameters -/

namespace DeviceConfig

variable {x : Value} {c : DeviceConfig} {entries : List (String × Value)}

/-- The parameters as they are written. -/
def fields (c : DeviceConfig) : List (String × Value) :=
  c.params.map fun (p, w) ↦ (p.name, .integer w.toInt)

theorem fields_injective : Function.Injective fields := by
  intro c c' h
  obtain ⟨⟩ := c
  obtain ⟨⟩ := c'
  simpa [fields, params, Int32.toInt_inj] using h

/-- Every key is the name of a parameter that can be configured, and has a machine word. -/
structure Readable (x : Value) : Prop where
  /-- There are no other keys. -/
  known : ∀ k y, x.get? k = some y → k ∈ fieldNames
  /-- The values are words. -/
  words : ∀ k y, x.get? k = some y → ∃ w : Int32, y = .integer w.toInt

/-- What one entry of the section is decoded to. -/
theorem decodeField?_eq_some_iff {k : String} {y : Value} {p : AxisParam} {w : Int32} :
    decodeField? (k, y) = some (p, w) ↔ k ∈ fieldNames ∧ k = p.name ∧ y = .integer w.toInt := by
  simp [decodeField?, guard, Option.bind_eq_some_iff, AxisParam.ofName?_eq_some_iff,
    decodeWord?_eq_some_iff]

/-- Which entries of the section can be decoded at all. -/
theorem exists_decodeField? {k : String} {y : Value} :
    (∃ value, decodeField? (k, y) = some value) ↔
      k ∈ fieldNames ∧ ∃ w : Int32, y = .integer w.toInt := by
  constructor
  · rintro ⟨⟨p, w⟩, h⟩
    obtain ⟨hk, -, hw⟩ := decodeField?_eq_some_iff.mp h
    exact ⟨hk, w, hw⟩
  · rintro ⟨hk, w, hw⟩
    obtain ⟨⟨p, _⟩, -, hp⟩ := List.mem_map.mp hk
    exact ⟨(p, w), decodeField?_eq_some_iff.mpr ⟨hk, hp.symm, hw⟩⟩

/-- The entries are decoded together if each of them can be. -/
theorem exists_mapM_decodeField? :
    (∃ values, entries.mapM decodeField? = some values) ↔
      ∀ entry ∈ entries, ∃ value, decodeField? entry = some value := by
  induction entries with
  | nil => simp
  | cons entry entries ih =>
    rw [List.forall_mem_cons, ← ih]
    simp only [List.mapM_cons, Option.bind_eq_bind, Option.bind_eq_some_iff, Option.pure_def]
    constructor
    · rintro ⟨_, value, hvalue, values, hvalues, -⟩
      exact ⟨⟨value, hvalue⟩, values, hvalues⟩
    · rintro ⟨⟨value, hvalue⟩, values, hvalues⟩
      exact ⟨_, value, hvalue, values, hvalues, rfl⟩

/-- The entries are found under the parameters after they were read, and no others are. -/
theorem lookup_of_mapM {values : List (AxisParam × Int32)}
    (h : entries.mapM decodeField? = some values) (p : AxisParam) :
    entries.lookup p.name = (values.lookup p).map fun w ↦ .integer w.toInt := by
  induction entries generalizing values with
  | nil =>
    cases h
    rfl
  | cons entry entries ih =>
    simp only [List.mapM_cons, Option.bind_eq_bind, Option.bind_eq_some_iff, Option.pure_def] at h
    obtain ⟨⟨q, w⟩, hentry, rest, hrest, hvalues⟩ := h
    cases hvalues
    obtain ⟨k, y⟩ := entry
    obtain ⟨-, rfl, rfl⟩ := decodeField?_eq_some_iff.mp hentry
    -- Names are as good as parameters for telling whether this is the entry one looks for.
    by_cases hpq : p = q
    · rw [hpq, List.lookup_cons_self, List.lookup_cons_self, Option.map_some]
    · have hname : (p.name == q.name) = false := beq_false_of_ne (mt AxisParam.name_inj.mp hpq)
      have hparam : (p == q) = false := beq_false_of_ne hpq
      rw [List.lookup_cons, hname, List.lookup_cons, hparam]
      exact ih hrest

/-- The parameters of the defaults are listed with their values. -/
theorem get_default : ∀ entry ∈ ({} : DeviceConfig).params,
    ({} : DeviceConfig).get entry.1 = entry.2 := by
  decide

/-- Defaults with some values put in their places have these values as fields. -/
theorem fields_override {given : String → Option Value} {values : List (AxisParam × Int32)}
    (h : ∀ p : AxisParam, given p.name = (values.lookup p).map fun w ↦ .integer w.toInt) :
    (({} : DeviceConfig).override values).fields =
      overridden given ({} : DeviceConfig).fields := by
  have hparams : (({} : DeviceConfig).override values).params =
      ({} : DeviceConfig).params.map fun (p, _) ↦
        (p, (values.lookup p).getD (({} : DeviceConfig).get p)) := rfl
  rw [fields, hparams, overridden, fields, List.map_map, List.map_map]
  refine List.map_congr_left fun ⟨p, w⟩ hp ↦ ?_
  have hdefault : ({} : DeviceConfig).get p = w := get_default _ hp
  show (p.name, Value.integer ((values.lookup p).getD (({} : DeviceConfig).get p)).toInt) =
    (p.name, (given p.name).getD (.integer w.toInt))
  rw [hdefault, h p]
  cases List.lookup p values <;> rfl

theorem decode?_table : decode? (.table entries) = some c ↔
    ∃ values, entries.mapM decodeField? = some values ∧
      ({} : DeviceConfig).override values = c := by
  simp [decode?, sectionFields?, Option.bind_eq_some_iff]

/-- The rules ask of what is found under a key what the decoder asks of each entry. -/
theorem readable_iff (hentries : (entries.map Prod.fst).Nodup) :
    Readable (.table entries) ↔ ∀ entry ∈ entries, ∃ value, decodeField? entry = some value := by
  constructor
  · rintro h ⟨k, y⟩ hentry
    have hy := (Toml.lookup_eq_some_iff_mem hentries).mpr hentry
    exact exists_decodeField?.mpr ⟨h.known k y hy, h.words k y hy⟩
  · intro h
    have hfield (k : String) (y : Value) (hy : entries.lookup k = some y) :=
      exists_decodeField?.mp (h (k, y) (Toml.mem_of_lookup hy))
    exact ⟨fun k y hy ↦ (hfield k y hy).1, fun k y hy ↦ (hfield k y hy).2⟩

/-- Motor parameters that are decoded obey the rules, and they are what is given. -/
theorem readable_of_decode? (hentries : (entries.map Prod.fst).Nodup)
    (h : decode? (.table entries) = some c) :
    Readable (.table entries) ∧
      c.fields = overridden (Value.table entries).get? ({} : DeviceConfig).fields := by
  obtain ⟨values, hvalues, rfl⟩ := decode?_table.mp h
  exact ⟨(readable_iff hentries).mpr (exists_mapM_decodeField?.mp ⟨values, hvalues⟩),
    fields_override (lookup_of_mapM hvalues)⟩

/-- Motor parameters that obey the rules are decoded. -/
theorem exists_decode? (hentries : (entries.map Prod.fst).Nodup) (h : Readable (.table entries)) :
    ∃ c, decode? (.table entries) = some c := by
  obtain ⟨values, hvalues⟩ := exists_mapM_decodeField?.mpr ((readable_iff hentries).mp h)
  exact ⟨_, decode?_table.mpr ⟨values, hvalues, rfl⟩⟩

end DeviceConfig

/-! ### Simulation settings -/

namespace SimulationConfig

variable {x : Value} {c : SimulationConfig} {entries : List (String × Value)}

/-- The settings as they are written. -/
def fields (c : SimulationConfig) : List (String × Value) :=
  [("tick_us", .integer c.tickMicros), ("program_capacity", .integer c.programCapacity),
    ("initial_position", .integer c.initialPosition.toInt)]

theorem fields_injective : Function.Injective fields := by
  intro c c' h
  obtain ⟨⟩ := c
  obtain ⟨⟩ := c'
  simpa [fields, Int32.toInt_inj, Int.natCast_inj] using h

/-- Every key is one of the three, with an integer of its machine type. -/
structure Readable (x : Value) : Prop where
  /-- There are no other keys. -/
  known : ∀ k y, x.get? k = some y → k ∈ fieldNames
  /-- The length of a tick is unsigned and has 64 bits. -/
  tick : ∀ y, x.get? "tick_us" = some y → ∃ n : ℕ, n < UInt64.size ∧ y = .integer n
  /-- The size of program memory is unsigned and has 64 bits. -/
  capacity : ∀ y, x.get? "program_capacity" = some y → ∃ n : ℕ, n < UInt64.size ∧ y = .integer n
  /-- The position is a word. -/
  position : ∀ y, x.get? "initial_position" = some y → ∃ w : Int32, y = .integer w.toInt

/-- What simulation settings in a table are decoded from, field by field. -/
theorem decode?_table : decode? (.table entries) = some c ↔
    onlyFields fieldNames entries = true ∧
      fieldOr entries "tick_us" decodeNatural? 10000 = some c.tickMicros ∧
      fieldOr entries "program_capacity" decodeNatural? programMemory = some c.programCapacity ∧
      fieldOr entries "initial_position" decodeWord? 0 = some c.initialPosition := by
  obtain ⟨tick, capacity, position⟩ := c
  simp [decode?, sectionFields?, guard, Option.bind_eq_some_iff]

/-- When an unsigned field can be read. -/
theorem natural_readable {k : String} {default : ℕ} :
    (∃ n, fieldOr entries k decodeNatural? default = some n) ↔
      ∀ y, entries.lookup k = some y → ∃ n : ℕ, n < UInt64.size ∧ y = .integer n := by
  simp only [exists_fieldOr, decodeNatural?_eq_some_iff]

theorem word_readable {k : String} {default : Int32} :
    (∃ w, fieldOr entries k decodeWord? default = some w) ↔
      ∀ y, entries.lookup k = some y → ∃ w : Int32, y = .integer w.toInt := by
  simp only [exists_fieldOr, decodeWord?_eq_some_iff]

/-- Simulation settings that are decoded obey the rules, and they are what is given. -/
theorem readable_of_decode? (h : decode? (.table entries) = some c) :
    Readable (.table entries) ∧
      c.fields = overridden (Value.table entries).get? ({} : SimulationConfig).fields := by
  obtain ⟨hknown, htick, hcapacity, hposition⟩ := decode?_table.mp h
  constructor
  · exact ⟨onlyFields_iff.mp hknown, natural_readable.mp ⟨_, htick⟩,
      natural_readable.mp ⟨_, hcapacity⟩, word_readable.mp ⟨_, hposition⟩⟩
  · have ht := encode_of_fieldOr (fun n : ℕ ↦ .integer n)
      (fun _ _ _ h ↦ (decodeNatural?_eq_some_iff.mp h).2) htick
    have hc := encode_of_fieldOr (fun n : ℕ ↦ .integer n)
      (fun _ _ _ h ↦ (decodeNatural?_eq_some_iff.mp h).2) hcapacity
    have hp := encode_of_fieldOr (fun w : Int32 ↦ .integer w.toInt)
      (fun _ _ _ ↦ decodeWord?_eq_some_iff.mp) hposition
    rw [fields, ht, hc, hp]
    rfl

/-- Simulation settings that obey the rules are decoded. -/
theorem exists_decode? (h : Readable (.table entries)) :
    ∃ c, decode? (.table entries) = some c := by
  obtain ⟨tick, htick⟩ := natural_readable.mpr h.tick
  obtain ⟨capacity, hcapacity⟩ := natural_readable.mpr h.capacity
  obtain ⟨position, hposition⟩ := word_readable.mpr h.position
  exact ⟨⟨tick, capacity, position⟩,
    decode?_table.mpr ⟨onlyFields_iff.mpr h.known, htick, hcapacity, hposition⟩⟩

end SimulationConfig

/-! ### The whole configuration -/

namespace DriverConfig

variable {v : Value} {c : DriverConfig}

/-- The sections are tables, and the log level is a string. -/
structure Regular (v : Value) : Prop where
  /-- A section that is given is a table. -/
  sections : ∀ k ∈ fieldNames, ∀ x, v.get? k = some x → ∃ entries, x = .table entries
  /-- A log level that is given is a string. -/
  logLevel : ∀ y, v.at? "shared" "log_level" = some y → ∃ s, y = .string s

/-- There are no other sections, and those that are given can be read. -/
structure Readable [Toml.Reader] (v : Value) : Prop where
  /-- There are no other sections. -/
  known : ∀ k x, v.get? k = some x → k ∈ fieldNames
  /-- The shared settings, if given, can be read. -/
  shared : ∀ x, v.get? "shared" = some x → SharedConfig.Readable x
  /-- The motor parameters, if given, can be read. -/
  device : ∀ x, v.get? "device" = some x → DeviceConfig.Readable x
  /-- The simulation settings, if given, can be read. -/
  simulation : ∀ x, v.get? "simulation" = some x → SimulationConfig.Readable x

/-- The configuration has the fields that are given, and is the default in all the others. -/
structure Overrides (v : Value) (c : DriverConfig) : Prop where
  /-- The shared settings are those that are given. -/
  shared : c.shared.fields = overridden (v.at? "shared") ({} : SharedConfig).fields
  /-- The motor parameters are those that are given. -/
  device : c.device.fields = overridden (v.at? "device") ({} : DeviceConfig).fields
  /-- The simulation settings are those that are given. -/
  simulation : c.simulation.fields = overridden (v.at? "simulation") ({} : SimulationConfig).fields

/-- What a configuration in a table is decoded from, section by section. -/
theorem decode?_table [Toml.Reader] {entries : List (String × Value)} :
    decode? (.table entries) = some c ↔
      onlyFields fieldNames entries = true ∧
        fieldOr entries "shared" SharedConfig.decode? {} = some c.shared ∧
        fieldOr entries "device" DeviceConfig.decode? {} = some c.device ∧
        fieldOr entries "simulation" SimulationConfig.decode? {} = some c.simulation := by
  obtain ⟨shared, device, simulation⟩ := c
  simp [decode?, sectionFields?, guard, Option.bind_eq_some_iff]

/-- What holds of a section that is read holds of one that may be missing. -/
theorem readable_of_fieldOr {α : Type} {entries : List (String × Value)} {k : String}
    {decode? : Value → Option α} {default a : α} {Readable : Value → Prop}
    {fields : α → List (String × Value)}
    (hdecode : ∀ x, entries.lookup k = some x → decode? x = some a →
      Readable x ∧ fields a = overridden x.get? (fields default))
    (h : fieldOr entries k decode? default = some a) :
    (∀ x, entries.lookup k = some x → Readable x) ∧
      fields a = overridden ((Value.table entries).at? k) (fields default) := by
  have hat : (Value.table entries).at? k = fun key ↦ (entries.lookup k).bind (·.get? key) := rfl
  rw [fieldOr] at h
  split at h
  case h_1 hnone =>
    rw [hat, hnone, ← Option.some.inj h]
    exact ⟨fun x hx ↦ by contradiction, (List.map_id _).symm⟩
  case h_2 x hx =>
    obtain ⟨hreadable, hfields⟩ := hdecode x hx h
    rw [hat, hx]
    exact ⟨fun y hy ↦ Option.some.inj hy ▸ hreadable, hfields⟩

/-- A section of a regular document is a table that does not repeat a key. -/
theorem Regular.section (hregular : Regular v) (hv : v.Distinct) {k : String} {x : Value}
    (hx : v.get? k = some x) (hk : k ∈ fieldNames) :
    ∃ entries, x = .table entries ∧ (entries.map Prod.fst).Nodup := by
  obtain ⟨entries, rfl⟩ := hregular.sections k hk x hx
  exact ⟨entries, rfl, (hv.get? hx).nodup_entries⟩

/-- The log level of a regular document, as the shared settings see it. -/
theorem Regular.level (hregular : Regular v) {entries : List (String × Value)}
    (hx : v.get? "shared" = some (.table entries)) (y : Value)
    (hy : entries.lookup "log_level" = some y) : ∃ s, y = .string s :=
  hregular.logLevel y (Option.bind_eq_some_iff.mpr ⟨_, hx, hy⟩)

/-- The fields say everything about a configuration. -/
theorem Overrides.unique {c' : DriverConfig} (h : Overrides v c) (h' : Overrides v c') :
    c = c' := by
  obtain ⟨shared, device, simulation⟩ := c
  obtain ⟨shared', device', simulation'⟩ := c'
  obtain rfl : shared = shared' := SharedConfig.fields_injective (h.shared.trans h'.shared.symm)
  obtain rfl : device = device' := DeviceConfig.fields_injective (h.device.trans h'.device.symm)
  obtain rfl : simulation = simulation' :=
    SimulationConfig.fields_injective (h.simulation.trans h'.simulation.symm)
  rfl

variable [Toml.Reader] [Toml.LawfulReader] {entries : List (String × Value)}
  (hv : (Value.table entries).Distinct) (hregular : Regular (.table entries))

include hv hregular

/-- A document that is decoded obeys the rules, and the configuration is what it gives. -/
theorem readable_of_decode? (h : decode? (.table entries) = some c) :
    Readable (.table entries) ∧ Overrides (.table entries) c := by
  obtain ⟨hknown, hshared, hdevice, hsimulation⟩ := decode?_table.mp h
  have hs : ∀ x, entries.lookup "shared" = some x → SharedConfig.decode? x = some c.shared →
      SharedConfig.Readable x ∧
        c.shared.fields = overridden x.get? ({} : SharedConfig).fields := by
    intro x hx ha
    obtain ⟨fields, rfl, hfields⟩ := hregular.section hv hx (by decide)
    exact SharedConfig.readable_of_decode? hfields (hregular.level hx) ha
  have hd : ∀ x, entries.lookup "device" = some x → DeviceConfig.decode? x = some c.device →
      DeviceConfig.Readable x ∧
        c.device.fields = overridden x.get? ({} : DeviceConfig).fields := by
    intro x hx ha
    obtain ⟨fields, rfl, hfields⟩ := hregular.section hv hx (by decide)
    exact DeviceConfig.readable_of_decode? hfields ha
  have hm : ∀ x, entries.lookup "simulation" = some x →
      SimulationConfig.decode? x = some c.simulation →
      SimulationConfig.Readable x ∧
        c.simulation.fields = overridden x.get? ({} : SimulationConfig).fields := by
    intro x hx ha
    obtain ⟨fields, rfl, -⟩ := hregular.section hv hx (by decide)
    exact SimulationConfig.readable_of_decode? ha
  obtain ⟨hshared, hs⟩ := readable_of_fieldOr hs hshared
  obtain ⟨hdevice, hd⟩ := readable_of_fieldOr hd hdevice
  obtain ⟨hsimulation, hm⟩ := readable_of_fieldOr hm hsimulation
  exact ⟨⟨onlyFields_iff.mp hknown, hshared, hdevice, hsimulation⟩, ⟨hs, hd, hm⟩⟩

/-- A document that obeys the rules is decoded. Which configuration comes out is not said here. -/
theorem exists_decode? (h : Readable (.table entries)) :
    ∃ c, decode? (.table entries) = some c := by
  have hshared : ∀ x, entries.lookup "shared" = some x → ∃ c, SharedConfig.decode? x = some c := by
    intro x hx
    obtain ⟨fields, rfl, hfields⟩ := hregular.section hv hx (by decide)
    exact SharedConfig.exists_decode? hfields (hregular.level hx) (h.shared _ hx)
  have hdevice : ∀ x, entries.lookup "device" = some x → ∃ c, DeviceConfig.decode? x = some c := by
    intro x hx
    obtain ⟨fields, rfl, hfields⟩ := hregular.section hv hx (by decide)
    exact DeviceConfig.exists_decode? hfields (h.device _ hx)
  have hsimulation : ∀ x, entries.lookup "simulation" = some x →
      ∃ c, SimulationConfig.decode? x = some c := by
    intro x hx
    obtain ⟨fields, rfl, -⟩ := hregular.section hv hx (by decide)
    exact SimulationConfig.exists_decode? (h.simulation _ hx)
  obtain ⟨shared, hshared⟩ := exists_fieldOr.mpr hshared
  obtain ⟨device, hdevice⟩ := exists_fieldOr.mpr hdevice
  obtain ⟨simulation, hsimulation⟩ := exists_fieldOr.mpr hsimulation
  exact ⟨⟨shared, device, simulation⟩,
    decode?_table.mpr ⟨onlyFields_iff.mpr h.known, hshared, hdevice, hsimulation⟩⟩

/-- A document is a configuration if it can be read, and the configuration is what it says in place
of the defaults. -/
theorem decode?_eq_some_iff :
    decode? (.table entries) = some c ↔
      Readable (.table entries) ∧ Overrides (.table entries) c := by
  refine ⟨readable_of_decode? hv hregular, fun ⟨hreadable, hoverrides⟩ ↦ ?_⟩
  -- Something is decoded, and it has the same fields.
  obtain ⟨c', hc'⟩ := exists_decode? hv hregular hreadable
  rw [hoverrides.unique (readable_of_decode? hv hregular hc').2]
  exact hc'

end DriverConfig

end FocusDrive
