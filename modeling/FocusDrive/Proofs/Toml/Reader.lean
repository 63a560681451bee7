import FocusDrive.Toml.Reader
import Mathlib.Data.List.Perm.Lattice
import Mathlib.Data.List.Nodup

/-!
# What is relied on in a reader

A configuration is read with any reader that keeps to what TOML says (`LawfulReader`): a document is
a table, a document that repeats a key is none, and there is no reason to stumble over a value that
nobody asks for but a number in it.

Keys that are not repeated are what makes a table a function of its keys. A table is a list of
entries, and what stands under a key does not depend on where in the list one looks for it first
(`lookup_eq_some_iff_mem`).

Nothing more is assumed of readers. In particular nothing is said about which texts are documents:
every table without repeated keys is what some lawful reader makes of a text
(`lawfulReader_constant`).
-/

namespace FocusDrive.Toml

/-! ### Looking a key up -/

section Lookup

variable {α : Type} {entries : List (String × α)} {key : String} {a : α}

theorem mem_of_lookup (h : entries.lookup key = some a) : (key, a) ∈ entries := by
  obtain ⟨before, after, rfl, -⟩ := List.lookup_eq_some_iff.mp h
  exact List.mem_append_right _ List.mem_cons_self

/-- If no key is repeated, what is in the list under a key is what one finds there. -/
theorem lookup_eq_some_iff_mem (h : (entries.map Prod.fst).Nodup) :
    entries.lookup key = some a ↔ (key, a) ∈ entries := by
  refine ⟨mem_of_lookup, fun hmem ↦ ?_⟩
  obtain ⟨before, after, rfl⟩ := List.append_of_mem hmem
  refine List.lookup_eq_some_iff.mpr ⟨before, after, rfl, fun entry hentry ↦ ?_⟩
  rw [List.map_append, List.map_cons, List.nodup_append] at h
  exact bne_iff_ne.mpr
    (h.2.2 _ (List.mem_map_of_mem hentry) _ List.mem_cons_self).symm

end Lookup

/-! ### Trees -/

/-- No table in the value repeats a key. -/
inductive Value.Distinct : Value → Prop
  | string (s : String) : Distinct (.string s)
  | integer (n : Int) : Distinct (.integer n)
  | float (x : FloatingPoint) : Distinct (.float x)
  | boolean (b : Bool) : Distinct (.boolean b)
  | datetime (spelling : String) : Distinct (.datetime spelling)
  | array {items : List Value} (h : ∀ v ∈ items, Distinct v) : Distinct (.array items)
  | table {entries : List (String × Value)} (keys : (entries.map Prod.fst).Nodup)
      (h : ∀ entry ∈ entries, Distinct entry.2) : Distinct (.table entries)

/-- The number occurs in the value. -/
inductive Value.HasNumber : Value → Value → Prop
  | integer (n : Int) : HasNumber (.integer n) (.integer n)
  | float (x : FloatingPoint) : HasNumber (.float x) (.float x)
  | item {items : List Value} {v n : Value} (hv : v ∈ items) (h : HasNumber v n) :
      HasNumber (.array items) n
  | entry {entries : List (String × Value)} {key : String} {v n : Value}
      (hv : (key, v) ∈ entries) (h : HasNumber v n) : HasNumber (.table entries) n

/-! ### Laws -/

/-- What TOML says about readers, as far as configurations rely on it. -/
class LawfulReader [Reader] : Prop where
  /-- A document is a table. -/
  isTable : ∀ {text : String} {v : Value}, Reader.read? text = some v →
    ∃ entries, v = .table entries
  /-- A document repeats no key. -/
  distinct : ∀ {text : String} {v : Value}, Reader.read? text = some v → v.Distinct
  /-- A string can be passed over. -/
  skips_string : ∀ s, Reader.skips (.string s) = true
  /-- A boolean can be passed over. -/
  skips_boolean : ∀ b, Reader.skips (.boolean b) = true
  /-- A date can be passed over. -/
  skips_datetime : ∀ spelling, Reader.skips (.datetime spelling) = true
  /-- An array is passed over item by item. -/
  skips_array : ∀ items, Reader.skips (.array items) = items.all Reader.skips
  /-- A table is passed over entry by entry. -/
  skips_table : ∀ entries, Reader.skips (.table entries) = entries.all fun e ↦ Reader.skips e.2

namespace LawfulReader

variable [Reader] [LawfulReader]

/-- What is passed over contains no number that is not. -/
theorem skips_of_hasNumber {v n : Value} (hn : v.HasNumber n) (h : Reader.skips v = true) :
    Reader.skips n = true := by
  induction hn with
  | integer | float => exact h
  | item hv _ ih =>
    rw [skips_array, List.all_eq_true] at h
    exact ih (h _ hv)
  | entry hv _ ih =>
    rw [skips_table, List.all_eq_true] at h
    exact ih (h _ hv)

/-- By recursion on the value: an array or a table is passed over if what is in it is. -/
theorem skips_of_forall (v : Value) (h : ∀ n, v.HasNumber n → Reader.skips n = true) :
    Reader.skips v = true := by
  match v with
  | .string s => exact skips_string s
  | .boolean b => exact skips_boolean b
  | .datetime spelling => exact skips_datetime spelling
  | .integer i => exact h _ (.integer i)
  | .float x => exact h _ (.float x)
  | .array items =>
    rw [skips_array, List.all_eq_true]
    exact fun w hw ↦ skips_of_forall w fun n hn ↦ h n (.item hw hn)
  | .table entries =>
    rw [skips_table, List.all_eq_true]
    rintro ⟨key, w⟩ hw
    have hsize : 1 + sizeOf key + sizeOf w < sizeOf entries := List.sizeOf_lt_of_mem hw
    exact skips_of_forall w fun n hn ↦ h n (.entry hw hn)

/-- A value is passed over if all the numbers in it are. -/
theorem skips_iff {v : Value} :
    Reader.skips v = true ↔ ∀ n, v.HasNumber n → Reader.skips n = true :=
  ⟨fun h _ hn ↦ skips_of_hasNumber hn h, skips_of_forall v⟩

/-- What is read from a file is a table. -/
theorem isTable_readBytes? {contents : ByteArray} {v : Value}
    (h : Reader.readBytes? contents = some v) : ∃ entries, v = .table entries := by
  obtain ⟨text, -, htext⟩ := Option.bind_eq_some_iff.mp h
  exact isTable htext

/-- No table in what is read from a file repeats a key. -/
theorem distinct_readBytes? {contents : ByteArray} {v : Value}
    (h : Reader.readBytes? contents = some v) : v.Distinct := by
  obtain ⟨text, -, htext⟩ := Option.bind_eq_some_iff.mp h
  exact distinct htext

end LawfulReader

/-- A reader for which every text stands for the same value. -/
@[reducible] def Reader.constant (v : Value) : Reader := ⟨fun _ ↦ some v, fun _ ↦ true⟩

/-- Every table without repeated keys is what a lawful reader makes of a text. -/
theorem lawfulReader_constant {entries : List (String × Value)}
    (h : (Value.table entries).Distinct) :
    @LawfulReader (Reader.constant (.table entries)) := by
  refine @LawfulReader.mk (Reader.constant (.table entries)) ?_ ?_ (fun _ ↦ rfl) (fun _ ↦ rfl)
    (fun _ ↦ rfl) (fun items ↦ ?_) (fun es ↦ ?_)
  · exact fun htext ↦ ⟨entries, (Option.some.inj htext).symm⟩
  · exact fun htext ↦ Option.some.inj htext ▸ h
  · exact (List.all_eq_true.mpr fun _ _ ↦ rfl).symm
  · exact (List.all_eq_true.mpr fun _ _ ↦ rfl).symm

end FocusDrive.Toml
