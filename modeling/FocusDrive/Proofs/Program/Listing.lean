import FocusDrive.Program
import Mathlib

/-!
# Reading a listing back

A listing is made for people, but it says everything: `Program.ofListing?` gets the instructions
back (`Program.ofListing?_listing`), and hence different programs have different listings.

The way back goes through the separators. Lines end at a line feed, and an address ends at its
colon. A line of instruction text is a list of words (`Instruction.fields`), with blanks between
them and commas behind all but the first and the last. Since no word contains a separator
(`isPlain`), the commas can be left out and the blanks say where to cut
(`Instruction.splitFields_text`).

What the words mean is a matter of one case for each form of instruction. The first word tells the
form, and in particular it tells an immediate value from the accumulator and `CALC` from `CALCX`.
The number of a variable is read together with its bank, because the program status and a user
variable may share a number.
-/

namespace FocusDrive

/-! ### Names and numbers -/

namespace AxisParam

/-- The parameter with a number. -/
def ofNumber? (n : ℕ) : Option AxisParam := all.find? (·.number == n)

/-- A parameter is known by its number. -/
@[simp] theorem ofNumber?_number (p : AxisParam) : ofNumber? p.number = some p := by
  cases p <;> decide

end AxisParam

namespace GlobalVar

/-- The variable with a number in a bank. -/
def ofNumber? (n bank : ℕ) : Option GlobalVar :=
  if bank = 0 then some .status else if bank = 2 then some (.user (.ofNat n)) else none

/-- A variable is known by its number and bank. -/
@[simp] theorem ofNumber?_number (g : GlobalVar) : ofNumber? g.number g.bank = some g := by
  cases g with
  | status => rfl
  | user n =>
    show some (user (.ofNat n.toNat)) = _
    rw [UInt8.ofNat_toNat]

end GlobalVar

namespace CalcOp

/-- Every operation. -/
def all : List CalcOp := [add, sub, mul, div, mod, and, or, xor, not, load, swap]

/-- The operation with a word. -/
def ofMnemonic? (s : String) : Option CalcOp := all.find? (·.mnemonic == s)

@[simp] theorem ofMnemonic?_mnemonic (op : CalcOp) : ofMnemonic? op.mnemonic = some op := by
  cases op <;> decide

end CalcOp

namespace Condition

/-- Every condition. -/
def all : List Condition := [eq, ne, gt, ge, lt, le]

/-- The condition with a word. -/
def ofMnemonic? (s : String) : Option Condition := all.find? (·.mnemonic == s)

@[simp] theorem ofMnemonic?_mnemonic (c : Condition) : ofMnemonic? c.mnemonic = some c := by
  cases c <;> decide

end Condition

/-! ### Words without separators -/

/-- Whether the text contains none of the characters that separate words and lines. -/
def isPlain (s : String) : Bool := s.toList.all fun c ↦ c != ' ' && c != ',' && c != '\n'

theorem isPlain_iff {s : String} :
    isPlain s = true ↔ ' ' ∉ s.toList ∧ ',' ∉ s.toList ∧ '\n' ∉ s.toList := by
  simp only [isPlain, List.all_eq_true, Bool.and_eq_true, bne_iff_ne]
  constructor
  · intro h
    exact ⟨fun hc ↦ (h _ hc).1.1 rfl, fun hc ↦ (h _ hc).1.2 rfl, fun hc ↦ (h _ hc).2 rfl⟩
  · rintro ⟨hblank, hcomma, hfeed⟩ c hc
    exact ⟨⟨fun h ↦ hblank (h ▸ hc), fun h ↦ hcomma (h ▸ hc)⟩, fun h ↦ hfeed (h ▸ hc)⟩

/-- Plain texts make plain texts. -/
theorem isPlain_append {s t : String} : isPlain (s ++ t) = (isPlain s && isPlain t) := by
  rw [isPlain, String.toList_append, List.all_append]
  rfl

@[simp] theorem isPlain_repr_nat (n : ℕ) : isPlain n.repr = true := by
  have hdigit (c : Char) (hc : c ∈ n.repr.toList) : c.isDigit = true := by
    rw [Nat.toList_repr] at hc
    exact Nat.isDigit_of_mem_toDigits (by decide) (by decide) hc
  have habsent (c : Char) (hc : c.isDigit = false) : c ∉ n.repr.toList := fun hmem ↦
    Bool.false_ne_true (hc.symm.trans (hdigit c hmem))
  exact isPlain_iff.mpr ⟨habsent _ rfl, habsent _ rfl, habsent _ rfl⟩

@[simp] theorem isPlain_repr_int (a : ℤ) : isPlain a.repr = true := by
  rw [Int.repr_eq_if]
  split
  · exact isPlain_repr_nat _
  · rw [isPlain_append, isPlain_repr_nat]
    rfl

@[simp] theorem CalcOp.isPlain_mnemonic (op : CalcOp) : isPlain op.mnemonic = true := by
  cases op <;> decide

@[simp] theorem Condition.isPlain_mnemonic (c : Condition) : isPlain c.mnemonic = true := by
  cases c <;> decide

/-! ### The words of an instruction -/

namespace Instruction

/-- The words of the mnemonic line. -/
def fields : Instruction → List String
  | wait ticks => ["WAIT", "TICKS", "0", ticks.toNat.repr]
  | stop => ["STOP"]
  | getParam p => ["GAP", p.number.repr, "0"]
  | setParam p (.value v) => ["SAP", p.number.repr, "0", v.toInt.repr]
  | setParam p .accumulator => ["AAP", p.number.repr, "0"]
  | getGlobal g => ["GGP", g.number.repr, g.bank.repr]
  | setGlobal g (.value v) => ["SGP", g.number.repr, g.bank.repr, v.toInt.repr]
  | setGlobal g .accumulator => ["AGP", g.number.repr, g.bank.repr]
  | calcImm op v => ["CALC", op.mnemonic, v.toInt.repr]
  | calcX op => ["CALCX", op.mnemonic]
  | comp v => ["COMP", v.toInt.repr]
  | jumpIf c target => ["JC", c.mnemonic, target.repr]
  | jump target => ["JA", target.repr]

/-- The parameter whose number is written. -/
def readParam? (n : String) : Option AxisParam := n.toNat?.bind AxisParam.ofNumber?

/-- The variable whose number and bank are written. -/
def readGlobal? (n bank : String) : Option GlobalVar :=
  n.toNat?.bind fun n ↦ bank.toNat?.bind fun bank ↦ GlobalVar.ofNumber? n bank

/-- The 32-bit word that is written. -/
def readWord? (v : String) : Option Int32 := v.toInt?.map Int32.ofInt

/-- The instruction with the given words. -/
def ofFields? : List String → Option Instruction
  | ["WAIT", "TICKS", "0", n] => n.toNat?.map fun n ↦ wait (.ofNat n)
  | ["STOP"] => some stop
  | ["GAP", p, "0"] => (readParam? p).map getParam
  | ["SAP", p, "0", v] =>
    (readParam? p).bind fun p ↦ (readWord? v).map fun v ↦ setParam p (.value v)
  | ["AAP", p, "0"] => (readParam? p).map fun p ↦ setParam p .accumulator
  | ["GGP", n, b] => (readGlobal? n b).map getGlobal
  | ["SGP", n, b, v] =>
    (readGlobal? n b).bind fun g ↦ (readWord? v).map fun v ↦ setGlobal g (.value v)
  | ["AGP", n, b] => (readGlobal? n b).map fun g ↦ setGlobal g .accumulator
  | ["CALC", op, v] =>
    (CalcOp.ofMnemonic? op).bind fun op ↦ (readWord? v).map fun v ↦ calcImm op v
  | ["CALCX", op] => (CalcOp.ofMnemonic? op).map calcX
  | ["COMP", v] => (readWord? v).map comp
  | ["JC", c, t] => (Condition.ofMnemonic? c).bind fun c ↦ t.toNat?.map fun t ↦ jumpIf c t
  | ["JA", t] => t.toNat?.map jump
  | _ => none

@[simp] theorem readParam?_repr (p : AxisParam) : readParam? p.number.repr = some p := by
  rw [readParam?, Nat.toNat?_repr, Option.bind_some, AxisParam.ofNumber?_number]

@[simp] theorem readGlobal?_repr (g : GlobalVar) :
    readGlobal? g.number.repr g.bank.repr = some g := by
  rw [readGlobal?, Nat.toNat?_repr, Nat.toNat?_repr, Option.bind_some, Option.bind_some,
    GlobalVar.ofNumber?_number]

@[simp] theorem readWord?_repr (v : Int32) : readWord? v.toInt.repr = some v := by
  rw [readWord?, Int.toInt?_repr, Option.map_some, Int32.ofInt_toInt]

/-- The words of an instruction determine it. -/
theorem ofFields?_fields (i : Instruction) : ofFields? i.fields = some i := by
  rcases i with ticks | _ | p | ⟨p, v | _⟩ | g | ⟨g, v | _⟩ | ⟨op, v⟩ | op | v | ⟨c, t⟩ | t
  all_goals
    simp only [fields, ofFields?, readParam?_repr, readGlobal?_repr, readWord?_repr,
      CalcOp.ofMnemonic?_mnemonic, Condition.ofMnemonic?_mnemonic, Nat.toNat?_repr,
      Option.bind_some, Option.map_some, UInt32.ofNat_toNat]

/-- No field of an instruction contains a separator. -/
theorem isPlain_of_mem_fields {i : Instruction} : ∀ w ∈ i.fields, isPlain w = true := by
  rcases i with ticks | _ | p | ⟨p, v | _⟩ | g | ⟨g, v | _⟩ | ⟨op, v⟩ | op | v | ⟨c, t⟩ | t
  all_goals
    simp only [fields, List.forall_mem_cons, isPlain_repr_nat, isPlain_repr_int,
      CalcOp.isPlain_mnemonic, Condition.isPlain_mnemonic, true_and]
    decide

/-! ### The line of an instruction -/

/-- Words with commas and blanks between them. -/
def listed : List String → List Char
  | [] => []
  | [w] => w.toList
  | w :: rest => w.toList ++ ',' :: ' ' :: listed rest

/-- A word, a blank, and words with commas and blanks between them. -/
def line : List String → List Char
  | [] => []
  | [w] => w.toList
  | w :: rest => w.toList ++ ' ' :: listed rest

/-- The text of an instruction is the line of its fields. -/
theorem toList_text (i : Instruction) : i.text.toList = line i.fields := by
  rcases i with ticks | _ | p | ⟨p, v | _⟩ | g | ⟨g, v | _⟩ | ⟨op, v⟩ | op | v | ⟨c, t⟩ | t
  all_goals
    simp only [text, fields, line, listed, String.toList_append, List.append_assoc] <;> rfl

/-- A line without its commas, cut at the blanks. -/
def splitFields (l : List Char) : List (List Char) := (l.filter (· != ',')).splitOn ' '

theorem filter_toList {w : String} (h : isPlain w = true) :
    w.toList.filter (· != ',') = w.toList := by
  refine List.filter_eq_self.mpr fun c hc ↦ bne_iff_ne.mpr ?_
  rintro rfl
  exact (isPlain_iff.mp h).2.1 hc

/-- Without their commas, listed words have one blank between them. -/
theorem filter_listed {ws : List String} (h : ∀ w ∈ ws, isPlain w = true) :
    (listed ws).filter (· != ',') = [' '].intercalate (ws.map String.toList) := by
  induction ws with
  | nil => rfl
  | cons w rest ih =>
    obtain ⟨hw, hrest⟩ := List.forall_mem_cons.mp h
    cases rest with
    | nil => simpa [listed] using filter_toList hw
    | cons w' rest =>
      have htail := ih hrest
      simp only [listed, List.filter_append, filter_toList hw]
      simp [htail, List.intercalate]

/-- The line lacks only the first comma. -/
theorem filter_line (ws : List String) :
    (line ws).filter (· != ',') = (listed ws).filter (· != ',') := by
  rcases ws with _ | ⟨w, _ | ⟨w', rest⟩⟩
  · rfl
  · rfl
  · simp [line, listed]

theorem line_sublist_listed (ws : List String) : (line ws).Sublist (listed ws) := by
  rcases ws with _ | ⟨w, _ | ⟨w', rest⟩⟩
  · exact .refl _
  · exact .refl _
  · exact (List.Sublist.refl w.toList).append (List.sublist_cons_self ',' _)

theorem fields_ne_nil (i : Instruction) : i.fields ≠ [] := by
  rcases i with ticks | _ | p | ⟨p, v | _⟩ | g | ⟨g, v | _⟩ | ⟨op, v⟩ | op | v | ⟨c, t⟩ | t
  all_goals exact List.cons_ne_nil _ _

/-- The text of an instruction can be cut into its words again. -/
theorem splitFields_text (i : Instruction) :
    splitFields i.text.toList = i.fields.map String.toList := by
  rw [splitFields, toList_text, filter_line, filter_listed isPlain_of_mem_fields]
  refine List.splitOn_intercalate ' ' ?_ (mt List.map_eq_nil_iff.mp i.fields_ne_nil)
  intro l hl
  obtain ⟨w, hw, rfl⟩ := List.mem_map.mp hl
  exact (isPlain_iff.mp (isPlain_of_mem_fields w hw)).1

/-- The instruction that a line stands for. -/
def ofText? (l : List Char) : Option Instruction :=
  ofFields? ((splitFields l).map String.ofList)

/-- The text of an instruction is read back. -/
theorem ofText?_text (i : Instruction) : ofText? i.text.toList = some i := by
  rw [ofText?, splitFields_text, List.map_map]
  simp only [Function.comp_def, String.ofList_toList, List.map_id']
  exact ofFields?_fields i

theorem lineFeed_notMem_listed {ws : List String} (h : ∀ w ∈ ws, isPlain w = true) :
    '\n' ∉ listed ws := by
  induction ws with
  | nil => exact List.not_mem_nil
  | cons w rest ih =>
    obtain ⟨hw, hrest⟩ := List.forall_mem_cons.mp h
    have hfirst := (isPlain_iff.mp hw).2.2
    cases rest with
    | nil => exact hfirst
    | cons w' rest => simp [listed, hfirst, ih hrest]

/-- The text of an instruction is a single line. -/
theorem lineFeed_notMem_text (i : Instruction) : '\n' ∉ i.text.toList := by
  rw [toList_text]
  exact fun hmem ↦
    lineFeed_notMem_listed isPlain_of_mem_fields ((line_sublist_listed i.fields).subset hmem)

end Instruction

/-! ### The lines of a listing -/

namespace Program

open Instruction (ofText? ofText?_text)

/-- The line of an instruction at an address, without its line feed. -/
def lineAt (address : ℕ) (i : Instruction) : List Char :=
  (toString address).toList.leftpad 4 ' ' ++ ':' :: ' ' :: i.text.toList

/-- What stands in a line behind the address. -/
def behindAddress (l : List Char) : List Char := (l.dropWhile (· != ':')).drop 2

/-- The instructions that a listing shows. -/
def ofListing? (s : String) : Option (List Instruction) :=
  (s.toList.splitOn '\n').dropLast.mapM fun l ↦ ofText? (behindAddress l)

theorem toList_listingLine (address : ℕ) (i : Instruction) :
    (listingLine address i).toList = lineAt address i ++ ['\n'] := by
  simp [listingLine, lineAt]

/-- There are only digits and blanks in front of the colon. -/
theorem mem_address {address : ℕ} {c : Char} (h : c ∈ (toString address).toList.leftpad 4 ' ') :
    c.isDigit = true ∨ c = ' ' := by
  rcases List.mem_append.mp h with hblank | hdigit
  · exact .inr (List.eq_of_mem_replicate hblank)
  · rw [Nat.toString_eq_repr, Nat.toList_repr] at hdigit
    exact .inl (Nat.isDigit_of_mem_toDigits (by decide) (by decide) hdigit)

/-- What follows the address is the instruction. -/
theorem behindAddress_lineAt (address : ℕ) (i : Instruction) :
    behindAddress (lineAt address i) = i.text.toList := by
  have hcolon : ∀ c ∈ (toString address).toList.leftpad 4 ' ', (c != ':') = true := by
    intro c hc
    rcases mem_address hc with hdigit | rfl
    · refine bne_iff_ne.mpr fun h ↦ ?_
      rw [h] at hdigit
      cases hdigit
    · rfl
  rw [behindAddress, lineAt, List.dropWhile_append_of_pos hcolon]
  rfl

theorem lineFeed_notMem_lineAt (address : ℕ) (i : Instruction) : '\n' ∉ lineAt address i := by
  intro hmem
  rcases List.mem_append.mp hmem with haddress | htext
  · rcases mem_address haddress with hdigit | hblank
    · cases hdigit
    · cases hblank
  · simp only [List.mem_cons, i.lineFeed_notMem_text, or_false] at htext
    rcases htext with h | h <;> cases h

/-- Lines that each end in a line feed can be separated again. -/
theorem splitOn_lines {ls : List (List Char)} (h : ∀ l ∈ ls, '\n' ∉ l) :
    (ls.flatMap (· ++ ['\n'])).splitOn '\n' = ls ++ [[]] := by
  have hjoin : ls.flatMap (· ++ ['\n']) = ['\n'].intercalate (ls ++ [[]]) := by
    clear h
    induction ls with
    | nil => rfl
    | cons l rest ih =>
      rw [List.flatMap_cons, ih]
      cases rest <;> simp [List.intercalate]
  have hends : ∀ l ∈ ls ++ [[]], '\n' ∉ l := by
    rw [List.forall_mem_append, List.forall_mem_singleton]
    exact ⟨h, List.not_mem_nil⟩
  rw [hjoin]
  exact List.splitOn_intercalate '\n' hends (List.append_ne_nil_of_right_ne_nil _ (by simp))

/-- Reading line by line what was written item by item. -/
theorem mapM_mapIdx {α β : Type} {write : ℕ → α → β} {read : β → Option α}
    (h : ∀ a x, read (write a x) = some x) (xs : List α) :
    (xs.mapIdx write).mapM read = some xs := by
  induction xs generalizing write with
  | nil => rfl
  | cons x xs ih =>
    rw [List.mapIdx_cons, List.mapM_cons, h, ih fun a ↦ h (a + 1)]
    rfl

/-- The listing is one line after the other. -/
theorem toList_listing (p : Program) :
    p.listing.toList = (p.instructions.toList.mapIdx lineAt).flatMap (· ++ ['\n']) := by
  rw [listing, String.toList_join, List.mapIdx_eq_zipIdx_map, List.mapIdx_eq_zipIdx_map,
    List.flatMap_map, List.flatMap_map]
  simp only [toList_listingLine]

/-- **A listing can be read back.** -/
theorem ofListing?_listing (p : Program) :
    ofListing? p.listing = some p.instructions.toList := by
  have hlines : ∀ l ∈ p.instructions.toList.mapIdx lineAt, '\n' ∉ l := by
    intro l hl
    obtain ⟨a, ha, rfl⟩ := List.mem_mapIdx.mp hl
    exact lineFeed_notMem_lineAt a _
  rw [ofListing?, toList_listing, splitOn_lines hlines, List.dropLast_concat]
  refine mapM_mapIdx (fun a i ↦ ?_) _
  rw [behindAddress_lineAt, ofText?_text]

/-- **A listing is unambiguous.** -/
theorem listing_inj {p q : Program} : p.listing = q.listing ↔ p = q := by
  refine ⟨fun h ↦ ?_, congrArg listing⟩
  have hread : p.instructions.toList = q.instructions.toList := by
    rw [← Option.some_inj, ← ofListing?_listing, h, ofListing?_listing]
  cases p
  cases q
  cases Array.toList_inj.mp hread
  rfl

end Program

end FocusDrive
