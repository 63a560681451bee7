import FocusDrive.Toml.Value

/-!
# Numbers that a machine can hold

A document may contain numbers of any size. A reader who takes a number out of it needs a machine
word for it: an integer has to fit into 128 bits, and a floating-point number into double precision,
where it may lose digits but not become infinite. `Value.inRange` asks this of all the numbers in a
value.

Whether a decimal becomes infinite is decided exactly (`decimalOverflows_iff`), but without
computing a power of ten that is out of all proportion to the text of the number.
-/

namespace FocusDrive.Toml

/-- Whether an integer can be held in 128 bits, with or without a sign. -/
def integerInRange (n : Int) : Bool := decide (-Int.pow 2 127 ≤ n) && decide (n < Int.pow 2 128)

/-- The least number that becomes infinite in double precision. It lies halfway between the largest
finite number and the next power of two. -/
def leastInfinite : Nat := Nat.pow 2 1024 - Nat.pow 2 970

/-- An exponent whose power of ten is not below it. -/
def infiniteExponent : Nat := 309

/-- Whether the number `mantissa * 10 ^ exponent` becomes infinite in double precision. -/
def decimalOverflows (mantissa : Nat) : Int → Bool
  | .ofNat e =>
    mantissa != 0 &&
      (decide (infiniteExponent ≤ e) || decide (leastInfinite ≤ mantissa * Nat.pow 10 e))
  | .negSucc e =>
    decide (e < mantissa.log2) && decide (leastInfinite ≤ mantissa / Nat.pow 10 (e + 1))

theorem leastInfinite_pos : 0 < leastInfinite := by decide +kernel

theorem leastInfinite_le : leastInfinite ≤ Nat.pow 10 infiniteExponent := by decide +kernel

/-- A decimal with a large exponent is too large unless it is zero, and one that has fewer digits
than its exponent takes away is too small. The short cuts therefore change nothing. -/
theorem decimalOverflows_iff (mantissa : Nat) (exponent : Int) :
    decimalOverflows mantissa exponent = true ↔
      leastInfinite * Nat.pow 10 (-exponent).toNat ≤ mantissa * Nat.pow 10 exponent.toNat := by
  have hpos := leastInfinite_pos
  cases exponent with
  | ofNat e =>
    have hneg : (-(Int.ofNat e)).toNat = 0 := by simp
    rw [hneg]
    simp only [decimalOverflows, Bool.and_eq_true, bne_iff_ne, Bool.or_eq_true, decide_eq_true_eq,
      Int.ofNat_eq_natCast, Int.toNat_natCast, Nat.pow_eq, Nat.pow_zero, Nat.mul_one]
    constructor
    · rintro ⟨hm, he | h⟩
      · have hpow : Nat.pow 10 infiniteExponent ≤ Nat.pow 10 e := by
          rw [Nat.pow_eq, Nat.pow_eq]
          exact Nat.pow_le_pow_right (by decide) he
        exact Nat.le_trans leastInfinite_le
          (Nat.le_trans hpow (Nat.le_mul_of_pos_left _ (Nat.pos_of_ne_zero hm)))
      · exact h
    · intro h
      refine ⟨?_, .inr h⟩
      rintro rfl
      omega
  | negSucc e =>
    have hneg : (-(Int.negSucc e)).toNat = e + 1 := by simp [Int.neg_negSucc]
    have hle := Nat.le_div_iff_mul_le (x := leastInfinite) (y := mantissa)
      (Nat.pow_pos (n := e + 1) (show 0 < 10 by decide))
    simp only [decimalOverflows, Bool.and_eq_true, decide_eq_true_eq, hneg, Int.toNat_negSucc,
      Nat.pow_eq, Nat.pow_zero, Nat.mul_one, hle]
    refine ⟨And.right, fun h ↦ ⟨?_, h⟩⟩
    have hm : 10 ^ (e + 1) ≤ mantissa := Nat.le_trans (Nat.le_mul_of_pos_left _ hpos) h
    have htwo : 2 ^ (e + 1) ≤ mantissa :=
      Nat.le_trans (Nat.pow_le_pow_left (by decide) (e + 1)) hm
    have hzero : mantissa ≠ 0 := by
      have := Nat.pow_pos (n := e + 1) (show 0 < 2 by decide)
      omega
    have hlog := mt (Nat.log2_lt hzero).mp (Nat.not_lt.mpr htwo)
    omega

/-- Whether a floating-point number can be held in double precision. -/
def FloatingPoint.inRange : FloatingPoint → Bool
  | .decimal _ mantissa exponent => !decimalOverflows mantissa exponent
  | .nan | .infinity _ => true

mutual

/-- Whether all the numbers in a value can be held. -/
def Value.inRange : Value → Bool
  | .integer n => integerInRange n
  | .float x => x.inRange
  | .array items => itemsInRange items
  | .table entries => entriesInRange entries
  | .string _ | .boolean _ | .datetime _ => true

/-- Whether all the numbers in the items of an array can be held. -/
def itemsInRange : List Value → Bool
  | [] => true
  | v :: rest => v.inRange && itemsInRange rest

/-- Whether all the numbers in the entries of a table can be held. -/
def entriesInRange : List (String × Value) → Bool
  | [] => true
  | (_, v) :: rest => v.inRange && entriesInRange rest

end

theorem itemsInRange_eq_all (items : List Value) :
    itemsInRange items = items.all Value.inRange := by
  induction items with
  | nil => rw [itemsInRange, List.all_nil]
  | cons v rest ih => rw [itemsInRange, List.all_cons, ih]

theorem entriesInRange_eq_all (entries : List (String × Value)) :
    entriesInRange entries = entries.all fun (_, v) ↦ v.inRange := by
  induction entries with
  | nil => rw [entriesInRange, List.all_nil]
  | cons entry rest ih => rw [entriesInRange, List.all_cons, ih]

end FocusDrive.Toml
