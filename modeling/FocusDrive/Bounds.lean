/-!
# Closed intervals of machine words

The values a register accepts form a closed interval of 32-bit words. `Bounds.contains` tests
membership, which is how a host write is accepted or refused, and `Bounds.clamp` moves a value to
the nearest member, which is how a write from inside the module is made to fit.

An interval carries no proof that its ends are in order. Its users show that where they build one
(`AxisParam.lo_le_hi_range`), and `contains_clamp` is the one lemma that needs it.
-/

namespace FocusDrive

/-- The words from `lo` to `hi`, both included. -/
structure Bounds where
  /-- Least member. -/
  lo : Int32
  /-- Greatest member. -/
  hi : Int32
deriving DecidableEq, Repr

namespace Bounds

/-- The interval from `-m` to `m`. -/
def symmetric (m : Int32) : Bounds := ⟨-m, m⟩

/-- Whether `v` is a member. -/
def contains (b : Bounds) (v : Int32) : Bool := decide (b.lo ≤ v) && decide (v ≤ b.hi)

/-- The member nearest to `v`. -/
def clamp (b : Bounds) (v : Int32) : Int32 :=
  if v < b.lo then b.lo else if b.hi < v then b.hi else v

/-- The interval as it is written in messages, `lo..=hi`. -/
def text (b : Bounds) : String := s!"{b.lo.toInt}..={b.hi.toInt}"

instance : ToString Bounds := ⟨text⟩

/-! ### Membership and clamping -/

theorem contains_iff {b : Bounds} {v : Int32} : b.contains v = true ↔ b.lo ≤ v ∧ v ≤ b.hi := by
  simp [contains]

/-- Clamping changes no member. -/
theorem clamp_of_contains {b : Bounds} {v : Int32} (h : b.contains v = true) : b.clamp v = v := by
  obtain ⟨hlo, hhi⟩ := contains_iff.mp h
  rw [clamp, if_neg (Int32.not_lt.mpr hlo), if_neg (Int32.not_lt.mpr hhi)]

/-- What clamping gives is a member, provided that the interval has one. -/
theorem contains_clamp {b : Bounds} (h : b.lo ≤ b.hi) (v : Int32) :
    b.contains (b.clamp v) = true := by
  rw [contains_iff, clamp]
  split
  · exact ⟨Int32.le_refl _, h⟩
  · rename_i hlo
    split
    · exact ⟨h, Int32.le_refl _⟩
    · rename_i hhi
      exact ⟨Int32.not_lt.mp hlo, Int32.not_lt.mp hhi⟩

end Bounds

end FocusDrive
