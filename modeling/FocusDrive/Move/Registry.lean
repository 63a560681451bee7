import FocusDrive.Move.Basic

/-!
# The registry of moves

The moves that a host still has to ask about, and the number of the last move that was begun,
whether it is still there or not. A new move gets the next number, so no number is used twice.

The view is `MoveRegistry.get?`: each operation is described by what it does to the look-up of every
number.
-/

namespace FocusDrive

/-- The moves on record. -/
structure MoveRegistry where
  /-- The records, newest first. -/
  records : List MoveRecord := []
  /-- The number of the last move, if one was begun. -/
  lastId : Option Nat := none
deriving DecidableEq, Repr

namespace MoveRegistry

/-- No move was begun. -/
def empty : MoveRegistry := {}

/-- The number that the next move gets. -/
def nextId (m : MoveRegistry) : Nat := m.lastId.elim 0 (· + 1)

/-- The record under a number. -/
def get? (m : MoveRegistry) (id : Nat) : Option MoveRecord := m.records.find? (·.id == id)

/-- Whether there is a record under a number. -/
def contains (m : MoveRegistry) (id : Nat) : Bool := (m.get? id).isSome

/-- Record a new move under the next number. -/
def begin (m : MoveRegistry) (target : Int32) : MoveRegistry where
  records := ⟨m.nextId, target, .moving⟩ :: m.records
  lastId := some m.nextId

/-- Change the status of a record; without effect where there is none. -/
def setStatus (m : MoveRegistry) (id : Nat) (status : MoveStatus) : MoveRegistry :=
  { m with records := m.records.map fun r ↦ if r.id = id then { r with status } else r }

/-- Drop a record; without effect where there is none. -/
def erase (m : MoveRegistry) (id : Nat) : MoveRegistry :=
  { m with records := m.records.filter (·.id != id) }

/-- Number of records. -/
def size (m : MoveRegistry) : Nat := m.records.length

/-- Number of moves in progress. -/
def movingCount (m : MoveRegistry) : Nat := m.records.countP (·.status = .moving)

/-! ### The view -/

@[simp] theorem get?_empty (id : Nat) : empty.get? id = none := rfl

/-- A record is found under its own number. -/
theorem id_of_get? {m : MoveRegistry} {id : Nat} {r : MoveRecord} (h : m.get? id = some r) :
    r.id = id := by
  simpa using List.find?_some h

@[simp] theorem nextId_empty : empty.nextId = 0 := rfl

@[simp] theorem nextId_begin (m : MoveRegistry) (target : Int32) :
    (m.begin target).nextId = m.nextId + 1 := rfl

/-- A new move is found under the next number, and the others where they were. -/
theorem get?_begin (m : MoveRegistry) (target : Int32) (id : Nat) :
    (m.begin target).get? id =
      if m.nextId = id then some ⟨m.nextId, target, .moving⟩ else m.get? id := by
  by_cases h : m.nextId = id <;> simp [begin, get?, h]

/-- A new status is found in the one record, and nothing else is changed. -/
theorem get?_setStatus (m : MoveRegistry) (id k : Nat) (status : MoveStatus) :
    (m.setStatus id status).get? k =
      if k = id then (m.get? k).map ({ · with status }) else m.get? k := by
  have hid (r : MoveRecord) : (if r.id = id then { r with status } else r).id = r.id := by
    split <;> rfl
  simp only [setStatus, get?, List.find?_map, Function.comp_def, hid]
  cases h : m.records.find? (·.id == k) with
  | none => simp
  | some r =>
    have hr : r.id = k := by simpa using List.find?_some h
    by_cases hk : k = id <;> simp [hr, hk]

/-- A record that was dropped is not found, and the others are. -/
theorem get?_erase (m : MoveRegistry) (id k : Nat) :
    (m.erase id).get? k = if k = id then none else m.get? k := by
  simp only [erase, get?, List.find?_filter]
  by_cases hk : k = id
  · subst hk
    simp
  · rw [if_neg hk]
    congr 1
    funext r
    by_cases hr : r.id = k <;> simp [hr, hk]

end MoveRegistry

end FocusDrive
