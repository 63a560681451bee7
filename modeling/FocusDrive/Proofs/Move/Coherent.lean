import FocusDrive.Move.Registry
import Mathlib.Data.List.Nodup

/-!
# Coherent registries

A registry is *coherent* when its numbers identify the records, no record has a number that is still
to be given, and only the last move can be in progress. The third part is stronger than "at most one
move is in progress": it is what makes an interruption of the last move leave none in progress, also
when the record of the last move is gone.

`Resolves` is the whole of what happens to a registry apart from a new move and the removal of a
record: nothing, or the last move is decided.
-/

namespace FocusDrive

namespace MoveRegistry

/-- Numbers identify the records, and only the last move can be in progress. -/
structure Coherent (m : MoveRegistry) : Prop where
  /-- No two records have the same number. -/
  nodup : (m.records.map (·.id)).Nodup
  /-- No record has a number that is still to be given. -/
  lt_nextId : ∀ r ∈ m.records, r.id < m.nextId
  /-- A move in progress is the last one. -/
  lastId_of_moving : ∀ r ∈ m.records, r.status = .moving → m.lastId = some r.id

/-- No move is in progress. -/
def Decided (m : MoveRegistry) : Prop := ∀ r ∈ m.records, r.status ≠ .moving

/-- From the one registry to the other at most the last move was decided. -/
inductive Resolves (m : MoveRegistry) : MoveRegistry → Prop
  /-- Nothing happened. -/
  | refl : Resolves m m
  /-- The last move was in progress and is decided now. -/
  | decide {r : MoveRecord} {status : MoveStatus} (hlast : m.lastId = some r.id)
      (hmem : r ∈ m.records) (hmoving : r.status = .moving)
      (hterminal : status.isTerminal = true) : Resolves m (m.setStatus r.id status)

variable {m m' : MoveRegistry} {r : MoveRecord} {id : Nat} {status : MoveStatus}

/-! ### Records and numbers -/

theorem mem_of_get? (h : m.get? id = some r) : r ∈ m.records := List.mem_of_find?_eq_some h

theorem lastId_setStatus : (m.setStatus id status).lastId = m.lastId := rfl

/-- A new status does not change which moves there are. -/
theorem ids_setStatus : (m.setStatus id status).records.map (·.id) = m.records.map (·.id) := by
  rw [setStatus, List.map_map]
  refine List.map_congr_left fun r _ ↦ ?_
  show (if r.id = id then { r with status } else r).id = r.id
  split <;> rfl

/-- A record after a change of status is an old one, or one with the new status. -/
theorem mem_setStatus (h : r ∈ (m.setStatus id status).records) :
    (r ∈ m.records ∧ r.id ≠ id) ∨ ∃ r₀ ∈ m.records, r₀.id = id ∧ r = { r₀ with status } := by
  obtain ⟨r₀, hr₀, rfl⟩ := List.mem_map.mp h
  rcases eq_or_ne r₀.id id with hid | hid
  · rw [if_pos hid]
    exact .inr ⟨r₀, hr₀, hid, rfl⟩
  · rw [if_neg hid]
    exact .inl ⟨hr₀, hid⟩

namespace Coherent

/-- There is one record for each number. -/
theorem eq_of_id (h : m.Coherent) {r' : MoveRecord} (hr : r ∈ m.records) (hr' : r' ∈ m.records)
    (hid : r.id = r'.id) : r = r' :=
  List.inj_on_of_nodup_map h.nodup hr hr' hid

/-- Every record is found under its own number. -/
theorem get?_of_mem (h : m.Coherent) (hr : r ∈ m.records) : m.get? r.id = some r := by
  rcases hget : m.get? r.id with _ | r'
  · exact absurd (beq_self_eq_true r.id) (List.find?_eq_none.mp hget r hr)
  · rw [h.eq_of_id (mem_of_get? hget) hr (id_of_get? hget)]

/-- Writing the status that a record has changes nothing. -/
theorem setStatus_self (h : m.Coherent) (hr : r ∈ m.records) : m.setStatus r.id r.status = m := by
  have hrecords : (m.records.map fun r' ↦
      if r'.id = r.id then { r' with status := r.status } else r') = m.records := by
    refine (List.map_congr_left fun r' hr' ↦ ?_).trans (List.map_id _)
    rcases eq_or_ne r'.id r.id with heq | hne
    · rw [if_pos heq, h.eq_of_id hr' hr heq]
      rfl
    · rw [if_neg hne]
      rfl
  rw [setStatus, hrecords]

/-- At most one move is in progress. -/
theorem movingCount_le_one (h : m.Coherent) : m.movingCount ≤ 1 := by
  rw [movingCount, List.countP_eq_length_filter]
  generalize hmoving : m.records.filter (decide <| ·.status = .moving) = moving
  have hsub : moving.Sublist m.records := hmoving ▸ List.filter_sublist
  have hnodup : (moving.map (·.id)).Nodup := h.nodup.sublist (hsub.map _)
  rcases moving with _ | ⟨r, _ | ⟨r', rest⟩⟩
  · exact Nat.zero_le 1
  · exact Nat.le_refl 1
  · -- two moves in progress would both be the last one
    have hlast (r₀ : MoveRecord) (hr₀ : r₀ ∈ r :: r' :: rest) : m.lastId = some r₀.id := by
      have hmem := hr₀
      rw [← hmoving, List.mem_filter] at hmem
      exact h.lastId_of_moving r₀ hmem.1 (of_decide_eq_true hmem.2)
    have heq : r.id = r'.id :=
      Option.some.inj ((hlast r (by simp)).symm.trans (hlast r' (by simp)))
    simp [heq] at hnodup

/-- Only the last move may be set in motion. -/
theorem setStatus (h : m.Coherent) (hstatus : status = .moving → m.lastId = some id) :
    (m.setStatus id status).Coherent where
  nodup := by
    rw [ids_setStatus]
    exact h.nodup
  lt_nextId r hr := by
    rcases mem_setStatus hr with ⟨hr, -⟩ | ⟨r₀, hr₀, -, rfl⟩
    · exact h.lt_nextId r hr
    · exact h.lt_nextId r₀ hr₀
  lastId_of_moving r hr hmoving := by
    rcases mem_setStatus hr with ⟨hr, -⟩ | ⟨r₀, -, hid, rfl⟩
    · exact h.lastId_of_moving r hr hmoving
    · rw [lastId_setStatus, hstatus hmoving, ← hid]

/-- Dropping a record leaves the others coherent. -/
theorem erase (h : m.Coherent) (id : Nat) : (m.erase id).Coherent where
  nodup := h.nodup.sublist (List.filter_sublist.map _)
  lt_nextId r hr := h.lt_nextId r (List.mem_filter.mp hr).1
  lastId_of_moving r hr := h.lastId_of_moving r (List.mem_filter.mp hr).1

/-- A new move can be recorded when none is in progress. -/
theorem begin (h : m.Coherent) (hdecided : m.Decided) (target : Int32) :
    (m.begin target).Coherent where
  nodup := by
    refine List.nodup_cons.mpr ⟨?_, h.nodup⟩
    intro hmem
    obtain ⟨r, hr, hid⟩ := List.mem_map.mp hmem
    exact Nat.ne_of_lt (h.lt_nextId r hr) hid
  lt_nextId r hr := by
    rw [nextId_begin]
    rcases List.mem_cons.mp hr with rfl | hr
    · exact Nat.lt_succ_self _
    · exact Nat.lt_succ_of_lt (h.lt_nextId r hr)
  lastId_of_moving r hr hmoving := by
    rcases List.mem_cons.mp hr with rfl | hr
    · rfl
    · exact absurd hmoving (hdecided r hr)

end Coherent

theorem coherent_empty : empty.Coherent where
  nodup := List.nodup_nil
  lt_nextId _ hr := absurd hr List.not_mem_nil
  lastId_of_moving _ hr := absurd hr List.not_mem_nil

/-- Without a last move, or without its record, no move is in progress. -/
theorem Coherent.decided_of_get?_lastId (h : m.Coherent)
    (hlast : ∀ id, m.lastId = some id → m.get? id = none) : m.Decided := by
  intro r hr hmoving
  have hnone := hlast r.id (h.lastId_of_moving r hr hmoving)
  rw [h.get?_of_mem hr] at hnone
  exact absurd hnone (Option.some_ne_none r)

/-! ### Deciding the last move -/

/-- Once the last move is decided, no move is in progress. -/
theorem Coherent.decided_setStatus (h : m.Coherent) (hlast : m.lastId = some id)
    (hterminal : status.isTerminal = true) : (m.setStatus id status).Decided := by
  intro r hr hmoving
  rcases mem_setStatus hr with ⟨hr, hne⟩ | ⟨r₀, -, -, rfl⟩
  · exact hne (Option.some.inj ((h.lastId_of_moving r hr hmoving).symm.trans hlast))
  · exact MoveStatus.isTerminal_iff.mp hterminal hmoving

namespace Resolves

theorem lastId_eq (h : m.Resolves m') : m'.lastId = m.lastId := by
  cases h <;> rfl

theorem nextId_eq (h : m.Resolves m') : m'.nextId = m.nextId := by
  rw [nextId, nextId, h.lastId_eq]

theorem ids_eq (h : m.Resolves m') : m'.records.map (·.id) = m.records.map (·.id) := by
  cases h with
  | refl => rfl
  | decide => exact ids_setStatus

/-- A resolution changes at most the last move, and that from moving to an outcome. -/
theorem get?_eq (h : m.Resolves m') (hm : m.Coherent) (id : Nat) :
    m'.get? id = m.get? id ∨
      m.lastId = some id ∧ ∃ r status, m.get? id = some r ∧ r.status = .moving ∧
        status.isTerminal = true ∧ m'.get? id = some { r with status } := by
  cases h with
  | refl => exact .inl rfl
  | @decide r status hlast hmem hmoving hterminal =>
    have hget := hm.get?_of_mem hmem
    rcases eq_or_ne id r.id with rfl | hne
    · refine .inr ⟨hlast, r, status, hget, hmoving, hterminal, ?_⟩
      rw [get?_setStatus, if_pos rfl, hget]
      rfl
    · rw [get?_setStatus, if_neg hne]
      exact .inl rfl

/-- A resolution keeps the registry coherent. -/
theorem coherent (h : m.Resolves m') (hm : m.Coherent) : m'.Coherent := by
  cases h with
  | refl => exact hm
  | decide hlast => exact hm.setStatus fun _ ↦ hlast

/-- No move is put in progress. -/
theorem mem_of_moving (h : m.Resolves m') (hr : r ∈ m'.records) (hmoving : r.status = .moving) :
    r ∈ m.records := by
  cases h with
  | refl => exact hr
  | decide _ _ _ hterminal =>
    rcases mem_setStatus hr with ⟨hr, -⟩ | ⟨r₀, -, -, rfl⟩
    · exact hr
    · exact absurd hmoving (MoveStatus.isTerminal_iff.mp hterminal)

/-- The last move is decided once. -/
theorem trans (h : m.Resolves m') (hm : m.Coherent) {m'' : MoveRegistry} (h' : m'.Resolves m'') :
    m.Resolves m'' := by
  cases h with
  | refl => exact h'
  | decide hlast hmem hmoving hterminal =>
    cases h' with
    | refl => exact .decide hlast hmem hmoving hterminal
    | decide _ hmem' hmoving' =>
      exact absurd hmoving' (hm.decided_setStatus hlast hterminal _ hmem')

end Resolves

end MoveRegistry

end FocusDrive
