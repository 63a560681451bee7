import FocusDrive.Instruction

/-!
# Stored programs and their assembly

A `Program` is what program memory may hold: at least one instruction, and no jump that leaves it.
Both facts are fields, so whoever holds a program has them.

A `Draft` is a program being written, from the top down. Forward jumps are written as the number of
instructions to skip (`Line.skip`, `Line.skipIf`); a line gets its absolute target from the address
at which it lands. `Draft.finish` checks the draft and freezes it, and it fails for one of two
causes, the first bad jump being the one reported.
-/

namespace FocusDrive

/-- An assembled program. -/
structure Program where
  /-- The instructions, by address. -/
  instructions : Array Instruction
  /-- There is an instruction to start at. -/
  size_pos : 0 < instructions.size
  /-- Every jump stays inside. -/
  jumps_inside : ∀ i ∈ instructions, i.jumpTarget?.all (decide <| · < instructions.size) = true
deriving DecidableEq, Repr

namespace Program

/-- Number of instructions. -/
def size (p : Program) : Nat := p.instructions.size

/-- The instruction at an address. -/
def get? (p : Program) (address : Nat) : Option Instruction := p.instructions[address]?

/-- One line of a listing: the address in four columns, then the instruction. -/
def listingLine (address : Nat) (i : Instruction) : String :=
  String.ofList ((toString address).toList.leftpad 4 ' ') ++ ": " ++ i.text ++ "\n"

/-- The listing, one line per instruction. -/
def listing (p : Program) : String :=
  String.join (p.instructions.toList.mapIdx listingLine)

/-- There is an instruction at every address below the size, and at no other. -/
theorem get?_eq_none_iff {p : Program} {a : Nat} : p.get? a = none ↔ p.size ≤ a := by
  simp [get?, size]

/-- The target of every jump in the program is an address of it. -/
theorem jumpTarget_lt {p : Program} {a t : Nat} {i : Instruction} (hi : p.get? a = some i)
    (ht : i.jumpTarget? = some t) : t < p.size := by
  have h := p.jumps_inside i (Array.mem_of_getElem? hi)
  rw [ht] at h
  simpa [size] using h

end Program

/-! ### Assembly -/

/-- Why a draft is no program. -/
inductive AssemblyError
  /-- It has no instructions. -/
  | empty
  /-- The jump at address `source` has a target at or past the length. -/
  | jumpOutOfRange (source target length : Nat)
deriving DecidableEq, Repr

/-- The wording of the error. -/
def AssemblyError.message : AssemblyError → String
  | empty => "Program is empty"
  | jumpOutOfRange source target length =>
    s!"Jump at {source} targets {target}, program has {length} instructions"

/-- An instruction as it is written down: jumps may say how many instructions they skip. -/
inductive Line
  /-- An instruction that does not depend on its address. -/
  | plain (i : Instruction)
  /-- Jump over the next `n` instructions. -/
  | skip (n : Nat)
  /-- Jump over the next `n` instructions if the last comparison satisfies the condition. -/
  | skipIf (c : Condition) (n : Nat)
deriving DecidableEq, Repr

/-- The instruction that the line becomes at an address. -/
def Line.placedAt (address : Nat) : Line → Instruction
  | plain i => i
  | skip n => .jump (address + 1 + n)
  | skipIf c n => .jumpIf c (address + 1 + n)

/-- A program being written. -/
structure Draft where
  /-- What has been written so far. -/
  instructions : Array Instruction := #[]
deriving DecidableEq, Repr

namespace Draft

/-- Nothing written yet. -/
def empty : Draft := {}

/-- Number of instructions so far, which is the address of the next one. -/
def size (d : Draft) : Nat := d.instructions.size

/-- Write one line. -/
def push (d : Draft) (l : Line) : Draft := ⟨d.instructions.push (l.placedAt d.size)⟩

/-- Write several lines. -/
def append (d : Draft) (ls : List Line) : Draft := ls.foldl push d

/-- The first jump that leaves the draft, with its target. -/
def firstBadJump? (d : Draft) : Option (Nat × Nat) :=
  d.instructions.zipIdx.findSome? fun (i, address) ↦
    i.jumpTarget?.bind fun target ↦ if target < d.size then none else some (address, target)

/-- If no bad jump is found there is none. -/
theorem jumps_inside_of_firstBadJump? {d : Draft} (h : d.firstBadJump? = none) :
    ∀ i ∈ d.instructions, i.jumpTarget?.all (decide <| · < d.instructions.size) = true := by
  intro i hi
  obtain ⟨a, ha, rfl⟩ := Array.mem_iff_getElem.mp hi
  have hz := Array.findSome?_eq_none_iff.mp h (d.instructions[a], a)
    (Array.mem_zipIdx_iff_getElem?.mpr (by simp [ha]))
  cases ht : d.instructions[a].jumpTarget? with
  | none => rfl
  | some t =>
    by_cases hlt : t < d.instructions.size
    · simpa using hlt
    · simp [ht, size, hlt] at hz

/-- Check the draft and freeze it. -/
def finish (d : Draft) : Except AssemblyError Program :=
  if hempty : d.instructions.size = 0 then .error .empty
  else
    match hbad : d.firstBadJump? with
    | some (source, target) => .error (.jumpOutOfRange source target d.size)
    | none => .ok ⟨d.instructions, Nat.pos_of_ne_zero hempty, jumps_inside_of_firstBadJump? hbad⟩

@[simp] theorem size_push (d : Draft) (l : Line) : (d.push l).size = d.size + 1 := by
  simp [size, push]

/-- Finishing changes no instruction. -/
theorem instructions_of_finish {d : Draft} {p : Program} (h : d.finish = .ok p) :
    p.instructions = d.instructions := by
  unfold finish at h
  split at h
  · cases h
  · split at h <;> cases h
    rfl

end Draft

end FocusDrive
