/-!
# Moves and their outcome

A move is a request to bring the encoder to a target. The module does not report outcomes: the host
finds out by looking whether the program still runs and where the encoder stands.
`MoveStatus.resolve` is that decision. One count of slop is allowed, since the program's own check
for zero distance and the host's reading of the encoder are not made at the same moment.
-/

namespace FocusDrive

/-- The largest distance, in encoder counts, at which a halted move counts as done. -/
def doneTolerance : Nat := 1

/-- What has become of a move. -/
inductive MoveStatus
  /-- The program still heads for the target. -/
  | moving
  /-- Another command took over. -/
  | interrupted
  /-- The program halted away from the target. -/
  | failed
  /-- The program halted at the target. -/
  | done
deriving DecidableEq, Repr

namespace MoveStatus

/-- Whether the outcome is decided. -/
def isTerminal : MoveStatus → Bool
  | moving => false
  | interrupted | failed | done => true

/-- The status in reports. -/
def name : MoveStatus → String
  | moving => "moving"
  | interrupted => "interrupted"
  | failed => "failed"
  | done => "done"

/-- The outcome of a halted program. The distance is taken over the integers, so it cannot wrap. -/
def ofHalt (position target : Int32) : MoveStatus :=
  if (position.toInt - target.toInt).natAbs ≤ doneTolerance then done else failed

/-- The status after a look at the module: only a move in progress whose program has stopped
changes. -/
def resolve (s : MoveStatus) (running : Bool) (position target : Int32) : MoveStatus :=
  if s = moving ∧ running = false then ofHalt position target else s

/-- Every status but one is final. -/
theorem isTerminal_iff {s : MoveStatus} : s.isTerminal = true ↔ s ≠ moving := by
  cases s <;> decide

/-- A move that is judged by where the drive has halted is over. -/
@[simp] theorem isTerminal_ofHalt (position target : Int32) :
    (ofHalt position target).isTerminal = true := by
  unfold ofHalt
  split <;> rfl

end MoveStatus

/-- One move. -/
structure MoveRecord where
  /-- The move's number; numbers rise by one from move to move. -/
  id : Nat
  /-- The encoder count to reach. -/
  target : Int32
  /-- What has become of it. -/
  status : MoveStatus
deriving DecidableEq, Repr

end FocusDrive
