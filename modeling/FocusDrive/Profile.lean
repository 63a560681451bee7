import FocusDrive.Program

/-!
# The velocity profile

The program that closes the position loop on the module. The host writes a target into `gp0` and
starts it. After one initial tick every pass reads the encoder and commands a new speed:

* the remaining distance `d` is the target less the encoder position (kept in `gp1`);
* at `d = 0` both speeds become `0` and the program ends;
* the braking distance is `v² / 1400`, signed like the current speed `v` (kept in `gp2`);
* the speed is `(v + (d - braking)) * 2 / 3`, limited to `±2000`, and `d` where that would be `0`.

The divisions truncate. The order of the instructions matters beyond their effect on a single pass:
the comparison made before an exchange of the registers is used after it.

`profile` is the assembled program, written with its proofs so that it can be evaluated, and
`finish_profileDraft` says that it is what assembling the lines gives.
-/

namespace FocusDrive

namespace Profile

/-- The target position, written by the host. -/
def targetPosition : GlobalVar := .user 0

/-- The remaining distance, kept by the program. -/
def remainingDistance : GlobalVar := .user 1

/-- The signed braking distance, kept by the program. -/
def decelerationTrigger : GlobalVar := .user 2

/-- What a squared speed is divided by to give a braking distance in encoder counts. -/
def decelerationDivisor : Int32 := 1400

/-- The speed magnitude that the program never exceeds. -/
def speedLimit : Int32 := 2000

/-- Address of the first instruction of the loop. -/
def loopStart : Nat := 1

/-! ### The lines, part by part -/

/-- The distance, into `A` and `gp1`. -/
def distanceLines : List Line :=
  [.plain (.getParam .encoderPosition),
    .plain (.calcX .load),
    .plain (.getGlobal targetPosition),
    .plain (.calcX .sub),
    .plain (.setGlobal remainingDistance .accumulator)]

/-- On target: stop the motor and end. -/
def arrivalLines : List Line :=
  [.plain (.comp 0),
    .skipIf .ne 3,
    .plain (.setParam .targetSpeed (.value 0)),
    .plain (.setParam .actualSpeed (.value 0)),
    .plain .stop]

/-- The braking distance, into `A` and `gp2`. The comparison survives the second exchange. -/
def brakingLines : List Line :=
  [.plain (.getParam .actualSpeed),
    .plain (.calcX .load),
    .plain (.calcX .mul),
    .plain (.calcImm .div decelerationDivisor),
    .plain (.calcX .swap),
    .plain (.getParam .actualSpeed),
    .plain (.comp 0),
    .plain (.calcX .swap),
    .skipIf .ge 1,
    .plain (.calcImm .mul (-1)),
    .plain (.setGlobal decelerationTrigger .accumulator)]

/-- The blend of the current speed with the distance left after braking. -/
def blendLines : List Line :=
  [.plain (.calcX .swap),
    .plain (.getGlobal remainingDistance),
    .plain (.calcX .sub),
    .plain (.calcX .swap),
    .plain (.getParam .actualSpeed),
    .plain (.calcX .add),
    .plain (.calcImm .mul 2),
    .plain (.calcImm .div 3)]

/-- The limit, with one branch for each direction. -/
def limitLines : List Line :=
  [.plain (.comp speedLimit),
    .skipIf .gt 3,
    .plain (.comp (-speedLimit)),
    .skipIf .lt 3,
    .skip 3,
    .plain (.calcImm .load speedLimit),
    .skip 1,
    .plain (.calcImm .load (-speedLimit))]

/-- A speed of `0` is replaced by the distance, so that a move never stalls short of its target. -/
def commandLines : List Line :=
  [.plain (.comp 0),
    .skipIf .ne 1,
    .plain (.getGlobal remainingDistance),
    .plain (.setParam .targetSpeed .accumulator),
    .plain (.jump loopStart)]

/-- The whole program. The first command after a start is sometimes ignored, hence the wait. -/
def lines : List Line :=
  .plain (.wait 1) ::
    (distanceLines ++ arrivalLines ++ brakingLines ++ blendLines ++ limitLines ++ commandLines)

/-- The lines, written down in order. -/
def draft : Draft := Draft.empty.append lines

end Profile

/-- The velocity profile program. -/
def profile : Program where
  instructions := Profile.draft.instructions
  size_pos := by decide
  jumps_inside := by decide

theorem size_profile : profile.size = 43 := by decide

/-- The profile program is assembled without an error: all its jumps are inside. -/
theorem finish_profileDraft : Profile.draft.finish = .ok profile := by
  have hbad : Profile.draft.firstBadJump? = none := by decide
  have hempty : ¬Profile.draft.instructions.size = 0 := by decide
  unfold Draft.finish
  rw [dif_neg hempty]
  split
  · rename_i h
    rw [hbad] at h
    cases h
  · rfl

end FocusDrive
