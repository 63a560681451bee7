/-!
# Global variables

Besides the parameters of its axis a module keeps global variables in banks. Two kinds matter here:
the read-only status of the stored program, and the general purpose variables `gp0` to `gp55`
through which the host and a stored program talk.

A `GlobalVar` is a name, not a promise: `user n` can be written down for every byte `n`, and
`GlobalVar.isValid` says which of these the module has.
-/

namespace FocusDrive

/-- The name of a global variable. -/
inductive GlobalVar
  /-- Whether a stored program runs; kept by the module and read-only. -/
  | status
  /-- General purpose variable number `n`. -/
  | user (n : UInt8)
deriving DecidableEq, Repr

namespace GlobalVar

/-- Number of the status variable in its bank. -/
def statusNumber : Nat := 128

/-- Highest number of a user variable that the module has. -/
def maxUser : Nat := 55

/-- What the status variable reads while a stored program runs. -/
def statusRunning : Int32 := 1

/-- What the status variable reads while no stored program runs. -/
def statusStopped : Int32 := 0

/-- The bank that holds the variable. -/
def bank : GlobalVar → Nat
  | status => 0
  | user _ => 2

/-- The variable's number within its bank. -/
def number : GlobalVar → Nat
  | status => statusNumber
  | user n => n.toNat

/-- Whether writing is allowed at all. -/
def isWritable : GlobalVar → Bool
  | status => false
  | user _ => true

/-- Whether the module has this variable. -/
def isValid : GlobalVar → Bool
  | status => true
  | user n => decide (n.toNat ≤ maxUser)

/-- The name used in messages. -/
def name : GlobalVar → String
  | status => "tmcl_application_status"
  | user n => s!"gp{n.toNat}"

instance : ToString GlobalVar := ⟨name⟩

end GlobalVar

end FocusDrive
