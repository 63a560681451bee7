import FocusDrive.AxisParam
import FocusDrive.GlobalVar

/-!
# Stored-program instructions

The instruction set of the module's own interpreter: one accumulator `A`, one second register `X`,
and the result of the last comparison. A write takes an immediate value or the accumulator; a
calculation takes an immediate value (`calcImm`) or the register `X` (`calcX`); a jump names its
target by absolute address.

`Instruction.text` is the mnemonic line of a listing. Reads and writes are spelled by operand there
(`SAP` writes an immediate, `AAP` the accumulator), so the line alone tells which instruction it is.
-/

namespace FocusDrive

/-- Where the value of a write comes from. -/
inductive Operand
  /-- The number in the instruction. -/
  | value (v : Int32)
  /-- The accumulator. -/
  | accumulator
deriving DecidableEq, Repr

/-- Operation of a calculation. -/
inductive CalcOp
  | add | sub | mul
  /-- Quotient, toward zero. -/
  | div
  /-- Remainder of `div`. -/
  | mod
  | and | or | xor
  /-- Bitwise complement of the accumulator. -/
  | not
  /-- `calcImm` loads the immediate value into `A`, `calcX` loads `A` into `X`. -/
  | load
  /-- Exchanges `A` and `X`; no instruction of the form `calcImm`. -/
  | swap
deriving DecidableEq, Repr

/-- The operation's word in a listing. -/
def CalcOp.mnemonic : CalcOp → String
  | add => "ADD"
  | sub => "SUB"
  | mul => "MUL"
  | div => "DIV"
  | mod => "MOD"
  | and => "AND"
  | or => "OR"
  | xor => "XOR"
  | not => "NOT"
  | load => "LOAD"
  | swap => "SWAP"

/-- Condition of a jump, on the result of the last comparison. -/
inductive Condition
  | eq | ne | gt | ge | lt | le
deriving DecidableEq, Repr

namespace Condition

/-- The condition's word in a listing. -/
def mnemonic : Condition → String
  | eq => "EQ"
  | ne => "NE"
  | gt => "GT"
  | ge => "GE"
  | lt => "LT"
  | le => "LE"

/-- Whether the condition holds for a comparison of the accumulator with a value. -/
def holds : Condition → Ordering → Bool
  | eq, o => o.isEq
  | ne, o => o.isNe
  | gt, o => o.isGT
  | ge, o => o.isGE
  | lt, o => o.isLT
  | le, o => o.isLE

end Condition

/-- One stored-program instruction; jump targets are absolute addresses, counted from `0`. -/
inductive Instruction
  /-- Suspend for a number of ticks. -/
  | wait (ticks : UInt32)
  /-- End of the program. -/
  | stop
  /-- `A` becomes the parameter. -/
  | getParam (p : AxisParam)
  /-- The parameter becomes the operand. -/
  | setParam (p : AxisParam) (source : Operand)
  /-- `A` becomes the global variable. -/
  | getGlobal (g : GlobalVar)
  /-- The global variable becomes the operand. -/
  | setGlobal (g : GlobalVar) (source : Operand)
  /-- `A` becomes `A op v`. -/
  | calcImm (op : CalcOp) (v : Int32)
  /-- `A` becomes `A op X`. -/
  | calcX (op : CalcOp)
  /-- Compare `A` with `v`. -/
  | comp (v : Int32)
  /-- Jump if the last comparison satisfies the condition. -/
  | jumpIf (c : Condition) (target : Nat)
  /-- Jump. -/
  | jump (target : Nat)
deriving DecidableEq, Repr

namespace Instruction

/-- The target, if the instruction is a jump. -/
def jumpTarget? : Instruction → Option Nat
  | jumpIf _ target | jump target => some target
  | _ => none

/-- The mnemonic line. -/
def text : Instruction → String
  | wait ticks => s!"WAIT TICKS, 0, {ticks.toNat}"
  | stop => "STOP"
  | getParam p => s!"GAP {p.number}, 0"
  | setParam p (.value v) => s!"SAP {p.number}, 0, {v.toInt}"
  | setParam p .accumulator => s!"AAP {p.number}, 0"
  | getGlobal g => s!"GGP {g.number}, {g.bank}"
  | setGlobal g (.value v) => s!"SGP {g.number}, {g.bank}, {v.toInt}"
  | setGlobal g .accumulator => s!"AGP {g.number}, {g.bank}"
  | calcImm op v => s!"CALC {op.mnemonic}, {v.toInt}"
  | calcX op => s!"CALCX {op.mnemonic}"
  | comp v => s!"COMP {v.toInt}"
  | jumpIf c target => s!"JC {c.mnemonic}, {target}"
  | jump target => s!"JA {target}"

instance : ToString Instruction := ⟨text⟩

end Instruction

end FocusDrive
