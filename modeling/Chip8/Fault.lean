import Chip8.Text.Quoted

/-!
Everything that can stop a machine or refuse a request, and its wording.
-/

namespace Chip8

/-- An address out of bounds is the last one of its range, or the start of an empty range. -/
inductive Fault
  | outOfBounds (address : UInt64)
  | stackOverflow
  | stackUnderflow
  | unknownOpcode (word address : UInt16)
  | programTooLarge (length : Nat)
  | invalidSetting (key value : String)
  | storage (reason : String)
  deriving DecidableEq

namespace Fault

def message : Fault → String
  | outOfBounds address =>
    "memory access out of bounds at " ++ Text.hexLiteral 4 address.toNat ++
      " (memory size is 0x1000)"
  | stackOverflow => "stack overflow: more than 16 nested CALLs"
  | stackUnderflow => "stack underflow: RET with an empty call stack"
  | unknownOpcode word address =>
    "unknown opcode " ++ Text.hexLiteral 4 word.toNat ++ " at " ++ Text.hexLiteral 4 address.toNat
  | programTooLarge length =>
    "ROM is too large (" ++ toString length ++ " bytes), at most 3584 bytes fit in memory"
  | invalidSetting key value =>
    "invalid value " ++ Text.quote value ++ " for setting " ++ Text.quote key
  | storage reason => "settings store error: " ++ reason

end Fault

end Chip8
