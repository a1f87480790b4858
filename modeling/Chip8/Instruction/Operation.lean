/-!
The thirty-four operations of the instruction set, without their operands.
-/

namespace Chip8

/-- Names ending in `Byte` take an immediate byte where the name without it takes a register. -/
inductive Operation
  | clearScreen
  | ret
  | jump
  | call
  | skipEqualByte
  | skipDifferentByte
  | skipEqual
  | loadByte
  | addByte
  | load
  | or
  | and
  | xor
  | add
  | sub
  | shiftRight
  | subFrom
  | shiftLeft
  | skipDifferent
  | loadIndex
  | jumpOffset
  | random
  | draw
  | skipPressed
  | skipReleased
  | readDelay
  | awaitKey
  | setDelay
  | setSound
  | addIndex
  | loadGlyph
  | storeDecimal
  | storeRegisters
  | loadRegisters
  deriving DecidableEq

end Chip8
