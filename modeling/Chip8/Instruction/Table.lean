import Chip8.Instruction.Operand
import Chip8.Instruction.Operation

/-!
The instruction table. An entry fixes the bits under its mask to its pattern; the operand fields
take the remaining bits.
-/

namespace Chip8

structure Entry where
  operation : Operation
  mnemonic : String
  mask : UInt16
  pattern : UInt16
  operands : List Operand
  deriving DecidableEq

namespace Entry

/-- The operand fields in the order in which the assembly text names them. -/
def fields (entry : Entry) : List Field := entry.operands.filterMap Operand.field?

def accepts (entry : Entry) (word : UInt16) : Bool := word &&& entry.mask == entry.pattern

/-- The word of an entry with the given operand values; missing values are zero. -/
def assemble (entry : Entry) (values : List UInt16) : UInt16 :=
  (entry.fields.zipWith Field.place values).foldl (· ||| ·) entry.pattern

end Entry

private def vx : Operand := .register .x
private def vy : Operand := .register .y

/-- Each operation has exactly one entry, and no word is accepted by two of them. -/
def table : List Entry := [
  ⟨.clearScreen, "CLS", 0xFFFF, 0x00E0, []⟩,
  ⟨.ret, "RET", 0xFFFF, 0x00EE, []⟩,
  ⟨.jump, "JP", 0xF000, 0x1000, [.address]⟩,
  ⟨.call, "CALL", 0xF000, 0x2000, [.address]⟩,
  ⟨.skipEqualByte, "SE", 0xF000, 0x3000, [vx, .byte]⟩,
  ⟨.skipDifferentByte, "SNE", 0xF000, 0x4000, [vx, .byte]⟩,
  ⟨.skipEqual, "SE", 0xF00F, 0x5000, [vx, vy]⟩,
  ⟨.loadByte, "LD", 0xF000, 0x6000, [vx, .byte]⟩,
  ⟨.addByte, "ADD", 0xF000, 0x7000, [vx, .byte]⟩,
  ⟨.load, "LD", 0xF00F, 0x8000, [vx, vy]⟩,
  ⟨.or, "OR", 0xF00F, 0x8001, [vx, vy]⟩,
  ⟨.and, "AND", 0xF00F, 0x8002, [vx, vy]⟩,
  ⟨.xor, "XOR", 0xF00F, 0x8003, [vx, vy]⟩,
  ⟨.add, "ADD", 0xF00F, 0x8004, [vx, vy]⟩,
  ⟨.sub, "SUB", 0xF00F, 0x8005, [vx, vy]⟩,
  ⟨.shiftRight, "SHR", 0xF00F, 0x8006, [vx, vy]⟩,
  ⟨.subFrom, "SUBN", 0xF00F, 0x8007, [vx, vy]⟩,
  ⟨.shiftLeft, "SHL", 0xF00F, 0x800E, [vx, vy]⟩,
  ⟨.skipDifferent, "SNE", 0xF00F, 0x9000, [vx, vy]⟩,
  ⟨.loadIndex, "LD", 0xF000, 0xA000, [.fixed "I", .address]⟩,
  ⟨.jumpOffset, "JP", 0xF000, 0xB000, [.fixed "V0", .address]⟩,
  ⟨.random, "RND", 0xF000, 0xC000, [vx, .byte]⟩,
  ⟨.draw, "DRW", 0xF000, 0xD000, [vx, vy, .nibble]⟩,
  ⟨.skipPressed, "SKP", 0xF0FF, 0xE09E, [vx]⟩,
  ⟨.skipReleased, "SKNP", 0xF0FF, 0xE0A1, [vx]⟩,
  ⟨.readDelay, "LD", 0xF0FF, 0xF007, [vx, .fixed "DT"]⟩,
  ⟨.awaitKey, "LD", 0xF0FF, 0xF00A, [vx, .fixed "K"]⟩,
  ⟨.setDelay, "LD", 0xF0FF, 0xF015, [.fixed "DT", vx]⟩,
  ⟨.setSound, "LD", 0xF0FF, 0xF018, [.fixed "ST", vx]⟩,
  ⟨.addIndex, "ADD", 0xF0FF, 0xF01E, [.fixed "I", vx]⟩,
  ⟨.loadGlyph, "LD", 0xF0FF, 0xF029, [.fixed "F", vx]⟩,
  ⟨.storeDecimal, "LD", 0xF0FF, 0xF033, [.fixed "B", vx]⟩,
  ⟨.storeRegisters, "LD", 0xF0FF, 0xF055, [.fixed "[I]", vx]⟩,
  ⟨.loadRegisters, "LD", 0xF0FF, 0xF065, [vx, .fixed "[I]"]⟩]

end Chip8
