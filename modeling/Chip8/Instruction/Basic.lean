import Chip8.Instruction.Decoded

/-!
Instructions with typed operands, and the instruction that a decoded word stands for.
-/

namespace Chip8

abbrev Register := Fin 16

namespace Register

def v0 : Register := 0

/-- The register that holds the carry, borrow, collision and shifted-out bit. -/
def vf : Register := 15

end Register

/-- What Vx becomes from Vx and Vy. `subFrom` subtracts Vx from Vy. -/
inductive Arithmetic
  | load
  | or
  | and
  | xor
  | add
  | sub
  | shiftRight
  | subFrom
  | shiftLeft
  deriving DecidableEq

/-- When a skip happens. -/
inductive Condition
  | equalByte (x : Register) (byte : UInt8)
  | differentByte (x : Register) (byte : UInt8)
  | equal (x y : Register)
  | different (x y : Register)
  | pressed (x : Register)
  | released (x : Register)
  deriving DecidableEq

inductive Instruction
  | clearScreen
  | ret
  | jump (target : Fin 4096)
  | call (target : Fin 4096)
  | jumpOffset (base : Fin 4096)
  | skip (condition : Condition)
  | loadByte (x : Register) (byte : UInt8)
  | addByte (x : Register) (byte : UInt8)
  | arithmetic (op : Arithmetic) (x y : Register)
  | random (x : Register) (mask : UInt8)
  | draw (x y : Register) (rows : Fin 16)
  | awaitKey (x : Register)
  | readDelay (x : Register)
  | setDelay (x : Register)
  | setSound (x : Register)
  | loadIndex (address : Fin 4096)
  | addIndex (x : Register)
  | loadGlyph (x : Register)
  | storeDecimal (x : Register)
  | storeRegisters (x : Register)
  | loadRegisters (x : Register)
  deriving DecidableEq

namespace Field

theorem extract_toNat_le (field : Field) (word : UInt16) :
    (field.extract word).toNat ≤ field.mask.toNat >>> (field.shift.toNat % 16) := by
  simp only [extract, UInt16.toNat_shiftRight, UInt16.toNat_and, Nat.shiftRight_eq_div_pow]
  exact Nat.div_le_div_right Nat.and_le_right

theorem extract_x_lt (word : UInt16) : (x.extract word).toNat < 16 :=
  Nat.lt_of_le_of_lt (extract_toNat_le x word) (by decide)

theorem extract_y_lt (word : UInt16) : (y.extract word).toNat < 16 :=
  Nat.lt_of_le_of_lt (extract_toNat_le y word) (by decide)

theorem extract_nibble_lt (word : UInt16) : (nibble.extract word).toNat < 16 :=
  Nat.lt_of_le_of_lt (extract_toNat_le nibble word) (by decide)

theorem extract_address_lt (word : UInt16) : (address.extract word).toNat < 4096 :=
  Nat.lt_of_le_of_lt (extract_toNat_le address word) (by decide)

end Field

namespace Operation

/-- The operands are read from the word's fields; fields that the operation lacks are ignored. -/
def instruction (operation : Operation) (word : UInt16) : Instruction :=
  let x : Register := ⟨(Field.x.extract word).toNat, Field.extract_x_lt word⟩
  let y : Register := ⟨(Field.y.extract word).toNat, Field.extract_y_lt word⟩
  let byte := (Field.byte.extract word).toUInt8
  let nibble : Fin 16 := ⟨(Field.nibble.extract word).toNat, Field.extract_nibble_lt word⟩
  let address : Fin 4096 := ⟨(Field.address.extract word).toNat, Field.extract_address_lt word⟩
  match operation with
  | .clearScreen => .clearScreen
  | .ret => .ret
  | .jump => .jump address
  | .call => .call address
  | .skipEqualByte => .skip (.equalByte x byte)
  | .skipDifferentByte => .skip (.differentByte x byte)
  | .skipEqual => .skip (.equal x y)
  | .loadByte => .loadByte x byte
  | .addByte => .addByte x byte
  | .load => .arithmetic .load x y
  | .or => .arithmetic .or x y
  | .and => .arithmetic .and x y
  | .xor => .arithmetic .xor x y
  | .add => .arithmetic .add x y
  | .sub => .arithmetic .sub x y
  | .shiftRight => .arithmetic .shiftRight x y
  | .subFrom => .arithmetic .subFrom x y
  | .shiftLeft => .arithmetic .shiftLeft x y
  | .skipDifferent => .skip (.different x y)
  | .loadIndex => .loadIndex address
  | .jumpOffset => .jumpOffset address
  | .random => .random x byte
  | .draw => .draw x y nibble
  | .skipPressed => .skip (.pressed x)
  | .skipReleased => .skip (.released x)
  | .readDelay => .readDelay x
  | .awaitKey => .awaitKey x
  | .setDelay => .setDelay x
  | .setSound => .setSound x
  | .addIndex => .addIndex x
  | .loadGlyph => .loadGlyph x
  | .storeDecimal => .storeDecimal x
  | .storeRegisters => .storeRegisters x
  | .loadRegisters => .loadRegisters x

end Operation

def Decoded.instruction (decoded : Decoded) : Instruction :=
  decoded.operation.instruction decoded.word

end Chip8
