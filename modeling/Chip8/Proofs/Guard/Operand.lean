import Chip8.Instruction.Basic
import Chip8.Proofs.Decoding
import Chip8.Proofs.Guard.Access

/-!
# Guarded operands

A decoded word keeps the values of its operands in three cells, and an operation asks for them by
position. The table gives each operation all the operands that it asks for, each with the field
that it expects at that position.
-/

namespace Chip8

namespace Operation

/-- The operands of the assembly text of an operation. -/
def operands : Operation → List Operand
  | clearScreen | ret => []
  | jump | call => [.address]
  | loadIndex => [.fixed "I", .address]
  | jumpOffset => [.fixed "V0", .address]
  | skipEqualByte | skipDifferentByte | loadByte | addByte | random => [.register .x, .byte]
  | skipEqual | skipDifferent | load | or | and | xor | add | sub | shiftRight | subFrom
  | shiftLeft => [.register .x, .register .y]
  | draw => [.register .x, .register .y, .nibble]
  | skipPressed | skipReleased => [.register .x]
  | readDelay => [.register .x, .fixed "DT"]
  | awaitKey => [.register .x, .fixed "K"]
  | setDelay => [.fixed "DT", .register .x]
  | setSound => [.fixed "ST", .register .x]
  | addIndex => [.fixed "I", .register .x]
  | loadGlyph => [.fixed "F", .register .x]
  | storeDecimal => [.fixed "B", .register .x]
  | storeRegisters => [.fixed "[I]", .register .x]
  | loadRegisters => [.register .x, .fixed "[I]"]

def fields (operation : Operation) : List Field := operation.operands.filterMap Operand.field?

theorem length_fields_le (operation : Operation) : operation.fields.length ≤ 3 := by
  cases operation <;> decide

theorem shift_lt (operation : Operation) : ∀ field ∈ operation.fields, field.shift.toNat < 16 := by
  cases operation <;> decide

end Operation

theorem Entry.operands_eq : ∀ entry ∈ table, entry.operands = entry.operation.operands := by decide

theorem Entry.fields_eq {entry : Entry} (hentry : entry ∈ table) :
    entry.fields = entry.operation.fields :=
  congrArg (List.filterMap Operand.field?) (operands_eq entry hentry)

def Field.guardedExtract (word : UInt16) (field : Field) : Option UInt16 :=
  Guard.shiftRight16 (word &&& field.mask) field.shift

namespace Decoded

def x (decoded : Decoded) : Register :=
  ⟨(Field.x.extract decoded.word).toNat, Field.extract_x_lt decoded.word⟩

def y (decoded : Decoded) : Register :=
  ⟨(Field.y.extract decoded.word).toNat, Field.extract_y_lt decoded.word⟩

/-- The three cells, of which the operation has the first ones. -/
def guardedCells (decoded : Decoded) : Option (List UInt16) := do
  let values ← (decoded.entry.fields.take 3).mapM (Field.guardedExtract decoded.word)
  return values ++ List.replicate (3 - values.length) 0

def guardedArguments (decoded : Decoded) : Option (List UInt16) := do
  Guard.slice (← decoded.guardedCells) 0 decoded.entry.fields.length

def guardedArgument (decoded : Decoded) (n : Nat) : Option UInt16 := do
  (← decoded.guardedArguments)[n]?

/-- The texts of the operands, with the values that the operation asks for by position. -/
def guardedOperandTexts (decoded : Decoded) : Option (List String) := do
  match decoded.operation with
  | .clearScreen | .ret => return []
  | .jump | .call => return [← address 0]
  | .loadIndex => return ["I", ← address 0]
  | .jumpOffset => return ["V0", ← address 0]
  | .skipEqualByte | .skipDifferentByte | .loadByte | .addByte | .random =>
    return [← register 0, ← byte 1]
  | .skipEqual | .skipDifferent | .load | .or | .and | .xor | .add | .sub | .shiftRight | .subFrom
  | .shiftLeft => return [← register 0, ← register 1]
  | .draw => return [← register 0, ← register 1, ← nibble 2]
  | .skipPressed | .skipReleased => return [← register 0]
  | .readDelay => return [← register 0, "DT"]
  | .awaitKey => return [← register 0, "K"]
  | .setDelay => return ["DT", ← register 0]
  | .setSound => return ["ST", ← register 0]
  | .addIndex => return ["I", ← register 0]
  | .loadGlyph => return ["F", ← register 0]
  | .storeDecimal => return ["B", ← register 0]
  | .storeRegisters => return ["[I]", ← register 0]
  | .loadRegisters => return [← register 0, "[I]"]
where
  register (n : Nat) : Option String :=
    return "V" ++ Text.hexUpper (← decoded.guardedArgument n).toNat
  address (n : Nat) : Option String :=
    return Text.hexLiteral 3 (← decoded.guardedArgument n).toNat
  byte (n : Nat) : Option String := return Text.hexLiteral 2 (← decoded.guardedArgument n).toNat
  nibble (n : Nat) : Option String := return toString (← decoded.guardedArgument n).toNat

def guardedText (decoded : Decoded) : Option String :=
  return match ← decoded.guardedOperandTexts with
    | [] => decoded.entry.mnemonic
    | texts => decoded.entry.mnemonic ++ " " ++ ", ".intercalate texts

variable {decoded : Decoded} (hentry : decoded.entry ∈ table)
include hentry

theorem guardedArguments_eq : decoded.guardedArguments = some decoded.arguments := by
  have hfields := Entry.fields_eq hentry
  have hlength : decoded.entry.fields.length ≤ 3 := by
    rw [hfields]
    exact Operation.length_fields_le _
  have hextract : decoded.entry.fields.mapM (Field.guardedExtract decoded.word) =
      some decoded.arguments := by
    refine Guard.mapM_eq_some fun field hfield => if_pos ?_
    rw [hfields] at hfield
    exact Operation.shift_lt _ field hfield
  have hslice (rest : List UInt16) :
      Guard.slice (decoded.arguments ++ rest) 0 decoded.entry.fields.length =
        some decoded.arguments := by
    have hcount : decoded.arguments.length = decoded.entry.fields.length := List.length_map _
    rw [Guard.slice_of_le (Nat.zero_le _) (by rw [List.length_append]; omega), ← hcount,
      List.take_left, List.drop_zero]
  rw [guardedArguments, guardedCells, List.take_of_length_le hlength, hextract]
  exact hslice _

theorem guardedArgument_eq (n : Nat) :
    decoded.guardedArgument n =
      (decoded.operation.fields.map (·.extract decoded.word))[n]? := by
  rw [guardedArgument, guardedArguments_eq hentry, operation, ← Entry.fields_eq hentry]
  rfl

theorem guardedOperandTexts_eq :
    decoded.guardedOperandTexts =
      some (decoded.entry.operands.map (·.text decoded.word)) := by
  have hoperands := Entry.operands_eq _ hentry
  have hargument := guardedArgument_eq hentry
  rw [hoperands]
  change decoded.guardedOperandTexts = some (decoded.operation.operands.map _)
  simp only [guardedOperandTexts, guardedOperandTexts.register, guardedOperandTexts.address,
    guardedOperandTexts.byte, guardedOperandTexts.nibble, hargument]
  cases decoded.operation <;> rfl

theorem guardedText_eq : decoded.guardedText = some decoded.text := by
  rw [guardedText, guardedOperandTexts_eq hentry, text]
  cases decoded.entry.operands <;> rfl

end Decoded

end Chip8
