import Chip8.Text.Hex

/-!
Operand fields of an instruction word and how assembly text shows them. A field is a mask and a
shift; extracting it keeps the masked bits and moves them down.
-/

namespace Chip8

/-- The register, address and immediate fields of the instruction set are below. -/
structure Field where
  mask : UInt16
  shift : UInt16
  deriving DecidableEq

namespace Field

def extract (field : Field) (word : UInt16) : UInt16 := (word &&& field.mask) >>> field.shift

/-- The word that holds a value at the field's place and nothing elsewhere. -/
def place (field : Field) (value : UInt16) : UInt16 := value <<< field.shift

/-- A value fits a field when placing it touches only the field's own bits. -/
def Fits (field : Field) (value : UInt16) : Prop :=
  value.toNat ≤ (field.mask >>> field.shift).toNat

instance (field : Field) (value : UInt16) : Decidable (field.Fits value) :=
  inferInstanceAs (Decidable (_ ≤ _))

def address : Field := ⟨0x0FFF, 0⟩
def x : Field := ⟨0x0F00, 8⟩
def y : Field := ⟨0x00F0, 4⟩
def byte : Field := ⟨0x00FF, 0⟩
def nibble : Field := ⟨0x000F, 0⟩

end Field

/-- One operand of the assembly text: a fixed word or a field in one of the number formats. -/
inductive Operand
  | fixed (name : String)
  | register (field : Field)
  | address
  | byte
  | nibble
  deriving DecidableEq

namespace Operand

def field? : Operand → Option Field
  | fixed _ => none
  | register field => some field
  | address => some .address
  | byte => some .byte
  | nibble => some .nibble

/-- Registers are one upper-case digit, addresses three digits, bytes two, nibbles decimal. -/
def text (word : UInt16) : Operand → String
  | fixed name => name
  | register field => "V" ++ Text.hexUpper (field.extract word).toNat
  | address => Text.hexLiteral 3 (Field.address.extract word).toNat
  | byte => Text.hexLiteral 2 (Field.byte.extract word).toNat
  | nibble => toString (Field.nibble.extract word).toNat

end Operand

end Chip8
