import Chip8.Instruction.Table

/-!
Decoding by table. A word decodes to the first entry that accepts it.
-/

namespace Chip8

structure Decoded where
  entry : Entry
  word : UInt16
  deriving DecidableEq

/-- The first of the given entries that accepts the word. -/
def scan (entries : List Entry) (word : UInt16) : Option Decoded :=
  (entries.find? (·.accepts word)).map (⟨·, word⟩)

def decode (word : UInt16) : Option Decoded := scan table word

namespace Decoded

def operation (decoded : Decoded) : Operation := decoded.entry.operation

/-- The values of the operand fields, in the order in which the assembly text names them. -/
def arguments (decoded : Decoded) : List UInt16 :=
  decoded.entry.fields.map (·.extract decoded.word)

/-- The mnemonic, and the operands separated by commas if there are any. -/
def text (decoded : Decoded) : String :=
  match decoded.entry.operands with
  | [] => decoded.entry.mnemonic
  | operands =>
    decoded.entry.mnemonic ++ " " ++ ", ".intercalate (operands.map (·.text decoded.word))

end Decoded

def disassemble (word : UInt16) : Option String := (decode word).map Decoded.text

end Chip8
