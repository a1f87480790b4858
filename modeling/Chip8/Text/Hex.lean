/-!
Hexadecimal text of natural numbers. A width is a minimum: shorter numbers get leading zeros and
longer ones are written out in full.
-/

namespace Chip8.Text

def hexDigits (n : Nat) : List Char := Nat.toDigits 16 n

def hex (width n : Nat) : String := String.ofList ((hexDigits n).leftpad width '0')

def hexUpper (n : Nat) : String := String.ofList ((hexDigits n).map Char.toUpper)

/-- The width counts the digits and not the leading `0x`. -/
def hexLiteral (width n : Nat) : String := "0x" ++ hex width n

end Chip8.Text
