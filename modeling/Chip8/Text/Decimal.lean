/-!
Decimal text of natural numbers, as settings hold it: ASCII digits only, no blanks and no
separators.
-/

namespace Chip8.Text

/-- The value of a non-empty run of digits. -/
def natural? (cs : List Char) : Option Nat :=
  if cs ≠ [] ∧ cs.all Char.isDigit then some (Nat.ofDigitChars 10 cs 0) else none

/-- A 32-bit count: digits, after at most one plus sign. -/
def count? (s : String) : Option UInt32 :=
  let digits := match s.toList with
    | '+' :: rest => rest
    | cs => cs
  (natural? digits).bind fun n => if n < UInt32.size then some (UInt32.ofNat n) else none

end Chip8.Text
