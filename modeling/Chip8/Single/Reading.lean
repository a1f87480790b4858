import Chip8.Single.Basic
import Chip8.Text.Decimal

/-!
Reading single-precision numbers from decimal text: an optional sign, then digits with an optional
point and exponent, or one of the words for infinity and not-a-number in any case.
-/

namespace Chip8

namespace Rank

/-- The rank nearest to `digits * 10 ^ exponent`. Far outside the range the powers are not formed:
from 10^39 on everything is infinite, and below 10^-46 everything is zero. -/
def ofDecimal (digits : Nat) (exponent : Int) : Rank :=
  let top := exponent + (Nat.toDigits 10 digits).length
  if digits = 0 ∨ top ≤ -46 then zero
  else if 40 ≤ top then infinity
  else nearest (digits * Nat.pow 10 exponent.toNat) (Nat.pow 10 (-exponent).toNat)

end Rank

namespace Single

/-- The digits of an exponent, after at most one sign. -/
def exponent? : List Char → Option Int
  | '-' :: rest => (Text.natural? rest).map fun n => -Int.ofNat n
  | '+' :: rest => (Text.natural? rest).map Int.ofNat
  | cs => (Text.natural? cs).map Int.ofNat

/-- Splits before the first character that ends a mantissa, and drops that character. -/
def splitExponent (cs : List Char) : List Char × Option (List Char) :=
  match cs.span fun c => c != 'e' && c != 'E' with
  | (mantissa, []) => (mantissa, none)
  | (mantissa, _ :: exponent) => (mantissa, some exponent)

/-- Digits with at most one point, and a digit on at least one side of it. The result is the
number without its point and the count of digits after it. -/
def mantissa? (cs : List Char) : Option (Nat × Nat) :=
  match cs.span (· != '.') with
  | (whole, []) => (Text.natural? whole).map (·, 0)
  | (whole, _ :: fraction) => (Text.natural? (whole ++ fraction)).map (·, fraction.length)

def magnitude? (cs : List Char) : Option Rank :=
  match splitExponent cs with
  | (mantissa, none) =>
    (mantissa? mantissa).map fun (digits, places) => Rank.ofDecimal digits (-Int.ofNat places)
  | (mantissa, some exponent) => do
    let (digits, places) ← mantissa? mantissa
    let shift ← exponent? exponent
    return Rank.ofDecimal digits (shift - Int.ofNat places)

/-- Text without its sign. -/
def unsigned? (negative : Bool) (cs : List Char) : Option Single :=
  match String.ofList (cs.map Char.toLower) with
  | "nan" => some nan
  | "inf" | "infinity" => some (number negative Rank.infinity)
  | _ => (magnitude? cs).map (number negative)

def read? (s : String) : Option Single :=
  match s.toList with
  | '-' :: rest => unsigned? true rest
  | '+' :: rest => unsigned? false rest
  | cs => unsigned? false cs

end Single

end Chip8
