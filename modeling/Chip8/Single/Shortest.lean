import Chip8.Single.Reading

/-!
The text of a single-precision number: the decimal with the fewest digits that reads back as the
number, written without an exponent.
-/

namespace Chip8

namespace Rank

/-- The multiple of `10 ^ exponent` that reads back as the rank, if there is one: the value rounded
down or up, the nearer where both do, and up if they are equally near. -/
def onGrid? (rank : Rank) (exponent : Int) : Option Nat :=
  let numerator := units rank * Nat.pow 10 (-exponent).toNat
  let denominator := Nat.pow 10 exponent.toNat <<< 149
  let down := numerator / denominator
  let up := down + 1
  let hits (digits : Nat) : Bool := ofDecimal digits exponent == rank
  if hits down && !(hits up && denominator * (down + up) ≤ 2 * numerator) then some down
  else if hits up then some up
  else none

/-- The coarsest decimal grid with a hit. Every value is a multiple of 10^-149, so the grids end
there, and no finite value reaches 10^39. -/
def shortest (rank : Rank) : Nat × Int :=
  ((List.range 188).findSome? fun k =>
      let exponent := 38 - Int.ofNat k
      (onGrid? rank exponent).map (·, exponent)).getD (0, 0)

end Rank

namespace Single

/-- The digits of `digits * 10 ^ exponent` with the point set, and no point in a whole number. -/
def positional (digits : Nat) (exponent : Int) : String :=
  let cs := Nat.toDigits 10 digits
  match exponent with
  | .ofNat zeros => String.ofList (cs ++ List.replicate zeros '0')
  | .negSucc n =>
    let padded := cs.leftpad (n + 2) '0'
    let whole := padded.length - (n + 1)
    String.ofList (padded.take whole ++ '.' :: padded.drop whole)

def text : Single → String
  | nan => "NaN"
  | number negative magnitude =>
    (if negative then "-" else "") ++
      if magnitude = Rank.infinity then "inf"
      else if magnitude = Rank.zero then "0"
      else positional magnitude.shortest.1 magnitude.shortest.2

end Single

end Chip8
