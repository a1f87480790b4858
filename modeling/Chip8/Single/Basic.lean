/-!
Binary numbers of single precision. A magnitude is known by its rank among the non-negative
numbers in increasing order, zero first and infinity last; neighbours in value are neighbours in
rank. Values are counted in units of the least positive number, two to the power of minus 149.
-/

namespace Chip8

/-- The largest rank is that of infinity. -/
abbrev Rank := Fin 0x7F800001

/-- A not-a-number has no sign. -/
inductive Single
  | nan
  | number (negative : Bool) (magnitude : Rank)
  deriving DecidableEq

namespace Rank

def zero : Rank := 0
def one : Rank := 0x3F800000
def infinity : Rank := 0x7F800000

/-- The value at a rank in units of 2^-149; infinity counts as 2^128. -/
def units (rank : Nat) : Nat :=
  if rank < 0x800000 then rank
  else (0x800000 + rank % 0x800000) <<< (rank / 0x800000 - 1)

/-- The last rank whose value is at most the given number of units. -/
def below (units : Nat) : Nat :=
  let scale := units.log2 - 23
  scale * 0x800000 + units >>> scale

/-- Every rank beyond the finite ones counts as infinity. -/
def cap (rank : Nat) : Rank := ⟨min rank 0x7F800000, by omega⟩

/-- Whether a fraction of units between a rank and the next one rounds to the next one. Halfway
between the two, the even rank is taken. -/
def roundsUp (numerator denominator lower : Nat) : Bool :=
  match compare (2 * numerator) (denominator * (units lower + units (lower + 1))) with
  | .lt => false
  | .eq => lower % 2 == 1
  | .gt => true

/-- The rank nearest to a fraction of units. -/
def nearestUnits (numerator denominator : Nat) : Rank :=
  let lower := below (numerator / denominator)
  cap (lower + (roundsUp numerator denominator lower).toNat)

/-- The rank nearest to a fraction. -/
def nearest (numerator denominator : Nat) : Rank :=
  nearestUnits (numerator <<< 149) denominator

end Rank

namespace Single

def zero : Single := .number false .zero

/-- The closest number of the unit interval, with an unsigned zero; a not-a-number becomes zero. -/
def clampUnit : Single → Single
  | number false magnitude => number false (if magnitude ≤ Rank.one then magnitude else Rank.one)
  | _ => zero

/-- Equality as numbers: both zeros are equal, and a not-a-number differs from itself. -/
def same : Single → Single → Bool
  | number s m, number t n => m == n && (s == t || m == Rank.zero)
  | _, _ => false

end Single

end Chip8
