import Chip8.Single.Reading
import Mathlib.Data.Nat.Digits.Defs

/-!
# Ranks and values

The value of a finite rank grows with the rank, so a fraction that equals the value of a rank is
rounded to that rank.
-/

namespace Chip8

namespace Rank

variable {rank : Nat}

theorem units_of_lt (hsmall : rank < 0x800000) : units rank = rank := if_pos hsmall

theorem units_of_ge (hlarge : 0x800000 ≤ rank) :
    units rank = (0x800000 + rank % 0x800000) * 2 ^ (rank / 0x800000 - 1) := by
  rw [units, if_neg (Nat.not_lt_of_le hlarge), Nat.shiftLeft_eq]

/-- A larger rank within one power of two, or the first of the next. -/
theorem units_lt_units_succ (rank : Nat) : units rank < units (rank + 1) := by
  by_cases hsmall : rank + 1 < 0x800000
  · rw [units_of_lt hsmall, units_of_lt (by omega)]
    omega
  by_cases hfirst : rank + 1 = 0x800000
  · rw [hfirst, units_of_lt (by omega), units_of_ge (le_refl _)]
    omega
  have hlarge : 0x800000 ≤ rank := by omega
  rw [units_of_ge hlarge, units_of_ge (Nat.le_succ_of_le hlarge)]
  -- The last rank below a power of two steps up to it, and the spacing doubles from there.
  by_cases hlast : rank % 0x800000 + 1 = 0x800000
  · have hnext : (rank + 1) / 0x800000 - 1 = rank / 0x800000 - 1 + 1 := by omega
    have hrest : (rank + 1) % 0x800000 = 0 := by omega
    have htop : rank % 0x800000 = 0x7FFFFF := by omega
    rw [hnext, hrest, htop, Nat.pow_succ]
    have hpos : 0 < 2 ^ (rank / 0x800000 - 1) := Nat.two_pow_pos _
    omega
  · have hnext : (rank + 1) / 0x800000 = rank / 0x800000 := by omega
    have hrest : (rank + 1) % 0x800000 = rank % 0x800000 + 1 := by omega
    rw [hnext, hrest]
    exact Nat.mul_lt_mul_of_pos_right (by omega) (Nat.two_pow_pos _)

theorem strictMono_units : StrictMono units := strictMono_nat_of_lt_succ units_lt_units_succ

theorem units_one : units one = 2 ^ 149 := rfl

theorem log2_units_of_ge (hlarge : 0x800000 ≤ rank) :
    (units rank).log2 = 23 + (rank / 0x800000 - 1) := by
  have hpos : 0 < 2 ^ (rank / 0x800000 - 1) := Nat.two_pow_pos _
  rw [units_of_ge hlarge, Nat.log2_eq_iff (by positivity), Nat.pow_add, Nat.add_right_comm,
    Nat.pow_add]
  exact ⟨Nat.mul_le_mul_right _ (by omega), Nat.mul_lt_mul_of_pos_right (by omega) hpos⟩

theorem log2_of_lt (hsmall : rank < 0x800000) : rank.log2 - 23 = 0 := by
  by_cases hzero : rank = 0
  · rw [hzero]
    rfl
  · have hlog : rank.log2 < 23 := (Nat.log2_lt hzero).mpr hsmall
    omega

theorem below_units (rank : Nat) : below (units rank) = rank := by
  by_cases hsmall : rank < 0x800000
  · simp only [below, units_of_lt hsmall, log2_of_lt hsmall, Nat.zero_mul, Nat.zero_add,
      Nat.shiftRight_zero]
  · have hlarge : 0x800000 ≤ rank := Nat.le_of_not_lt hsmall
    have hscale : (units rank).log2 - 23 = rank / 0x800000 - 1 := by
      rw [log2_units_of_ge hlarge, Nat.add_sub_cancel_left]
    have hshift : units rank >>> (rank / 0x800000 - 1) = 0x800000 + rank % 0x800000 := by
      rw [units_of_ge hlarge, Nat.shiftRight_eq_div_pow, Nat.mul_div_cancel _ (Nat.two_pow_pos _)]
    simp only [below, hscale, hshift]
    omega

theorem cap_val (rank : Rank) : cap rank = rank :=
  Fin.ext (Nat.min_eq_left (Nat.le_of_lt_succ rank.isLt))

/-- **Exact values.** A fraction that equals the value of a rank is nearest to that rank. -/
theorem nearestUnits_units_mul (rank : Rank) {denominator : Nat} (hpos : 0 < denominator) :
    nearestUnits (units rank * denominator) denominator = rank := by
  have hlt : 2 * (units rank * denominator) < denominator * (units rank + units (rank + 1)) := by
    have hsucc := Nat.mul_lt_mul_of_pos_left (units_lt_units_succ rank) hpos
    rw [Nat.mul_add, Nat.mul_comm denominator (units rank)]
    rw [Nat.mul_comm denominator (units rank)] at hsucc
    omega
  have hdown : roundsUp (units rank * denominator) denominator rank = false := by
    rw [roundsUp, Nat.compare_eq_lt.mpr hlt]
  simp only [nearestUnits, Nat.mul_div_cancel _ hpos, below_units, hdown, Bool.toNat_false,
    Nat.add_zero, cap_val]

theorem units_pos (hpos : 0 < rank) : 0 < units rank := by
  by_cases hsmall : rank < 0x800000
  · rwa [units_of_lt hsmall]
  · rw [units_of_ge (Nat.le_of_not_lt hsmall)]
    positivity

theorem units_lt (hfinite : rank < 0x7F800000) : units rank < 2 ^ 24 * 2 ^ 253 := by
  by_cases hsmall : rank < 0x800000
  · rw [units_of_lt hsmall]
    omega
  · have hscale : 2 ^ (rank / 0x800000 - 1) ≤ 2 ^ 253 :=
      Nat.pow_le_pow_right (by decide) (by omega)
    have hmantissa : 0x800000 + rank % 0x800000 < 2 ^ 24 := by omega
    rw [units_of_ge (Nat.le_of_not_lt hsmall)]
    exact Nat.mul_lt_mul_of_lt_of_le hmantissa hscale (Nat.two_pow_pos _)

end Rank

end Chip8
