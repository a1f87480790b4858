import Chip8.Text.Decimal
import Mathlib.Data.Nat.Digits.Defs

/-!
# Decimal text

The digits of a number read back as the number, zeros in front of them change nothing, and zeros
behind them multiply by powers of ten.
-/

namespace Chip8

namespace Text

/-- A run of digits that is not empty. -/
def Digits (cs : List Char) : Prop := cs ≠ [] ∧ ∀ c ∈ cs, c.isDigit = true

variable {cs ds : List Char}

theorem digits_toDigits (n : Nat) : Digits (Nat.toDigits 10 n) :=
  ⟨Nat.toDigits_ne_nil, fun _ => Nat.isDigit_of_mem_toDigits (by decide) (by decide)⟩

theorem isDigit_of_mem_replicate {n : Nat} {c : Char} (hc : c ∈ List.replicate n '0') :
    c.isDigit = true := by
  obtain ⟨-, rfl⟩ := List.mem_replicate.mp hc
  rfl

theorem Digits.append_zeros (hdigits : Digits cs) (n : Nat) :
    Digits (cs ++ List.replicate n '0') := by
  refine ⟨by simp [hdigits.1], fun c hc => ?_⟩
  rcases List.mem_append.mp hc with hmem | hzero
  · exact hdigits.2 c hmem
  · exact isDigit_of_mem_replicate hzero

theorem Digits.zeros_append (hdigits : Digits cs) (n : Nat) :
    Digits (List.replicate n '0' ++ cs) := by
  refine ⟨by simp [hdigits.1], fun c hc => ?_⟩
  rcases List.mem_append.mp hc with hzero | hmem
  · exact isDigit_of_mem_replicate hzero
  · exact hdigits.2 c hmem

theorem natural?_of_digits (hdigits : Digits cs) :
    natural? cs = some (Nat.ofDigitChars 10 cs 0) := by
  rw [natural?, if_pos ⟨hdigits.1, List.all_eq_true.mpr hdigits.2⟩]

theorem natural?_toDigits (n : Nat) : natural? (Nat.toDigits 10 n) = some n := by
  rw [natural?_of_digits (digits_toDigits n), Nat.ofDigitChars_ten_toDigits]

theorem natural?_zeros_append_toDigits (zeros n : Nat) :
    natural? (List.replicate zeros '0' ++ Nat.toDigits 10 n) = some n := by
  rw [natural?_of_digits ((digits_toDigits n).zeros_append zeros), Nat.ofDigitChars_append,
    Nat.ofDigitChars_replicate_zero, Nat.mul_zero, Nat.ofDigitChars_ten_toDigits]

theorem natural?_toDigits_append_zeros (zeros n : Nat) :
    natural? (Nat.toDigits 10 n ++ List.replicate zeros '0') = some (n * 10 ^ zeros) := by
  rw [natural?_of_digits ((digits_toDigits n).append_zeros zeros), Nat.ofDigitChars_append,
    Nat.ofDigitChars_replicate_zero, Nat.ofDigitChars_ten_toDigits, Nat.mul_comm]

theorem toDigits_mul_ten_pow {n : Nat} (hpos : 0 < n) (zeros : Nat) :
    Nat.toDigits 10 (n * 10 ^ zeros) = Nat.toDigits 10 n ++ List.replicate zeros '0' := by
  induction zeros with
  | zero => simp
  | succ zeros ih =>
    have hshifted : n * 10 ^ (zeros + 1) = 10 * (n * 10 ^ zeros) + 0 := by
      rw [Nat.pow_succ, ← Nat.mul_assoc, Nat.mul_comm, Nat.add_zero]
    rw [hshifted, ← Nat.toDigits_append_toDigits (by decide) (by positivity) (by decide), ih,
      Nat.toDigits_zero, List.append_assoc, List.replicate_succ']

theorem count?_toString (n : UInt32) : count? (toString n.toNat) = some n := by
  have hlist : (toString n.toNat).toList = Nat.toDigits 10 n.toNat := Nat.toList_repr
  rw [count?, hlist]
  -- A digit is no sign, so the text is read whole.
  have hsign : ∀ rest, Nat.toDigits 10 n.toNat ≠ '+' :: rest := by
    intro rest hplus
    have hdigit : '+'.isDigit = true := (digits_toDigits n.toNat).2 '+' (by rw [hplus]; simp)
    contradiction
  split
  · rename_i rest hplus
    exact absurd hplus (hsign rest)
  · have hlt : n.toNat < UInt32.size := n.toNat_lt_size
    simp only [natural?_toDigits, Option.bind_some, if_pos hlt, UInt32.ofNat_toNat]

end Text

end Chip8
