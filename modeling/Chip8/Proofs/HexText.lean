import Chip8.Text.Hex
import Mathlib.Data.Nat.Digits.Defs

/-!
# Hexadecimal text

The digits of a number read back as the number, in upper case and after zeros in front as well. So
no two numbers are written alike, whatever the width is that they are filled up to.
-/

namespace Chip8

namespace Text

/-- The value of a hexadecimal digit of either case. -/
def digitValue (c : Char) : Nat :=
  if c.isDigit then c.toNat - '0'.toNat else c.toUpper.toNat - 'A'.toNat + 10

def hexValue (cs : List Char) : Nat := cs.foldl (fun value c => 16 * value + digitValue c) 0

variable {n d : Nat}

theorem digitValue_digitChar (hd : d < 16) : digitValue d.digitChar = d := by
  have hall : ∀ e ∈ List.range 16, digitValue e.digitChar = e := by decide
  exact hall d (List.mem_range.mpr hd)

theorem digitValue_toUpper_digitChar (hd : d < 16) : digitValue d.digitChar.toUpper = d := by
  have hall : ∀ e ∈ List.range 16, digitValue e.digitChar.toUpper = e := by decide
  exact hall d (List.mem_range.mpr hd)

theorem hexDigits_of_lt (hn : n < 16) : hexDigits n = [n.digitChar] := Nat.toDigits_of_lt_base hn

theorem hexDigits_of_ge (hn : 16 ≤ n) :
    hexDigits n = hexDigits (n / 16) ++ [(n % 16).digitChar] := by
  rw [hexDigits, Nat.toDigits_eq_if (by decide), if_neg (Nat.not_lt.mpr hn), hexDigits]

theorem exists_digit_of_mem_hexDigits {c : Char} (hc : c ∈ hexDigits n) :
    ∃ d < 16, c = d.digitChar := by
  induction n using Nat.strong_induction_on with
  | _ n ih =>
    by_cases hn : n < 16
    · rw [hexDigits_of_lt hn] at hc
      exact ⟨n, hn, List.mem_singleton.mp hc⟩
    · rw [hexDigits_of_ge (Nat.not_lt.mp hn)] at hc
      rcases List.mem_append.mp hc with hfront | hlast
      · exact ih (n / 16) (by omega) hfront
      · exact ⟨n % 16, Nat.mod_lt n (by decide), List.mem_singleton.mp hlast⟩

/-- Digits read back as the number, also through a change that keeps the value of each digit. -/
theorem hexValue_map_hexDigits (change : Char → Char)
    (hchange : ∀ d < 16, digitValue (change d.digitChar) = d) (n : Nat) :
    hexValue ((hexDigits n).map change) = n := by
  induction n using Nat.strong_induction_on with
  | _ n ih =>
    by_cases hn : n < 16
    · rw [hexDigits_of_lt hn, List.map_singleton, hexValue, List.foldl_cons, List.foldl_nil,
        hchange n hn]
      omega
    · have hfront : hexValue ((hexDigits (n / 16)).map change) = n / 16 := ih (n / 16) (by omega)
      rw [hexValue] at hfront ⊢
      rw [hexDigits_of_ge (Nat.not_lt.mp hn), List.map_append, List.foldl_append, hfront,
        List.map_singleton, List.foldl_cons, List.foldl_nil,
        hchange (n % 16) (Nat.mod_lt n (by decide))]
      omega

theorem hexValue_zeros_append (zeros : Nat) (cs : List Char) :
    hexValue (List.replicate zeros '0' ++ cs) = hexValue cs := by
  induction zeros with
  | zero => rfl
  | succ zeros ih =>
    rw [← ih, List.replicate_succ, List.cons_append]
    rfl

theorem toList_hexUpper (n : Nat) : (hexUpper n).toList = (hexDigits n).map Char.toUpper :=
  String.toList_ofList

theorem toList_hexLiteral (width n : Nat) :
    (hexLiteral width n).toList = '0' :: 'x' :: (hexDigits n).leftpad width '0' := by
  simp [hexLiteral, hex]

theorem hexUpper_injective : Function.Injective hexUpper := by
  have hread : Function.LeftInverse (fun s => hexValue s.toList) hexUpper := by
    intro n
    calc hexValue (hexUpper n).toList = hexValue ((hexDigits n).map Char.toUpper) := by
          rw [toList_hexUpper]
      _ = n := hexValue_map_hexDigits Char.toUpper (fun _ hd => digitValue_toUpper_digitChar hd) n
  exact hread.injective

theorem hexLiteral_injective (width : Nat) : Function.Injective (hexLiteral width) := by
  have hread : Function.LeftInverse (fun s => hexValue (s.toList.drop 2)) (hexLiteral width) := by
    intro n
    calc hexValue ((hexLiteral width n).toList.drop 2)
        = hexValue ((hexDigits n).leftpad width '0') := by rw [toList_hexLiteral]; rfl
      _ = hexValue (hexDigits n) := hexValue_zeros_append _ _
      _ = hexValue ((hexDigits n).map id) := by rw [List.map_id]
      _ = n := hexValue_map_hexDigits id (fun _ hd => digitValue_digitChar hd) n
  exact hread.injective

end Text

end Chip8
