import Chip8.Proofs.DecimalText
import Chip8.Proofs.Rank
import Chip8.Single.Shortest
import Mathlib.Data.List.TakeDrop
import Mathlib.Data.List.TakeWhile

/-!
# The text of a single-precision number

The decimal that is chosen for a number reads back as the number. Every number lies on the finest
grid that is searched, so one is always found, and its written form has the digits and the exponent
that it was made from.
-/

namespace Chip8

namespace Rank

variable {rank : Rank} {digits : Nat} {exponent : Int}

theorem ofDecimal_of_onGrid? (hgrid : rank.onGrid? exponent = some digits) :
    ofDecimal digits exponent = rank := by
  simp only [onGrid?] at hgrid
  split at hgrid
  · rename_i hdown
    obtain rfl := Option.some.inj hgrid
    simp only [Bool.and_eq_true, beq_iff_eq] at hdown
    exact hdown.1
  · split at hgrid
    · rename_i hup
      obtain rfl := Option.some.inj hgrid
      exact beq_iff_eq.mp hup
    · contradiction

theorem ofDecimal_eq_nearest (hdigits : digits ≠ 0)
    (hlow : -46 < exponent + (Nat.toDigits 10 digits).length)
    (hhigh : exponent + (Nat.toDigits 10 digits).length < 40) :
    ofDecimal digits exponent =
      nearest (digits * Nat.pow 10 exponent.toNat) (Nat.pow 10 (-exponent).toNat) := by
  have hzero : ¬(digits = 0 ∨ exponent + (Nat.toDigits 10 digits).length ≤ -46) := by omega
  simp only [ofDecimal, if_neg hzero, if_neg (Int.not_le.mpr hhigh)]

theorem ten_pow_eq : Nat.pow 10 149 = 5 ^ 149 * 2 ^ 149 := by decide

/-- The finest grid holds the values themselves. -/
theorem ofDecimal_units (hpos : 0 < rank.val) (hfinite : rank.val < 0x7F800000) :
    ofDecimal (units rank * 5 ^ 149) (-149) = rank := by
  have hunits := units_pos hpos
  -- The number of digits keeps the value within the range for which the powers are formed.
  have hupper : (Nat.toDigits 10 (units rank * 5 ^ 149)).length ≤ 188 := by
    have hlt := units_lt hfinite
    rw [Nat.length_toDigits_le_iff (by decide) (by decide)]
    omega
  have hlower : ¬(Nat.toDigits 10 (units rank * 5 ^ 149)).length ≤ 104 := by
    rw [Nat.length_toDigits_le_iff (by decide) (by decide)]
    omega
  rw [ofDecimal_eq_nearest (by positivity) (by omega) (by omega)]
  have hnumerator :
      (units rank * 5 ^ 149 * Nat.pow 10 0) <<< 149 = units rank * Nat.pow 10 149 := by
    have hone : Nat.pow 10 0 = 1 := rfl
    rw [ten_pow_eq, hone, Nat.mul_one, Nat.shiftLeft_eq, Nat.mul_assoc]
  exact (congrArg (nearestUnits · (Nat.pow 10 149)) hnumerator).trans
    (nearestUnits_units_mul rank (by decide))

/-- A grid on which the value rounded down reads back is not passed over. -/
theorem isSome_onGrid? (hdown : ofDecimal
      (units rank * Nat.pow 10 (-exponent).toNat / Nat.pow 10 exponent.toNat <<< 149) exponent =
        rank) : (rank.onGrid? exponent).isSome = true := by
  simp only [onGrid?, hdown, beq_self_eq_true, Bool.true_and]
  split
  · rfl
  · rename_i hup
    simp only [Bool.not_eq_true', Bool.not_eq_false, Bool.and_eq_true] at hup
    rw [if_pos hup.1]
    rfl

theorem isSome_onGrid?_finest (hpos : 0 < rank.val) (hfinite : rank.val < 0x7F800000) :
    (rank.onGrid? (-149)).isSome = true := by
  have hexact : units rank * Nat.pow 10 149 / Nat.pow 10 0 <<< 149 = units rank * 5 ^ 149 := by
    have hone : Nat.pow 10 0 = 1 := rfl
    rw [ten_pow_eq, hone, Nat.shiftLeft_eq, Nat.one_mul, ← Nat.mul_assoc,
      Nat.mul_div_cancel _ (Nat.two_pow_pos _)]
  exact isSome_onGrid? ((congrArg (ofDecimal · (-149)) hexact).trans (ofDecimal_units hpos hfinite))

/-- **Shortest decimals.** The search finds a decimal, and it reads back as the number. -/
theorem ofDecimal_shortest (hpos : 0 < rank.val) (hfinite : rank.val < 0x7F800000) :
    ofDecimal rank.shortest.1 rank.shortest.2 = rank := by
  unfold shortest
  cases hsearch : (List.range 188).findSome? fun k =>
      let exponent := 38 - Int.ofNat k
      (rank.onGrid? exponent).map (·, exponent) with
  | none =>
    have hlast := List.findSome?_eq_none_iff.mp hsearch 187 (by decide)
    have hnone : rank.onGrid? (-149) = none := Option.map_eq_none_iff.mp hlast
    have hsome := isSome_onGrid?_finest hpos hfinite
    rw [hnone] at hsome
    contradiction
  | some found =>
    obtain ⟨k, -, hfound⟩ := List.exists_of_findSome?_eq_some hsearch
    obtain ⟨digits, hgrid, rfl⟩ := Option.map_eq_some_iff.mp hfound
    exact ofDecimal_of_onGrid? hgrid

/-- Zeros behind the digits may be counted in the exponent instead. -/
theorem ofDecimal_mul_ten_pow (digits zeros : Nat) :
    ofDecimal (digits * 10 ^ zeros) 0 = ofDecimal digits zeros := by
  by_cases hdigits : digits = 0
  · simp only [hdigits, Nat.zero_mul, ofDecimal, true_or, if_true]
  have hpos : 0 < digits := Nat.pos_of_ne_zero hdigits
  have hne : digits * 10 ^ zeros ≠ 0 := by positivity
  have htop : (0 : Int) + (Nat.toDigits 10 (digits * 10 ^ zeros)).length =
      zeros + (Nat.toDigits 10 digits).length := by
    rw [Text.toDigits_mul_ten_pow hpos, List.length_append, List.length_replicate]
    omega
  have hvalue : digits * 10 ^ zeros * Nat.pow 10 0 = digits * Nat.pow 10 zeros := Nat.mul_one _
  have hcoarse : (-(zeros : Int)).toNat = 0 := by omega
  simp only [ofDecimal, htop, hne, hdigits, hcoarse, hvalue, Int.toNat_natCast, Int.toNat_zero,
    Int.neg_zero]

end Rank

namespace Single

open Text (Digits)

variable {whole fraction cs : List Char} {negative : Bool} {c : Char}

theorem splitExponent_of_digits (hcs : ∀ c ∈ cs, c.isDigit = true ∨ c = '.') :
    splitExponent cs = (cs, none) := by
  have hplain : ∀ c ∈ cs, (c != 'e' && c != 'E') = true := by
    intro c hc
    rcases hcs c hc with hdigit | rfl
    · have hlower : c ≠ 'e' := by rintro rfl; contradiction
      have hupper : c ≠ 'E' := by rintro rfl; contradiction
      simp [hlower, hupper]
    · rfl
  rw [splitExponent, List.span_eq_takeWhile_dropWhile, List.takeWhile_eq_self_iff.mpr hplain,
    List.dropWhile_eq_nil_iff.mpr hplain]

theorem ne_point_of_isDigit (hdigits : ∀ c ∈ cs, c.isDigit = true) :
    ∀ c ∈ cs, (c != '.') = true := by
  intro c hc
  have hne : c ≠ '.' := by
    rintro rfl
    exact absurd (hdigits '.' hc) (by decide)
  simp [hne]

theorem mantissa?_of_digits (hdigits : ∀ c ∈ cs, c.isDigit = true) :
    mantissa? cs = (Text.natural? cs).map (·, 0) := by
  have hpoint := ne_point_of_isDigit hdigits
  rw [mantissa?, List.span_eq_takeWhile_dropWhile, List.takeWhile_eq_self_iff.mpr hpoint,
    List.dropWhile_eq_nil_iff.mpr hpoint]

theorem mantissa?_of_point (hwhole : ∀ c ∈ whole, c.isDigit = true) :
    mantissa? (whole ++ '.' :: fraction) =
      (Text.natural? (whole ++ fraction)).map (·, fraction.length) := by
  have hpoint := ne_point_of_isDigit hwhole
  rw [mantissa?, List.span_eq_takeWhile_dropWhile, List.takeWhile_append_of_pos hpoint,
    List.dropWhile_append_of_pos hpoint]
  simp

/-- A decimal that is written out is read as what it was written from. -/
theorem magnitude?_positional (digits : Nat) (exponent : Int) :
    magnitude? (positional digits exponent).toList = some (Rank.ofDecimal digits exponent) := by
  cases exponent with
  | ofNat zeros =>
    have hdigits := (Text.digits_toDigits digits).append_zeros zeros
    simp only [positional, String.toList_ofList, magnitude?,
      splitExponent_of_digits fun c hc => .inl (hdigits.2 c hc), mantissa?_of_digits hdigits.2,
      Text.natural?_toDigits_append_zeros, Option.map_some]
    exact congrArg some (Rank.ofDecimal_mul_ten_pow digits zeros)
  | negSucc n =>
    generalize hpadded : (Nat.toDigits 10 digits).leftpad (n + 2) '0' = padded
    have hdigits : Digits padded := hpadded ▸ (Text.digits_toDigits digits).zeros_append _
    have hvalue : Text.natural? padded = some digits :=
      hpadded ▸ Text.natural?_zeros_append_toDigits _ digits
    have hlength : n + 2 ≤ padded.length := by
      rw [← hpadded, List.length_leftpad]
      exact Nat.le_max_left _ _
    have htake : ∀ c ∈ padded.take (padded.length - (n + 1)), c.isDigit = true :=
      fun c hc => hdigits.2 c (List.mem_of_mem_take hc)
    have htext : ∀ c ∈ padded.take (padded.length - (n + 1)) ++
        '.' :: padded.drop (padded.length - (n + 1)), c.isDigit = true ∨ c = '.' := by
      intro c hc
      rcases List.mem_append.mp hc with hwhole | hrest
      · exact .inl (htake c hwhole)
      · rcases List.mem_cons.mp hrest with hpoint | hfraction
        · exact .inr hpoint
        · exact .inl (hdigits.2 c (List.mem_of_mem_drop hfraction))
    have hplaces : padded.length - (padded.length - (n + 1)) = n + 1 := by omega
    simp only [positional, hpadded, String.toList_ofList, magnitude?, splitExponent_of_digits htext,
      mantissa?_of_point htake, List.take_append_drop, hvalue, List.length_drop, hplaces,
      Option.map_some]
    rfl

theorem exists_positional_eq_cons (digits : Nat) (exponent : Int) :
    ∃ c cs, (positional digits exponent).toList = c :: cs ∧ c.isDigit = true := by
  have hdigits := Text.digits_toDigits digits
  cases exponent with
  | ofNat zeros =>
    obtain ⟨c, cs, hcons⟩ := List.exists_cons_of_ne_nil hdigits.1
    refine ⟨c, cs ++ List.replicate zeros '0', ?_, hdigits.2 c (by rw [hcons]; simp)⟩
    rw [positional, String.toList_ofList, hcons, List.cons_append]
  | negSucc n =>
    have hpadded : Digits ((Nat.toDigits 10 digits).leftpad (n + 2) '0') := hdigits.zeros_append _
    obtain ⟨c, cs, hcons⟩ := List.exists_cons_of_ne_nil hpadded.1
    have hlength : n + 1 ≤ cs.length := by
      have hle : n + 2 ≤ (c :: cs).length := by
        rw [← hcons, List.length_leftpad]
        exact Nat.le_max_left _ _
      exact Nat.le_of_succ_le_succ hle
    obtain ⟨k, hk⟩ : ∃ k, (c :: cs).length - (n + 1) = k + 1 :=
      ⟨cs.length - (n + 1), by rw [List.length_cons]; omega⟩
    refine ⟨c, cs.take k ++ '.' :: (c :: cs).drop (k + 1), ?_, hpadded.2 c (by rw [hcons]; simp)⟩
    simp only [positional, String.toList_ofList, hcons, hk, List.take_succ_cons, List.cons_append]

theorem toLower_of_isDigit (hdigit : c.isDigit = true) : c.toLower = c := by
  have hnine : c.val ≤ '9'.val := of_decide_eq_true (Bool.and_eq_true_iff.mp hdigit).2
  have hupper : ¬('A'.val ≤ c.val ∧ c.val ≤ 'Z'.val) := fun hle =>
    absurd (UInt32.le_trans hle.1 hnine) (by decide)
  exact dif_neg hupper

/-- A decimal is none of the words. -/
theorem unsigned?_of_isDigit (hdigit : c.isDigit = true) :
    unsigned? negative (c :: cs) = (magnitude? (c :: cs)).map (number negative) := by
  have hword : ∀ d ds, d.isDigit = false →
      String.ofList ((c :: cs).map Char.toLower) ≠ String.ofList (d :: ds) := by
    intro d ds hd heq
    have hlist := congrArg String.toList heq
    rw [String.toList_ofList, String.toList_ofList, List.map_cons, toLower_of_isDigit hdigit,
      List.cons.injEq] at hlist
    rw [hlist.1, hd] at hdigit
    contradiction
  unfold unsigned?
  split
  · rename_i hnan
    exact absurd hnan (hword 'n' ['a', 'n'] rfl)
  · rename_i hinf
    exact absurd hinf (hword 'i' ['n', 'f'] rfl)
  · rename_i hinfinity
    exact absurd hinfinity (hword 'i' ['n', 'f', 'i', 'n', 'i', 't', 'y'] rfl)
  · rfl

theorem read?_of_isDigit {s : String} (htext : s.toList = c :: cs) (hdigit : c.isDigit = true) :
    read? s = unsigned? false (c :: cs) := by
  rw [read?, htext]
  split
  · rename_i hminus
    rw [(List.cons.inj hminus).1] at hdigit
    contradiction
  · rename_i hplus
    rw [(List.cons.inj hplus).1] at hdigit
    contradiction
  · rfl

/-- **Texts of numbers.** Reading the text of a number gives the number. -/
theorem read?_text (value : Single) : read? value.text = some value := by
  cases value with
  | nan => decide
  | number negative rank =>
    by_cases hinfinity : rank = Rank.infinity
    · subst hinfinity
      cases negative <;> decide
    by_cases hzero : rank = Rank.zero
    · subst hzero
      cases negative <;> decide
    have hpos : 0 < rank.val := Nat.pos_of_ne_zero fun hval => hzero (Fin.ext hval)
    have hfinite : rank.val < 0x7F800000 :=
      Nat.lt_of_le_of_ne (Nat.le_of_lt_succ rank.isLt) fun hval => hinfinity (Fin.ext hval)
    obtain ⟨c, cs, hcons, hdigit⟩ := exists_positional_eq_cons rank.shortest.1 rank.shortest.2
    have hunsigned : unsigned? negative (c :: cs) = some (number negative rank) := by
      rw [unsigned?_of_isDigit hdigit, ← hcons, magnitude?_positional,
        Rank.ofDecimal_shortest hpos hfinite, Option.map_some]
    cases negative with
    | false =>
      have htext : (number false rank).text.toList = c :: cs := by
        simp only [text, if_neg hinfinity, if_neg hzero, String.toList_append, hcons]
        rfl
      rw [read?_of_isDigit htext hdigit, hunsigned]
    | true =>
      have htext : (number true rank).text.toList = '-' :: c :: cs := by
        simp only [text, if_neg hinfinity, if_neg hzero, String.toList_append, hcons]
        rfl
      rw [read?, htext]
      exact hunsigned

end Single

end Chip8
