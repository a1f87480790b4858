import Chip8.Instruction.Decoded
import Mathlib.Algebra.Group.Nat.Defs
import Mathlib.Data.List.Forall2

/-!
# Decoding and assembling

The bits of a word that an entry does not fix are shared out among its operand fields, each a run of
bits of its own. So a word that an entry accepts is its pattern with the operands in their places,
and operands that fit come back from the word that is assembled from them. No two entries accept the
same word, so the order of the table does not matter.
-/

namespace Chip8

namespace Word

theorem and_or_distrib_left (a b c : UInt16) : a &&& (b ||| c) = a &&& b ||| a &&& c := by
  rw [← UInt16.toNat_inj]
  simp only [UInt16.toNat_and, UInt16.toNat_or, Nat.and_or_distrib_left]

theorem and_or_distrib_right (a b c : UInt16) : (a ||| b) &&& c = a &&& c ||| b &&& c := by
  rw [UInt16.and_comm, and_or_distrib_left, UInt16.and_comm c a, UInt16.and_comm c b]

end Word

/-! ### Fields -/

namespace Field

variable {field : Field} {value : UInt16} {width : Nat}

/-- The mask is a run of ones of the given width that begins at the shift. -/
structure Spans (field : Field) (width : Nat) : Prop where
  shift_lt : field.shift.toNat < 16
  end_le : field.shift.toNat + width ≤ 16
  mask_eq : field.mask.toNat = (2 ^ width - 1) <<< field.shift.toNat

def Contiguous (field : Field) : Prop := ∃ width, field.Spans width

theorem contiguous_of_mem (hfield : field ∈ [address, x, y, byte, nibble]) :
    field.Contiguous := by
  simp only [List.mem_cons, List.not_mem_nil, or_false] at hfield
  obtain rfl | rfl | rfl | rfl | rfl := hfield
  · exact ⟨12, by decide, by decide, by decide⟩
  · exact ⟨4, by decide, by decide, by decide⟩
  · exact ⟨4, by decide, by decide, by decide⟩
  · exact ⟨8, by decide, by decide, by decide⟩
  · exact ⟨4, by decide, by decide, by decide⟩

namespace Spans

variable (hspans : field.Spans width)
include hspans

theorem testBit_mask (i : Nat) :
    field.mask.toNat.testBit i =
      (decide (field.shift.toNat ≤ i) && decide (i - field.shift.toNat < width)) := by
  rw [hspans.mask_eq, Nat.testBit_shiftLeft, Nat.testBit_two_pow_sub_one]

theorem testBit_place (value : UInt16) (i : Nat) :
    (field.place value).toNat.testBit i =
      (decide (i < 16) && (decide (field.shift.toNat ≤ i) &&
        value.toNat.testBit (i - field.shift.toNat))) := by
  rw [place, UInt16.toNat_shiftLeft, Nat.mod_eq_of_lt hspans.shift_lt, Nat.testBit_mod_two_pow,
    Nat.testBit_shiftLeft]

theorem testBit_shiftRight (word : UInt16) (i : Nat) :
    (word >>> field.shift).toNat.testBit i = word.toNat.testBit (field.shift.toNat + i) := by
  rw [UInt16.toNat_shiftRight, Nat.mod_eq_of_lt hspans.shift_lt, Nat.testBit_shiftRight]

/-- Values that fit have no bits beyond the width of the mask. -/
theorem lt_of_testBit {i : Nat} (hfits : field.Fits value)
    (hbit : value.toNat.testBit i = true) : i < width := by
  have hmost : (field.mask >>> field.shift).toNat = 2 ^ width - 1 := by
    rw [UInt16.toNat_shiftRight, Nat.mod_eq_of_lt hspans.shift_lt, hspans.mask_eq,
      Nat.shiftLeft_shiftRight]
  have hle : value.toNat ≤ 2 ^ width - 1 := hmost ▸ hfits
  by_contra hwide
  have hpow : 2 ^ width ≤ 2 ^ i := Nat.pow_le_pow_right (by decide) (Nat.not_lt.mp hwide)
  have hpos : 0 < 2 ^ width := Nat.two_pow_pos width
  rw [Nat.testBit_lt_two_pow (by omega)] at hbit
  contradiction

end Spans

theorem place_extract (hfield : field.Contiguous) (word : UInt16) :
    field.place (field.extract word) = word &&& field.mask := by
  obtain ⟨width, hspans⟩ := hfield
  have hend := hspans.end_le
  refine UInt16.toNat_inj.mp (Nat.eq_of_testBit_eq fun i => ?_)
  rw [hspans.testBit_place, extract, hspans.testBit_shiftRight]
  simp only [UInt16.toNat_and, Nat.testBit_and, hspans.testBit_mask]
  by_cases hlow : field.shift.toNat ≤ i
  · rw [Nat.add_sub_cancel' hlow]
    by_cases hhigh : i - field.shift.toNat < width
    · have hi : i < 16 := by omega
      simp [hlow, hhigh, hi]
    · simp [hhigh]
  · simp [hlow]

theorem Fits.place_and_mask (hfits : field.Fits value) (hfield : field.Contiguous) :
    field.place value &&& field.mask = field.place value := by
  obtain ⟨width, hspans⟩ := hfield
  refine UInt16.toNat_inj.mp (Nat.eq_of_testBit_eq fun i => ?_)
  rw [UInt16.toNat_and, Nat.testBit_and, hspans.testBit_place, hspans.testBit_mask]
  cases hbit : value.toNat.testBit (i - field.shift.toNat) with
  | false => simp
  | true =>
    have hhigh := hspans.lt_of_testBit hfits hbit
    by_cases hlow : field.shift.toNat ≤ i <;> simp [hlow, hhigh]

theorem Fits.place_shiftRight (hfits : field.Fits value) (hfield : field.Contiguous) :
    field.place value >>> field.shift = value := by
  obtain ⟨width, hspans⟩ := hfield
  have hend := hspans.end_le
  refine UInt16.toNat_inj.mp (Nat.eq_of_testBit_eq fun i => ?_)
  rw [hspans.testBit_shiftRight, hspans.testBit_place, Nat.add_sub_cancel_left]
  cases hbit : value.toNat.testBit i with
  | false => simp
  | true =>
    have hi : field.shift.toNat + i < 16 := by
      have hlt := hspans.lt_of_testBit hfits hbit
      omega
    simp [hi]

theorem Fits.place_and_eq_zero {bits : UInt16} (hfits : field.Fits value)
    (hfield : field.Contiguous) (hapart : field.mask &&& bits = 0) :
    field.place value &&& bits = 0 := by
  rw [← hfits.place_and_mask hfield, UInt16.and_assoc, hapart, UInt16.and_zero]

/-- Values placed into fields, on top of the bits of a word. -/
def placeAll (fields : List Field) (values : List UInt16) (bits : UInt16) : UInt16 :=
  (fields.zipWith place values).foldl (· ||| ·) bits

variable {fields : List Field} {values : List UInt16} {bits : UInt16}

theorem placeAll_cons (field : Field) (fields : List Field) (value : UInt16)
    (values : List UInt16) (bits : UInt16) :
    placeAll (field :: fields) (value :: values) bits =
      placeAll fields values (bits ||| field.place value) := rfl

/-- What fields hold of a word is the part of it under their masks. -/
theorem placeAll_extract (hfields : ∀ field ∈ fields, field.Contiguous) (word bits : UInt16) :
    placeAll fields (fields.map (·.extract word)) (word &&& bits) =
      word &&& fields.foldl (fun covered field => covered ||| field.mask) bits := by
  induction fields generalizing bits with
  | nil => rfl
  | cons field fields ih =>
    obtain ⟨hfield, hfields⟩ := List.forall_mem_cons.mp hfields
    rw [List.map_cons, placeAll_cons, place_extract hfield, ← Word.and_or_distrib_left, ih hfields,
      List.foldl_cons]

theorem placeAll_and (hfields : ∀ field ∈ fields, field.Contiguous)
    (hfits : List.Forall₂ Fits fields values) {mask : UInt16}
    (hapart : ∀ field ∈ fields, field.mask &&& mask = 0) (bits : UInt16) :
    placeAll fields values bits &&& mask = bits &&& mask := by
  induction hfits generalizing bits with
  | nil => rfl
  | cons hfirst _ ih =>
    obtain ⟨hfield, hfields⟩ := List.forall_mem_cons.mp hfields
    obtain ⟨hnone, hapart⟩ := List.forall_mem_cons.mp hapart
    rw [placeAll_cons, ih hfields hapart, Word.and_or_distrib_right,
      hfirst.place_and_eq_zero hfield hnone, UInt16.or_zero]

/-- Fields that share no bits hold what is placed into them. -/
theorem extract_placeAll (hfields : ∀ field ∈ fields, field.Contiguous)
    (hfits : List.Forall₂ Fits fields values)
    (hdisjoint : fields.Pairwise fun field other => other.mask &&& field.mask = 0)
    (hfree : ∀ field ∈ fields, bits &&& field.mask = 0) :
    fields.map (·.extract (placeAll fields values bits)) = values := by
  induction hfits generalizing bits with
  | nil => rfl
  | @cons field value fields values hfirst hrest ih =>
    obtain ⟨hfield, hfields⟩ := List.forall_mem_cons.mp hfields
    obtain ⟨hapart, hdisjoint⟩ := List.pairwise_cons.mp hdisjoint
    obtain ⟨hnone, hfree⟩ := List.forall_mem_cons.mp hfree
    have hvalue : field.extract (placeAll fields values (bits ||| field.place value)) = value := by
      rw [extract, placeAll_and hfields hrest hapart, Word.and_or_distrib_right, hnone,
        hfirst.place_and_mask hfield, UInt16.zero_or, hfirst.place_shiftRight hfield]
    have hstill : ∀ other ∈ fields, (bits ||| field.place value) &&& other.mask = 0 := by
      intro other hother
      rw [Word.and_or_distrib_right, hfree other hother, UInt16.zero_or]
      refine hfirst.place_and_eq_zero hfield ?_
      rw [UInt16.and_comm, hapart other hother]
    rw [placeAll_cons, List.map_cons, hvalue, ih hfields hdisjoint hstill]

end Field

/-! ### Entries -/

namespace Entry

variable {entry : Entry} {word : UInt16} {values : List UInt16}

/-- Every bit of a word belongs to the pattern or to exactly one of the fields. -/
structure Complete (entry : Entry) : Prop where
  pattern : entry.pattern &&& entry.mask = entry.pattern
  apart : ∀ field ∈ entry.fields, field.mask &&& entry.mask = 0
  disjoint : entry.fields.Pairwise fun field other => other.mask &&& field.mask = 0
  covers : entry.fields.foldl (fun bits field => bits ||| field.mask) entry.mask = 0xFFFF
  contiguous : ∀ field ∈ entry.fields, field.Contiguous

theorem complete_of_mem_table (hentry : entry ∈ table) : entry.Complete where
  pattern := by
    revert entry
    decide
  apart := by
    revert entry
    decide
  disjoint := by
    revert entry
    decide
  covers := by
    revert entry
    decide
  contiguous field hfield := by
    have hfields : ∀ entry ∈ table, ∀ field ∈ entry.fields,
        field ∈ [Field.address, .x, .y, .byte, .nibble] := by decide
    exact Field.contiguous_of_mem (hfields entry hentry field hfield)

theorem Complete.assemble_extract (hcomplete : entry.Complete) (haccepts : entry.accepts word) :
    entry.assemble (entry.fields.map (·.extract word)) = word := by
  have hpattern : word &&& entry.mask = entry.pattern := beq_iff_eq.mp haccepts
  have hall : word &&& 0xFFFF = word := UInt16.and_neg_one
  have hplaced := Field.placeAll_extract hcomplete.contiguous word entry.mask
  rw [hpattern, hcomplete.covers, hall] at hplaced
  exact hplaced

theorem Complete.accepts_assemble (hcomplete : entry.Complete)
    (hfits : List.Forall₂ Field.Fits entry.fields values) :
    entry.accepts (entry.assemble values) := by
  have hmasked : entry.assemble values &&& entry.mask = entry.pattern &&& entry.mask :=
    Field.placeAll_and hcomplete.contiguous hfits hcomplete.apart entry.pattern
  exact beq_iff_eq.mpr (hmasked.trans hcomplete.pattern)

theorem Complete.extract_assemble (hcomplete : entry.Complete)
    (hfits : List.Forall₂ Field.Fits entry.fields values) :
    entry.fields.map (·.extract (entry.assemble values)) = values := by
  refine Field.extract_placeAll hcomplete.contiguous hfits hcomplete.disjoint fun field hfield => ?_
  rw [← hcomplete.pattern, UInt16.and_assoc, UInt16.and_comm entry.mask,
    hcomplete.apart field hfield, UInt16.and_zero]

/-- Two entries that accept one word agree where they both fix bits, and no two of the table do. -/
theorem eq_of_accepts {other : Entry} (hentry : entry ∈ table) (hother : other ∈ table)
    (haccepts : entry.accepts word) (hagain : other.accepts word) : entry = other := by
  have hexclusive : ∀ a ∈ table, ∀ b ∈ table,
      a.pattern &&& b.mask = b.pattern &&& a.mask → a = b := by decide
  have hpattern : word &&& entry.mask = entry.pattern := beq_iff_eq.mp haccepts
  have hpattern' : word &&& other.mask = other.pattern := beq_iff_eq.mp hagain
  refine hexclusive entry hentry other hother ?_
  rw [← hpattern, ← hpattern', UInt16.and_assoc, UInt16.and_assoc, UInt16.and_comm entry.mask]

end Entry

/-! ### Words -/

variable {entries : List Entry} {word : UInt16} {decoded : Decoded}

theorem scan_eq_some_iff (hperm : entries.Perm table) :
    scan entries word = some decoded ↔
      decoded.entry ∈ table ∧ decoded.entry.accepts word = true ∧ decoded.word = word := by
  constructor
  · intro hscan
    obtain ⟨entry, hfound, rfl⟩ := Option.map_eq_some_iff.mp hscan
    have haccepts : entry.accepts word = true :=
      List.find?_some (p := fun e : Entry => e.accepts word) hfound
    exact ⟨hperm.mem_iff.mp (List.mem_of_find?_eq_some hfound), haccepts, rfl⟩
  · rintro ⟨hentry, haccepts, rfl⟩
    cases hfound : entries.find? (·.accepts decoded.word) with
    | none =>
      have hnone := List.find?_eq_none.mp hfound decoded.entry (hperm.mem_iff.mpr hentry)
      exact absurd haccepts hnone
    | some entry =>
      have hmem : entry ∈ table := hperm.mem_iff.mp (List.mem_of_find?_eq_some hfound)
      have hagain : entry.accepts decoded.word = true :=
        List.find?_some (p := fun e : Entry => e.accepts decoded.word) hfound
      rw [scan, hfound, Entry.eq_of_accepts hmem hentry hagain haccepts]
      rfl

theorem decode_eq_some_iff :
    decode word = some decoded ↔
      decoded.entry ∈ table ∧ decoded.entry.accepts word = true ∧ decoded.word = word :=
  scan_eq_some_iff (.refl table)

theorem scan_perm (hperm : entries.Perm table) (word : UInt16) :
    scan entries word = decode word :=
  Option.ext fun _ => (scan_eq_some_iff hperm).trans decode_eq_some_iff.symm

/-- **Decoding.** In whatever order the entries of the table are tried, a word decodes to the same
instruction or to none. The pattern and the arguments of a decoded word make up the word, and the
word that is assembled from an entry and values that fit its fields decodes to that entry with those
values for its arguments. -/
theorem decoding_loses_nothing_in_any_order :
    table.length = 34 ∧
      (∀ (entries : List Entry) (word : UInt16), entries.Perm table →
        scan entries word = decode word) ∧
      (∀ (word : UInt16) (decoded : Decoded), decode word = some decoded →
        decoded.entry ∈ table ∧ decoded.word = word ∧
          decoded.entry.assemble decoded.arguments = word) ∧
      ∀ entry ∈ table, ∀ values, List.Forall₂ Field.Fits entry.fields values →
        ∃ decoded, decode (entry.assemble values) = some decoded ∧ decoded.entry = entry ∧
          decoded.word = entry.assemble values ∧ decoded.arguments = values := by
  refine ⟨rfl, fun entries word hperm => scan_perm hperm word, ?_, ?_⟩
  · intro word decoded hdecode
    obtain ⟨hentry, haccepts, rfl⟩ := decode_eq_some_iff.mp hdecode
    exact ⟨hentry, rfl, (Entry.complete_of_mem_table hentry).assemble_extract haccepts⟩
  · intro entry hentry values hfits
    have hcomplete := Entry.complete_of_mem_table hentry
    exact ⟨⟨entry, entry.assemble values⟩,
      decode_eq_some_iff.mpr ⟨hentry, hcomplete.accepts_assemble hfits, rfl⟩, rfl, rfl,
      hcomplete.extract_assemble hfits⟩

example : (decode 0xD12F).map Decoded.arguments = some [0x1, 0x2, 0xF] := by decide

end Chip8
