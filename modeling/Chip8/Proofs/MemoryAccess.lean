import Chip8.Machine.Memory
import Chip8.Proofs.Calls

/-!
# Checked memory access

An access succeeds exactly when its range ends within memory, counted without wrapping, and
otherwise reports the last address of the range. Each accessor has one equation that says so.
-/

namespace Chip8

section Refusal

variable {α β : Type} {outcome : Except Fault α} {next : α → Except Fault β} {fault : Fault}

theorem bind_eq_error_iff :
    (outcome >>= next) = .error fault ↔
      outcome = .error fault ∨ ∃ a, outcome = .ok a ∧ next a = .error fault := by
  cases outcome <;> simp [bind, Except.bind]

/-- What cannot fail adds no faults to what comes before it. -/
theorem bind_eq_error_iff_of_ok (hok : ∀ a, ∃ b, next a = .ok b) :
    (outcome >>= next) = .error fault ↔ outcome = .error fault := by
  rw [bind_eq_error_iff]
  constructor
  · rintro (herror | ⟨a, -, herror⟩)
    · exact herror
    · obtain ⟨b, hb⟩ := hok a
      rw [hb] at herror
      contradiction
  · exact Or.inl

theorem bind_eq_ok_iff {b : β} :
    (outcome >>= next) = .ok b ↔ ∃ a, outcome = .ok a ∧ next a = .ok b := by
  cases outcome <;> simp [bind, Except.bind]

end Refusal

namespace Memory

/-- The address that a failed check reports: the last of the range, but no larger than a word. -/
def rangeEnd (address length : UInt64) : UInt64 :=
  UInt64.ofNat (min (address.toNat + (length.toNat - 1)) 0xFFFFFFFFFFFFFFFF)

theorem toNat_ofNat_of_le {n : Nat} (hn : n ≤ 4096) : (UInt64.ofNat n).toNat = n := by
  apply UInt64.toNat_ofNat_of_lt'
  rw [UInt64.size]
  omega

theorem rangeEnd_zero (address : UInt64) : rangeEnd address 0 = address := by
  have hword := address.toNat_lt
  have hmin :
      min (address.toNat + ((0 : UInt64).toNat - 1)) 0xFFFFFFFFFFFFFFFF = address.toNat := by
    rw [UInt64.toNat_zero]
    omega
  rw [rangeEnd, hmin, UInt64.ofNat_toNat]

theorem rangeEnd_eq_lastAddress {address length : UInt64} (hlength : length ≠ 0) :
    rangeEnd address length = lastAddress address length := by
  have hpos : length.toNat ≠ 0 := fun hzero => hlength (UInt64.toNat_inj.mp hzero)
  apply UInt64.toNat_inj.mp
  rw [toNat_lastAddress hlength, rangeEnd, UInt64.toNat_ofNat']
  omega

theorem checkRange_eq (address length : UInt64) :
    checkRange address length =
      if h : address.toNat + length.toNat ≤ 4096 then .ok ⟨h⟩
      else .error (.outOfBounds (rangeEnd address length)) := by
  by_cases hempty : length = 0
  · subst hempty
    have hiff : address ≤ 4096 ↔ address.toNat + (0 : UInt64).toNat ≤ 4096 := UInt64.le_iff_toNat_le
    by_cases hbound : address ≤ 4096
    · rw [dif_pos (hiff.mp hbound), checkRange, dif_pos rfl, dif_pos hbound]
    · rw [dif_neg (mt hiff.mpr hbound), checkRange, dif_pos rfl, dif_neg hbound, rangeEnd_zero]
  · have hpos : length.toNat ≠ 0 := fun hzero => hempty (UInt64.toNat_inj.mp hzero)
    have hiff : lastAddress address length < 4096 ↔ address.toNat + length.toNat ≤ 4096 := by
      have hsize : (4096 : UInt64).toNat = 4096 := rfl
      rw [UInt64.lt_iff_toNat_lt, toNat_lastAddress hempty]
      omega
    by_cases hbound : lastAddress address length < 4096
    · rw [dif_pos (hiff.mp hbound), checkRange, dif_neg hempty, dif_pos hbound]
    · rw [dif_neg (mt hiff.mpr hbound), checkRange, dif_neg hempty, dif_neg hbound,
        rangeEnd_eq_lastAddress hempty]

theorem checkRange_eq_error_iff {address length : UInt64} {fault : Fault} :
    checkRange address length = .error fault ↔
      4096 < address.toNat + length.toNat ∧ fault = .outOfBounds (rangeEnd address length) := by
  rw [checkRange_eq]
  by_cases hbound : address.toNat + length.toNat ≤ 4096
  · rw [dif_pos hbound]
    constructor
    · intro haccepted
      contradiction
    · rintro ⟨hpast, -⟩
      omega
  · rw [dif_neg hbound, Except.error.injEq]
    constructor
    · rintro rfl
      exact ⟨by omega, rfl⟩
    · exact fun h => h.2.symm

theorem set_eq (memory : Memory) (address : UInt64) (value : UInt8) :
    memory.set address value =
      if address.toNat < 4096 then .ok () ⟨memory.bytes.setIfInBounds address.toNat value⟩
      else .error (.outOfBounds (rangeEnd address 1)) memory := by
  rw [set, checkRange_eq]
  by_cases hbound : address.toNat < 4096
  · have hrange : address.toNat + (1 : UInt64).toNat ≤ 4096 := hbound
    rw [if_pos hbound, dif_pos hrange]
    refine congrArg (fun bytes => EStateM.Result.ok () (Memory.mk bytes)) ?_
    refine Vector.ext fun k hk => ?_
    rw [Vector.getElem_set, Vector.getElem_setIfInBounds hk]
  · have hrange : ¬address.toNat + (1 : UInt64).toNat ≤ 4096 := hbound
    rw [if_neg hbound, dif_neg hrange]
    rfl

theorem fetch_eq (memory : Memory) (address : UInt64) :
    memory.fetch address =
      if h : address.toNat + 2 ≤ 4096 then
        .ok (memory.bytes[address.toNat].toUInt16 <<< 8 |||
          memory.bytes[address.toNat + 1].toUInt16)
      else .error (.outOfBounds (rangeEnd address 2)) := by
  rw [fetch, checkRange_eq]
  by_cases hbound : address.toNat + 2 ≤ 4096
  · have hrange : address.toNat + (2 : UInt64).toNat ≤ 4096 := hbound
    rw [dif_pos hbound, dif_pos hrange]
    rfl
  · have hrange : ¬ address.toNat + (2 : UInt64).toNat ≤ 4096 := hbound
    rw [dif_neg hbound, dif_neg hrange]
    rfl

theorem slice_eq_error_iff {memory : Memory} {address length : UInt64} {fault : Fault} :
    memory.slice address length = .error fault ↔
      4096 < address.toNat + length.toNat ∧ fault = .outOfBounds (rangeEnd address length) := by
  rw [slice, bind_eq_error_iff_of_ok, checkRange_eq_error_iff]
  exact fun _ => ⟨_, rfl⟩

/-- The bytes from an address on, where memory holds them. -/
theorem slice_of_le {memory : Memory} {address length : UInt64}
    (hbound : address.toNat + length.toNat ≤ 4096) :
    ∃ bytes,
      memory.slice address length = .ok bytes ∧ bytes.length = length.toNat ∧
        ∀ k < length.toNat, bytes[k]? = memory.bytes[address.toNat + k]? := by
  rw [slice, checkRange_eq, dif_pos hbound]
  refine ⟨_, rfl, List.length_ofFn, fun k hk => ?_⟩
  rw [List.getElem?_ofFn, dif_pos hk, Vector.getElem?_eq_getElem (by omega)]

theorem length_of_slice {memory : Memory} {address : UInt64} {length : Nat} {bytes : List UInt8}
    (hlength : length ≤ 4096) (hbytes : memory.slice address (UInt64.ofNat length) = .ok bytes) :
    bytes.length = length := by
  obtain ⟨_, -, hbytes⟩ := bind_eq_ok_iff.mp hbytes
  obtain rfl := Except.ok.inj hbytes
  rw [List.length_ofFn, toNat_ofNat_of_le hlength]

/-- Bytes that fit are all set, and no check fails on the way. -/
theorem setAll_eq (memory : Memory) {address : UInt64} {bytes : List UInt8}
    (hbound : address.toNat + bytes.length ≤ 4096) :
    memory.setAll address bytes = .ok () (memory.write address.toNat bytes) := by
  induction bytes generalizing memory address with
  | nil => rfl
  | cons byte rest ih =>
    rw [List.length_cons] at hbound
    have hplace : address.toNat < 4096 := by omega
    have hone : (1 : UInt64).toNat = 1 := rfl
    have hnext : (address + 1).toNat = address.toNat + 1 := by
      rw [UInt64.toNat_add, hone]
      omega
    rw [setAll, Call.bind_of_ok ((memory.set_eq address byte).trans (if_pos hplace)),
      ih _ (by omega), write, hnext]

theorem store_eq (memory : Memory) (address : UInt64) {bytes : List UInt8}
    (hlength : bytes.length ≤ 4096) :
    memory.store address bytes =
      if address.toNat + bytes.length ≤ 4096 then .ok () (memory.write address.toNat bytes)
      else .error (.outOfBounds (rangeEnd address (UInt64.ofNat bytes.length))) memory := by
  have hword : (UInt64.ofNat bytes.length).toNat = bytes.length := toNat_ofNat_of_le hlength
  rw [store, checkRange_eq, hword]
  by_cases hbound : address.toNat + bytes.length ≤ 4096
  · rw [dif_pos hbound, if_pos hbound, Call.bind_of_ok (Call.lift_ok _ memory)]
    exact memory.setAll_eq hbound
  · rw [dif_neg hbound, if_neg hbound, Call.bind_of_error (Call.lift_error _ memory)]

theorem loadProgram_eq (memory : Memory) (program : List UInt8) :
    memory.loadProgram program =
      if program.length ≤ programCapacity then .ok () (memory.write programStart program)
      else .error (.programTooLarge program.length) memory := by
  rw [loadProgram]
  by_cases hfits : program.length ≤ programCapacity
  · rw [if_neg (Nat.not_lt.mpr hfits), if_pos hfits]
    rfl
  · rw [if_pos (Nat.lt_of_not_le hfits), if_neg hfits]
    rfl

/-- A word is its high byte followed by its low byte. -/
theorem toNat_word (high low : UInt8) :
    (high.toUInt16 <<< 8 ||| low.toUInt16).toNat = 256 * high.toNat + low.toNat := by
  have hhigh := high.toNat_lt
  have hlow := low.toNat_lt
  have hshift : (high.toUInt16 <<< 8).toNat = high.toNat <<< 8 := by
    rw [UInt16.toNat_shiftLeft, UInt8.toNat_toUInt16]
    have height : (8 : UInt16).toNat % 16 = 8 := rfl
    rw [height, Nat.shiftLeft_eq]
    omega
  rw [UInt16.toNat_or, hshift, UInt8.toNat_toUInt16, ← Nat.shiftLeft_add_eq_or_of_lt hlow,
    Nat.shiftLeft_eq]
  omega

theorem getElem_bytes_initial {k : Nat} (hk : k < 4096) :
    initial.bytes[k] = font.getD k 0 := by
  simp only [initial, Vector.getElem_ofFn]

/-- Written bytes take the places from the address on, and every other byte stays. -/
theorem getElem_bytes_write (memory : Memory) (address : Nat) (bytes : List UInt8) {k : Nat}
    (hk : k < 4096) :
    (memory.write address bytes).bytes[k] =
      if address ≤ k then bytes.getD (k - address) memory.bytes[k] else memory.bytes[k] := by
  induction bytes generalizing memory address with
  | nil => simp [write]
  | cons byte rest ih =>
    rw [write, ih, Vector.getElem_setIfInBounds]
    obtain hlt | rfl | hgt := Nat.lt_trichotomy address k
    · have hsub : k - address = k - (address + 1) + 1 := by omega
      rw [if_pos (by omega), if_neg (by omega), if_pos (by omega), hsub, List.getD_cons_succ]
    · rw [if_neg (by omega), if_pos rfl, if_pos (Nat.le_refl _), Nat.sub_self, List.getD_cons_zero]
    · rw [if_neg (by omega), if_neg (by omega), if_neg (by omega)]

/-- Bytes that are written change as many places, from the address on. -/
theorem getElem_bytes_write_of_outside {memory : Memory} {address : Nat} {bytes : List UInt8}
    {k : Nat} (hk : k < 4096) (houtside : ¬(address ≤ k ∧ k < address + bytes.length)) :
    (memory.write address bytes).bytes[k] = memory.bytes[k] := by
  rw [getElem_bytes_write]
  split
  · rw [List.getD_eq_getElem?_getD, List.getElem?_eq_none (by omega), Option.getD_none]
  · rfl

end Memory

end Chip8
