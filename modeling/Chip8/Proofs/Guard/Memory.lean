import Chip8.Proofs.Guard.Access
import Chip8.Proofs.MemoryAccess

/-!
# Guarded memory

The memory with every index, every range and every copy guarded. No access crashes: where the check
of its range passes, all its guards hold.
-/

namespace Chip8

namespace Memory

open Guarded

def guardedCheckRange (address length : UInt64) : Guarded Unit := do
  if length = 0 then
    if 4096 < address then .fail (.outOfBounds address)
  else
    let last := saturatingAdd address (← Guard.sub64 length 1)
    if 4096 ≤ last then .fail (.outOfBounds last)

def guardedGet (memory : Memory) (address : UInt64) : Guarded UInt8 := do
  guardedCheckRange address 1
  Guard.read memory.bytes address.toNat

def guardedSet (address : UInt64) (value : UInt8) : GuardedCall Memory Unit := do
  guardedCheckRange address 1
  .change fun memory => return ⟨← Guard.assign memory.bytes address.toNat value⟩

def guardedFetch (memory : Memory) (address : UInt64) : Guarded UInt16 := do
  guardedCheckRange address 2
  let high ← Guard.read memory.bytes address.toNat
  let low ← Guard.read memory.bytes (← Guard.add64 address 1).toNat
  return high.toUInt16 <<< 8 ||| low.toUInt16

def guardedSlice (memory : Memory) (address length : UInt64) : Guarded (List UInt8) := do
  guardedCheckRange address length
  Guard.slice memory.bytes.toList address.toNat (← Guard.add64 address length).toNat

/-- Writes bytes one after the other, each with a check of its own. -/
def guardedWrite (address : UInt64) (offset : Nat) : List UInt8 → GuardedCall Memory Unit
  | [] => return
  | byte :: rest => do
    guardedSet (← Guard.add64 address (UInt64.ofNat offset)) byte
    guardedWrite address (offset + 1) rest

def guardedStore (address : UInt64) (bytes : List UInt8) : GuardedCall Memory Unit := do
  guardedCheckRange address (UInt64.ofNat bytes.length)
  guardedWrite address 0 bytes

def guardedInitial : Option Memory := do
  return ⟨← Guard.copy (Vector.replicate 4096 0) 0 font.length font⟩

def guardedLoadProgram (program : List UInt8) : GuardedCall Memory Unit :=
  if programCapacity < program.length then .fail (.programTooLarge program.length)
  else .change fun memory =>
    return ⟨← Guard.copy memory.bytes programStart (programStart + program.length) program⟩

variable {memory : Memory} {address length : UInt64}

theorem guardedCheckRange_eq :
    guardedCheckRange address length =
      if address.toNat + length.toNat ≤ 4096 then .ok ()
      else .fail (.outOfBounds (rangeEnd address length)) := by
  have hchecked : guardedCheckRange address length =
      settled ((checkRange address length).map fun _ => ()) := by
    unfold guardedCheckRange checkRange
    by_cases hempty : length = 0
    · rw [if_pos hempty, dif_pos hempty]
      by_cases hbound : address ≤ 4096
      · have hpast : ¬4096 < address := UInt64.not_lt.mpr hbound
        rw [if_neg hpast, dif_pos hbound]
        rfl
      · have hpast : 4096 < address := UInt64.not_le.mp hbound
        rw [if_pos hpast, dif_neg hbound]
        rfl
    · have hone : (1 : UInt64).toNat ≤ length.toNat :=
        Nat.pos_of_ne_zero fun hzero => hempty (UInt64.toNat_inj.mp hzero)
      rw [if_neg hempty, dif_neg hempty, Guard.sub64_of_le hone, lift_some_bind]
      by_cases hbound : lastAddress address length < 4096
      · have hpast : ¬4096 ≤ saturatingAdd address (length - 1) := UInt64.not_le.mpr hbound
        rw [if_neg hpast, dif_pos hbound]
        rfl
      · have hpast : 4096 ≤ saturatingAdd address (length - 1) := UInt64.not_lt.mp hbound
        rw [if_pos hpast, dif_neg hbound]
        rfl
  rw [hchecked, checkRange_eq]
  by_cases hbound : address.toNat + length.toNat ≤ 4096
  · rw [if_pos hbound, dif_pos hbound]
    rfl
  · rw [if_neg hbound, dif_neg hbound]
    rfl

theorem guardedGet_eq (memory : Memory) (address : UInt64) :
    memory.guardedGet address = settled (memory.get address) := by
  rw [guardedGet, guardedCheckRange_eq, get, checkRange_eq]
  by_cases hbound : address.toNat + (1 : UInt64).toNat ≤ 4096
  · have hcell : address.toNat < 4096 := hbound
    rw [if_pos hbound, dif_pos hbound, ok_bind, Guard.read_of_lt hcell]
    rfl
  · rw [if_neg hbound, dif_neg hbound]
    rfl

theorem guardedSet_eq (memory : Memory) (address : UInt64) (value : UInt8) :
    memory.guardedSet address value = some (memory.set address value) := by
  rw [guardedSet, guardedCheckRange_eq, set, checkRange_eq]
  by_cases hbound : address.toNat + (1 : UInt64).toNat ≤ 4096
  · have hcell : address.toNat < 4096 := hbound
    rw [if_pos hbound, dif_pos hbound, GuardedCall.lift_ok_bind, Call.bind_of_ok (Call.lift_ok _ _)]
    refine GuardedCall.change_eq_some ?_
    rw [Guard.assign_of_lt hcell]
    rfl
  · rw [if_neg hbound, dif_neg hbound]
    rfl

/-- The sum of an address and the length of a range that ends within memory. -/
theorem add64_of_range (address length : UInt64)
    (hbound : address.toNat + length.toNat ≤ 4096) :
    ∃ stop, Guard.add64 address length = some stop ∧ stop.toNat = address.toNat + length.toNat := by
  refine ⟨address + length, Guard.add64_of_lt (by omega), ?_⟩
  rw [UInt64.toNat_add]
  omega

theorem guardedFetch_eq (memory : Memory) (address : UInt64) :
    memory.guardedFetch address = settled (memory.fetch address) := by
  rw [guardedFetch, guardedCheckRange_eq, fetch_eq]
  by_cases hbound : address.toNat + 2 ≤ 4096
  · have hrange : address.toNat + (2 : UInt64).toNat ≤ 4096 := hbound
    have hhigh : address.toNat < 4096 := by omega
    have hlow : address.toNat + 1 < 4096 := by omega
    have hone : (1 : UInt64).toNat = 1 := rfl
    obtain ⟨next, hnext, hplace⟩ := add64_of_range address 1 (by omega)
    rw [if_pos hrange, dif_pos hbound, ok_bind, hnext,
      Guard.read_of_lt hhigh, lift_some_bind, lift_some_bind, hplace, hone,
      Guard.read_of_lt hlow]
    rfl
  · have hrange : ¬address.toNat + (2 : UInt64).toNat ≤ 4096 := hbound
    rw [if_neg hrange, dif_neg hbound]
    rfl

theorem slice_eq (memory : Memory) (address length : UInt64) :
    memory.slice address length =
      if address.toNat + length.toNat ≤ 4096 then
        .ok ((memory.bytes.toList.take (address.toNat + length.toNat)).drop address.toNat)
      else .error (.outOfBounds (rangeEnd address length)) := by
  rw [slice, checkRange_eq]
  by_cases hbound : address.toNat + length.toNat ≤ 4096
  · rw [dif_pos hbound, if_pos hbound]
    refine congrArg Except.ok (List.ext_getElem ?_ fun k hk hk' => ?_)
    · rw [List.length_ofFn, List.length_drop, List.length_take, Vector.length_toList]
      omega
    · rw [List.getElem_ofFn, List.getElem_drop, List.getElem_take, Vector.getElem_toList]
  · rw [dif_neg hbound, if_neg hbound]
    rfl

theorem guardedSlice_eq (memory : Memory) (address length : UInt64) :
    memory.guardedSlice address length = settled (memory.slice address length) := by
  rw [guardedSlice, guardedCheckRange_eq, slice_eq]
  by_cases hbound : address.toNat + length.toNat ≤ 4096
  · obtain ⟨stop, hstop, hplace⟩ := add64_of_range address length hbound
    have hsize : address.toNat + length.toNat ≤ memory.bytes.toList.length := by
      rwa [Vector.length_toList]
    rw [if_pos hbound, if_pos hbound, ok_bind, hstop, lift_some_bind, hplace,
      Guard.slice_of_le (Nat.le_add_right _ _) hsize]
    rfl
  · rw [if_neg hbound, if_neg hbound]
    rfl

/-- Bytes that fit are written whole, and no check fails on the way. -/
theorem guardedWrite_eq {offset : Nat} {bytes : List UInt8}
    (hbound : address.toNat + offset + bytes.length ≤ 4096) :
    memory.guardedWrite address offset bytes =
      some (.ok () (memory.write (address.toNat + offset) bytes)) := by
  induction bytes generalizing memory offset with
  | nil => rfl
  | cons byte rest ih =>
    rw [List.length_cons] at hbound
    have hoffset : (UInt64.ofNat offset).toNat = offset := toNat_ofNat_of_le (by omega)
    obtain ⟨place, hplace, hnat⟩ :=
      add64_of_range address (UInt64.ofNat offset) (by omega)
    rw [hoffset] at hnat
    have hset : memory.guardedSet place byte =
        some (.ok () ⟨memory.bytes.setIfInBounds (address.toNat + offset) byte⟩) := by
      rw [guardedSet_eq, set_eq, if_pos (by omega), hnat]
    rw [guardedWrite, hplace, GuardedCall.lift_some_bind, GuardedCall.bind_of_ok hset,
      ih (by omega), write, Nat.add_assoc]

theorem guardedStore_eq {bytes : List UInt8} (hlength : bytes.length ≤ 4096) :
    memory.guardedStore address bytes = some (memory.store address bytes) := by
  have hsize : (UInt64.ofNat bytes.length).toNat = bytes.length := toNat_ofNat_of_le hlength
  rw [guardedStore, guardedCheckRange_eq, store_eq _ _ hlength, hsize]
  by_cases hbound : address.toNat + bytes.length ≤ 4096
  · rw [if_pos hbound, if_pos hbound, GuardedCall.lift_ok_bind]
    exact guardedWrite_eq hbound
  · rw [if_neg hbound, if_neg hbound]
    rfl

theorem guardedInitial_eq : guardedInitial = some initial := by
  have hlength : font.length = 80 := rfl
  have hbytes : Guard.copy (Vector.replicate 4096 0) 0 font.length font = some initial.bytes := by
    rw [Guard.copy_of_le (Nat.zero_le _) (by omega) rfl]
    refine congrArg some (Vector.ext fun k hk => ?_)
    simp [initial]
  rw [guardedInitial, hbytes]
  rfl

theorem guardedLoadProgram_eq (memory : Memory) (program : List UInt8) :
    memory.guardedLoadProgram program = some (memory.loadProgram program) := by
  rw [guardedLoadProgram, loadProgram]
  by_cases hfits : program.length ≤ programCapacity
  · have hstop : programStart + program.length ≤ 4096 := by
      have hcapacity : programCapacity = 4096 - programStart := rfl
      have hstart : programStart = 512 := rfl
      omega
    have hbytes : Guard.copy memory.bytes programStart (programStart + program.length) program =
        some (memory.write programStart program).bytes := by
      rw [Guard.copy_of_le (Nat.le_add_right _ _) hstop (by omega)]
      refine congrArg some (Vector.ext fun k hk => ?_)
      rw [getElem_bytes_write _ _ _ hk, Vector.getElem_mapIdx]
      by_cases hbefore : k < programStart
      · rw [if_pos hbefore, if_neg (by omega)]
      · rw [if_neg hbefore, if_pos (by omega)]
    rw [if_neg (Nat.not_lt.mpr hfits), if_neg (Nat.not_lt.mpr hfits)]
    refine GuardedCall.change_eq_some ?_
    rw [hbytes]
    rfl
  · rw [if_pos (Nat.lt_of_not_le hfits), if_pos (Nat.lt_of_not_le hfits)]
    rfl

end Memory

end Chip8
