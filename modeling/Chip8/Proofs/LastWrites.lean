import Chip8.Proofs.Guard.Memory
import Chip8.Proofs.Run

/-!
# What memory holds

A range passes the check exactly if it ends within memory, counted without wrapping. After any
edits, failed ones among them, each byte is the one that was written to its address last, and every
access whose range passes the check returns these bytes without a crash.
-/

namespace Chip8

namespace Memory

/-- What is done to a memory. -/
inductive Edit
  | set (address : UInt64) (value : UInt8)
  | reset
  | load (program : List UInt8)
  deriving DecidableEq

/-- The byte that an edit writes to a place in memory, if it writes there. A program that is too
long is not written at all. -/
def Edit.writes? (k : Nat) : Edit → Option UInt8
  | set address value => if address.toNat = k then some value else none
  | reset => some (font.getD k 0)
  | load program =>
    if program.length ≤ programCapacity ∧ programStart ≤ k then program[k - programStart]? else none

/-- The byte that the latest of the edits to write to a place has written. Before all of them stands
the font, with zeros after it. -/
def lastWritten (edits : List Edit) (k : Nat) : UInt8 :=
  (edits.reverse.findSome? (·.writes? k)).getD (font.getD k 0)

def tryEdit : Edit → Call Memory Unit
  | .set address value => set address value
  | .reset => modify fun _ => initial
  | .load program => loadProgram program

/-- The memory as an edit leaves it, and the fault of one that fails. -/
def edit (memory : Memory) (edit : Edit) : Memory × Option Fault := settle (memory.tryEdit edit)

def afterEdits (memory : Memory) (edits : List Edit) : Memory :=
  edits.foldl (fun current edit => (current.edit edit).1) memory

/-- The word of two bytes. -/
def wordOf (high low : UInt8) : UInt16 := UInt16.ofNat (256 * high.toNat + low.toNat)

/-- The bytes of a memory, place by place. -/
def Holds (memory : Memory) (content : Nat → UInt8) : Prop :=
  ∀ k (_ : k < 4096), memory.bytes[k] = content k

/-- No access and no edit crashes: with guards each does what it does without them. -/
structure Safe (memory : Memory) : Prop where
  checkRange : ∀ address length, guardedCheckRange address length =
    Guarded.settled ((checkRange address length).map fun _ => ())
  get : ∀ address, memory.guardedGet address = Guarded.settled (memory.get address)
  fetch : ∀ address, memory.guardedFetch address = Guarded.settled (memory.fetch address)
  slice : ∀ address length,
    memory.guardedSlice address length = Guarded.settled (memory.slice address length)
  set : ∀ address value, memory.guardedSet address value = some (memory.set address value)
  load : ∀ program, memory.guardedLoadProgram program = some (memory.loadProgram program)
  reset : guardedInitial = some initial

variable {memory : Memory} {address length : UInt64}

/-! ### The check -/

theorem toNat_rangeEnd (address length : UInt64) :
    (rangeEnd address length).toNat =
      if length = 0 then address.toNat
      else min (address.toNat + length.toNat - 1) 0xFFFFFFFFFFFFFFFF := by
  split
  · rename_i hempty
    rw [hempty, rangeEnd_zero]
  · rename_i hlength
    rw [rangeEnd_eq_lastAddress hlength, toNat_lastAddress hlength]

theorem checkRange_eq_ok_iff :
    (∃ within, checkRange address length = .ok within) ↔
      address.toNat + length.toNat ≤ 4096 := by
  rw [checkRange_eq]
  by_cases hbound : address.toNat + length.toNat ≤ 4096
  · rw [dif_pos hbound]
    exact iff_of_true ⟨_, rfl⟩ hbound
  · rw [dif_neg hbound]
    exact iff_of_false nofun hbound

theorem safe (memory : Memory) : memory.Safe where
  checkRange address length := by
    rw [guardedCheckRange_eq, checkRange_eq]
    by_cases hbound : address.toNat + length.toNat ≤ 4096
    · rw [if_pos hbound, dif_pos hbound]
      rfl
    · rw [if_neg hbound, dif_neg hbound]
      rfl
  get := memory.guardedGet_eq
  fetch := memory.guardedFetch_eq
  slice := memory.guardedSlice_eq
  set := memory.guardedSet_eq
  load := memory.guardedLoadProgram_eq
  reset := guardedInitial_eq

/-! ### Edits -/

theorem edit_set (memory : Memory) (address : UInt64) (value : UInt8) :
    memory.edit (.set address value) =
      if address.toNat < 4096 then (⟨memory.bytes.setIfInBounds address.toNat value⟩, none)
      else (memory, some (.outOfBounds (rangeEnd address 1))) := by
  rw [edit, tryEdit, set_eq, apply_ite settle]
  rfl

theorem edit_load (memory : Memory) (program : List UInt8) :
    memory.edit (.load program) =
      if program.length ≤ programCapacity then (memory.write programStart program, none)
      else (memory, some (.programTooLarge program.length)) := by
  rw [edit, tryEdit, loadProgram_eq, apply_ite settle]
  rfl

theorem edit_of_fault {edit : Edit} {fault : Fault}
    (hfails : (memory.edit edit).2 = some fault) : (memory.edit edit).1 = memory := by
  cases edit with
  | set address value =>
    by_cases hbound : address.toNat < 4096
    · rw [edit_set, if_pos hbound] at hfails
      contradiction
    · rw [edit_set, if_neg hbound]
  | reset => contradiction
  | load program =>
    by_cases hfits : program.length ≤ programCapacity
    · rw [edit_load, if_pos hfits] at hfails
      contradiction
    · rw [edit_load, if_neg hfits]

/-- One edit leaves every byte that it does not write. -/
theorem getElem_edit (memory : Memory) (edit : Edit) {k : Nat} (hk : k < 4096) :
    (memory.edit edit).1.bytes[k] = (edit.writes? k).getD memory.bytes[k] := by
  cases edit with
  | set address value =>
    rw [Edit.writes?]
    by_cases hbound : address.toNat < 4096
    · rw [(memory.edit_set address value).trans (if_pos hbound), Vector.getElem_setIfInBounds hk]
      split <;> rfl
    · rw [(memory.edit_set address value).trans (if_neg hbound), if_neg (by omega),
        Option.getD_none]
  | reset => exact getElem_bytes_initial hk
  | load program =>
    rw [Edit.writes?]
    by_cases hfits : program.length ≤ programCapacity
    · simp only [(memory.edit_load program).trans (if_pos hfits), getElem_bytes_write _ _ _ hk,
        hfits, true_and, List.getD_eq_getElem?_getD]
      split <;> rfl
    · rw [(memory.edit_load program).trans (if_neg hfits), if_neg (fun h => hfits h.1),
        Option.getD_none]

theorem holds_afterEdits (edits : List Edit) :
    (initial.afterEdits edits).Holds (lastWritten edits) := by
  intro k hk
  calc (initial.afterEdits edits).bytes[k]
      = (edits.reverse.findSome? (·.writes? k)).getD initial.bytes[k] :=
        foldl_eq_latest (fun memory : Memory => memory.bytes[k]) (·.writes? k)
          (fun memory edit => getElem_edit memory edit hk) edits initial
    _ = lastWritten edits k := by rw [getElem_bytes_initial hk, lastWritten]

/-! ### Accesses -/

namespace Holds

variable {content : Nat → UInt8} (hholds : memory.Holds content)
include hholds

theorem get_eq (address : UInt64) :
    memory.get address = (checkRange address 1).map fun _ => content address.toNat := by
  rw [get, checkRange_eq]
  by_cases hbound : address.toNat + (1 : UInt64).toNat ≤ 4096
  · rw [dif_pos hbound]
    exact congrArg Except.ok (hholds address.toNat hbound)
  · rw [dif_neg hbound]
    rfl

theorem fetch_eq (address : UInt64) :
    memory.fetch address = (checkRange address 2).map fun _ =>
      wordOf (content address.toNat) (content (address.toNat + 1)) := by
  rw [Memory.fetch_eq, checkRange_eq]
  by_cases hbound : address.toNat + 2 ≤ 4096
  · have hrange : address.toNat + (2 : UInt64).toNat ≤ 4096 := hbound
    rw [dif_pos hbound, dif_pos hrange]
    refine congrArg Except.ok (UInt16.toNat_inj.mp ?_)
    have hhigh := (content address.toNat).toNat_lt
    have hlow := (content (address.toNat + 1)).toNat_lt
    rw [toNat_word, hholds, hholds, wordOf, UInt16.toNat_ofNat_of_lt']
    rw [UInt16.size]
    omega
  · have hrange : ¬address.toNat + (2 : UInt64).toNat ≤ 4096 := hbound
    rw [dif_neg hbound, dif_neg hrange]
    rfl

theorem slice_eq (address length : UInt64) :
    memory.slice address length = (checkRange address length).map fun _ =>
      (List.range length.toNat).map fun k => content (address.toNat + k) := by
  rw [slice, checkRange_eq]
  by_cases hbound : address.toNat + length.toNat ≤ 4096
  · rw [dif_pos hbound]
    refine congrArg Except.ok (List.ext_getElem ?_ fun k hk hk' => ?_)
    · rw [List.length_ofFn, List.length_map, List.length_range]
    · rw [List.getElem_ofFn, List.getElem_map, List.getElem_range]
      exact hholds _ _
  · rw [dif_neg hbound]
    rfl

end Holds

/-- **The last write.** A range passes the check exactly if it ends within memory. After any edits
of a new memory each access passes or fails as the check of its range does, and one that passes
returns the bytes last written to its addresses. None crashes. An edit that fails leaves the memory,
and a byte that is set changes no other. -/
theorem accesses_return_last_writes (edits : List Edit) :
    let memory := initial.afterEdits edits
    (∀ address length,
      ((∃ within, checkRange address length = .ok within) ↔
        address.toNat + length.toNat ≤ 4096) ∧
      ∀ fault, checkRange address length = .error fault ↔
        4096 < address.toNat + length.toNat ∧ ∃ reported, fault = .outOfBounds reported ∧
          reported.toNat = if length = 0 then address.toNat
            else min (address.toNat + length.toNat - 1) (2 ^ 64 - 1)) ∧
      memory.bytes.toList.length = 4096 ∧
      (∀ address, memory.get address =
        (checkRange address 1).map fun _ => lastWritten edits address.toNat) ∧
      (∀ address, memory.fetch address = (checkRange address 2).map fun _ =>
        wordOf (lastWritten edits address.toNat) (lastWritten edits (address.toNat + 1))) ∧
      (∀ address length, memory.slice address length = (checkRange address length).map fun _ =>
        (List.range length.toNat).map fun k => lastWritten edits (address.toNat + k)) ∧
      memory.Safe ∧
      (∀ edit fault, (memory.edit edit).2 = some fault → (memory.edit edit).1 = memory) ∧
      ∀ address value edited, memory.edit (.set address value) = (edited, none) →
        ∀ k (_ : k < 4096),
          edited.bytes[k] = if k = address.toNat then value else memory.bytes[k] := by
  intro memory
  have hholds : memory.Holds (lastWritten edits) := holds_afterEdits edits
  refine ⟨fun address length => ⟨checkRange_eq_ok_iff, fun fault => ?_⟩, Vector.length_toList,
    hholds.get_eq, hholds.fetch_eq, hholds.slice_eq, memory.safe, fun _ _ => edit_of_fault, ?_⟩
  · rw [checkRange_eq_error_iff]
    refine and_congr_right fun _ => ⟨?_, ?_⟩
    · rintro rfl
      exact ⟨_, rfl, toNat_rangeEnd address length⟩
    · rintro ⟨reported, rfl, hreported⟩
      have hsame := hreported.trans (toNat_rangeEnd address length).symm
      rw [UInt64.toNat_inj.mp hsame]
  · intro address value edited hset k hk
    have hbytes := getElem_edit memory (.set address value) hk
    rw [hset, Edit.writes?] at hbytes
    by_cases hplace : k = address.toNat
    · rw [hbytes, if_pos hplace, if_pos hplace.symm, Option.getD_some]
    · rw [hbytes, if_neg hplace, if_neg (Ne.symm hplace), Option.getD_none]

end Memory

end Chip8
