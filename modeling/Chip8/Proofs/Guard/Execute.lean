import Chip8.Machine.Step
import Chip8.Proofs.Guard.Memory
import Chip8.Proofs.Guard.Operand
import Chip8.Proofs.Guard.Parts

/-!
# Guarded instructions

Each operation asks for its operands by position and takes them as register numbers, addresses and
bytes without further checks. All of these are in range, and an instruction with guards does what
the instruction does.
-/

namespace Chip8

open GuardedCall (change lift_some_bind bind_eq_some change_eq_some)

namespace Decoded

def guardedByte (decoded : Decoded) (n : Nat) : Option UInt8 :=
  return (← decoded.guardedArgument n).toUInt8

def guardedNumber (decoded : Decoded) (n : Nat) : Option Nat :=
  return (← decoded.guardedArgument n).toNat

end Decoded

namespace Machine

def guardedRead (machine : Machine) (x : Nat) : Option UInt8 := Guard.read machine.registers.v x

def guardedAssign (machine : Machine) (x : Nat) (value : UInt8) : Option Machine :=
  return machine.withRegisters
    { machine.registers with v := ← Guard.assign machine.registers.v x value }

def guardedVx (machine : Machine) (decoded : Decoded) : Option UInt8 := do
  machine.guardedRead (← decoded.guardedNumber 0)

def guardedVy (machine : Machine) (decoded : Decoded) : Option UInt8 := do
  machine.guardedRead (← decoded.guardedNumber 1)

def guardedAssignVx (machine : Machine) (decoded : Decoded) (value : UInt8) : Option Machine := do
  machine.guardedAssign (← decoded.guardedNumber 0) value

/-- The flag is written first. -/
def guardedAssignResult (machine : Machine) (decoded : Decoded) (value flag : UInt8) :
    Option Machine := do
  (← machine.guardedAssign 15 flag).guardedAssignVx decoded value

def guardedCombine (machine : Machine) (decoded : Decoded) (combine : UInt8 → UInt8 → UInt8) :
    Option Machine := do
  let vx ← machine.guardedVx decoded
  let vy ← machine.guardedVy decoded
  machine.guardedAssignVx decoded (combine vx vy)

def guardedShifted (machine : Machine) (decoded : Decoded) : Option UInt8 :=
  match machine.config.dialect.shift with
  | .vx => machine.guardedVx decoded
  | .vy => machine.guardedVy decoded

/-- The program counter must not wrap around. -/
def guardedAdvance (machine : Machine) : Option Machine :=
  return machine.jump (← Guard.add16 machine.registers.pc 2)

def guardedSkip (machine : Machine) (holds : Bool) : Option Machine :=
  if holds then machine.guardedAdvance else some machine

def guardedStepIndex (machine : Machine) (last : Nat) : Option Machine := do
  let amount ← match machine.config.dialect.index with
    | .unchanged => some 0
    | .byX => some (UInt16.ofNat last)
    | .byXPlusOne => Guard.add16 (UInt16.ofNat last) 1
  return machine.setIndex (machine.registers.index + amount)

def guardedOnMemory {α : Type} : GuardedCall Memory α → GuardedCall Machine α :=
  .on Machine.memory fun machine memory => { machine with memory }

def guardedOnRegisters {α : Type} : GuardedCall Registers α → GuardedCall Machine α :=
  .on Machine.registers fun machine registers => { machine with registers }

/-- A sprite has at most fifteen rows. They are copied before the flag or the screen changes. -/
def guardedDraw (decoded : Decoded) : GuardedCall Machine Unit := do
  let machine ← get
  let left ← machine.guardedVx decoded
  let top ← machine.guardedVy decoded
  let height ← decoded.guardedNumber 2
  let bytes ← machine.memory.guardedSlice machine.indexAddress (UInt64.ofNat height)
  let buffer ← Guard.copy (Vector.replicate 15 0) 0 height bytes
  change (·.guardedAssign 15 0)
  let rows ← Guard.slice buffer.toList 0 height
  let (screen, erased) ←
    (← get).screen.guardedToggleAll (Screen.sprite left.toNat top.toNat rows)
  modify fun machine => { machine with screen := screen.markDirty }
  change (·.guardedAssign 15 (if erased != 0 then 1 else 0))

def guardedStoreAtIndex (bytes : List UInt8) : GuardedCall Machine Unit := do
  guardedOnMemory (Memory.guardedStore (← get).indexAddress bytes)

def guardedLoadRegisters (decoded : Decoded) : GuardedCall Machine Unit := do
  let machine ← get
  let last ← decoded.guardedNumber 0
  let bytes ← machine.memory.guardedSlice machine.indexAddress (UInt64.ofNat (last + 1))
  change fun machine => return machine.withRegisters { machine.registers with
    v := ← Guard.copy machine.registers.v 0 (last + 1) bytes }
  change (·.guardedStepIndex last)

def guardedReadBlock (machine : Machine) (last : Nat) : Option (List UInt8) :=
  (List.range (last + 1)).mapM machine.guardedRead

def guardedStoreRegisters (decoded : Decoded) : GuardedCall Machine Unit := do
  let last ← decoded.guardedNumber 0
  guardedStoreAtIndex (← (← get).guardedReadBlock last)
  change (·.guardedStepIndex last)

/-- A wait remembers the number of its register, which must be below sixteen. -/
def guardedAwaitKey (machine : Machine) (decoded : Decoded) : Option Machine := do
  let x ← decoded.guardedNumber 0
  if h : x < 16 then
    return { machine with mode := .waiting ⟨x, h⟩, keypad := machine.keypad.arm }
  else none

def guardedExecute (decoded : Decoded) : GuardedCall Machine Unit :=
  match decoded.operation with
  | .clearScreen => modify fun machine => { machine with screen := machine.screen.clear }
  | .ret => do
    let target ← guardedOnRegisters Registers.guardedPop
    modify (·.jump target)
  | .jump => change fun machine => return machine.jump (← decoded.guardedArgument 0)
  | .call => do
    guardedOnRegisters (Registers.guardedPush (← get).registers.pc)
    change fun machine => return machine.jump (← decoded.guardedArgument 0)
  | .skipEqualByte => change fun machine => do
    machine.guardedSkip ((← machine.guardedVx decoded) == (← decoded.guardedByte 1))
  | .skipDifferentByte => change fun machine => do
    machine.guardedSkip ((← machine.guardedVx decoded) != (← decoded.guardedByte 1))
  | .skipEqual => change fun machine => do
    machine.guardedSkip ((← machine.guardedVx decoded) == (← machine.guardedVy decoded))
  | .skipDifferent => change fun machine => do
    machine.guardedSkip ((← machine.guardedVx decoded) != (← machine.guardedVy decoded))
  | .skipPressed => change fun machine => do
    machine.guardedSkip (machine.keypad.isPressed (← machine.guardedVx decoded))
  | .skipReleased => change fun machine => do
    machine.guardedSkip !(machine.keypad.isPressed (← machine.guardedVx decoded))
  | .loadByte => change fun machine => do
    machine.guardedAssignVx decoded (← decoded.guardedByte 1)
  | .addByte => change fun machine => do
    machine.guardedAssignVx decoded ((← machine.guardedVx decoded) + (← decoded.guardedByte 1))
  | .load => change fun machine => do
    machine.guardedAssignVx decoded (← machine.guardedVy decoded)
  | .or => change (·.guardedCombine decoded (· ||| ·))
  | .and => change (·.guardedCombine decoded (· &&& ·))
  | .xor => change (·.guardedCombine decoded (· ^^^ ·))
  | .add => change fun machine => do
    let vx ← machine.guardedVx decoded
    let vy ← machine.guardedVy decoded
    let sum ← Guard.add16 vx.toUInt16 vy.toUInt16
    machine.guardedAssignResult decoded sum.toUInt8 (if 0xFF < sum then 1 else 0)
  | .sub => change fun machine => do
    let vx ← machine.guardedVx decoded
    let vy ← machine.guardedVy decoded
    machine.guardedAssignResult decoded (vx - vy) (if vy ≤ vx then 1 else 0)
  | .subFrom => change fun machine => do
    let vx ← machine.guardedVx decoded
    let vy ← machine.guardedVy decoded
    machine.guardedAssignResult decoded (vy - vx) (if vx ≤ vy then 1 else 0)
  | .shiftRight => change fun machine => do
    let source ← machine.guardedShifted decoded
    machine.guardedAssignResult decoded (source >>> 1) (source &&& 1)
  | .shiftLeft => change fun machine => do
    let source ← machine.guardedShifted decoded
    machine.guardedAssignResult decoded (source <<< 1) (source >>> 7)
  | .loadIndex => change fun machine => return machine.setIndex (← decoded.guardedArgument 0)
  | .jumpOffset => change fun machine => do
    let base ← decoded.guardedArgument 0
    return machine.jump (← Guard.add16 base (← machine.guardedRead 0).toUInt16)
  | .random => change fun machine => do
    let (byte, random) := machine.random.next
    let drawn := { machine with random }
    drawn.guardedAssignVx decoded (byte &&& (← decoded.guardedByte 1))
  | .draw => guardedDraw decoded
  | .readDelay => change fun machine => machine.guardedAssignVx decoded machine.registers.delay
  | .awaitKey => change (·.guardedAwaitKey decoded)
  | .setDelay => change fun machine =>
    return machine.withRegisters { machine.registers with delay := ← machine.guardedVx decoded }
  | .setSound => change fun machine =>
    return machine.withRegisters { machine.registers with sound := ← machine.guardedVx decoded }
  | .addIndex => change fun machine =>
    return machine.setIndex (machine.registers.index + (← machine.guardedVx decoded).toUInt16)
  | .loadGlyph => change fun machine => do
    let digit ← machine.guardedVx decoded
    return machine.setIndex (← Guard.add16 0 (← Guard.mul16 digit.toUInt16 5))
  | .storeDecimal => do guardedStoreAtIndex (decimalDigits (← (← get).guardedVx decoded))
  | .storeRegisters => guardedStoreRegisters decoded
  | .loadRegisters => guardedLoadRegisters decoded

/-! ### Operands and registers -/

section Operands

variable {machine : Machine} {decoded : Decoded}

theorem guardedRead_eq (machine : Machine) (x : Register) :
    machine.guardedRead x = some (machine.registers.read x) := Guard.read_of_lt x.isLt

theorem guardedAssign_eq (machine : Machine) (x : Register) (value : UInt8) :
    machine.guardedAssign x value = some (machine.write x value) := by
  rw [guardedAssign, Guard.assign_of_lt x.isLt]
  rfl

theorem guardedAssign_vf (machine : Machine) (value : UInt8) :
    machine.guardedAssign 15 value = some (machine.write .vf value) :=
  machine.guardedAssign_eq .vf value

theorem guardedAdvance_eq (hpc : machine.registers.pc.toNat + 2 < 2 ^ 16) :
    machine.guardedAdvance = some machine.advance := by
  rw [guardedAdvance, Guard.add16_of_lt hpc]
  rfl

theorem guardedSkip_eq (hpc : machine.registers.pc.toNat + 2 < 2 ^ 16) (holds : Bool) :
    machine.guardedSkip holds = some (if holds then machine.advance else machine) := by
  rw [guardedSkip, guardedAdvance_eq hpc]
  cases holds <;> rfl

theorem guardedByte_eq {n : Nat}
    (hbyte : decoded.guardedArgument n = some (Field.byte.extract decoded.word)) :
    decoded.guardedByte n = some (Field.byte.extract decoded.word).toUInt8 := by
  rw [Decoded.guardedByte, hbyte]
  rfl

variable (machine)
variable (hx : decoded.guardedArgument 0 = some (Field.x.extract decoded.word))
include hx

theorem guardedVx_eq : machine.guardedVx decoded = some (machine.registers.read decoded.x) := by
  rw [guardedVx, Decoded.guardedNumber, hx]
  exact machine.guardedRead_eq decoded.x

theorem guardedAssignVx_eq (value : UInt8) :
    machine.guardedAssignVx decoded value = some (machine.write decoded.x value) := by
  rw [guardedAssignVx, Decoded.guardedNumber, hx]
  exact machine.guardedAssign_eq decoded.x value

theorem guardedAssignResult_eq (value flag : UInt8) :
    machine.guardedAssignResult decoded value flag =
      some (machine.withRegisters (machine.registers.writeResult decoded.x value (some flag))) := by
  rw [guardedAssignResult, guardedAssign_vf]
  exact guardedAssignVx_eq _ hx value

theorem guardedAwaitKey_eq :
    machine.guardedAwaitKey decoded =
      some { machine with mode := .waiting decoded.x, keypad := machine.keypad.arm } := by
  rw [guardedAwaitKey, Decoded.guardedNumber, hx]
  exact dif_pos decoded.x.isLt

variable (hy : decoded.guardedArgument 1 = some (Field.y.extract decoded.word))
include hy

omit hx in
theorem guardedVy_eq : machine.guardedVy decoded = some (machine.registers.read decoded.y) := by
  rw [guardedVy, Decoded.guardedNumber, hy]
  exact machine.guardedRead_eq decoded.y

theorem guardedCombine_eq (combine : UInt8 → UInt8 → UInt8) :
    machine.guardedCombine decoded combine =
      some (machine.write decoded.x
        (combine (machine.registers.read decoded.x) (machine.registers.read decoded.y))) := by
  rw [guardedCombine, guardedVx_eq _ hx, guardedVy_eq _ hy]
  exact guardedAssignVx_eq machine hx _

theorem guardedShifted_eq :
    machine.guardedShifted decoded =
      some (Arithmetic.result.shifted machine.config.dialect.shift
        (machine.registers.read decoded.x) (machine.registers.read decoded.y)) := by
  rw [guardedShifted, guardedVx_eq _ hx, guardedVy_eq _ hy]
  cases machine.config.dialect.shift <;> rfl

end Operands

/-! ### Transfers -/

section Transfers

variable {machine : Machine} {decoded : Decoded}

theorem guardedStepIndex_eq (machine : Machine) (x : Register) :
    machine.guardedStepIndex x = some (machine.stepIndex x) := by
  have hsum : (UInt16.ofNat x).toNat + (1 : UInt16).toNat < 2 ^ 16 := by
    have hone : (1 : UInt16).toNat = 1 := rfl
    have hx : (UInt16.ofNat x).toNat = x := UInt16.toNat_ofNat_of_lt' (by rw [UInt16.size]; omega)
    omega
  rw [guardedStepIndex, stepIndex]
  cases machine.config.dialect.index with
  | unchanged => rfl
  | byX => rfl
  | byXPlusOne =>
    simp only [Guard.add16_of_lt hsum]
    rfl

theorem guardedStoreAtIndex_eq {bytes : List UInt8} (hlength : bytes.length ≤ 4096) :
    machine.guardedStoreAtIndex bytes = some (machine.storeAtIndex bytes) := by
  rw [guardedStoreAtIndex, GuardedCall.get_bind, guardedOnMemory, storeAtIndex, Call.get_bind,
    onMemory]
  exact GuardedCall.on_eq_some (Memory.guardedStore_eq hlength)

theorem guardedReadBlock_eq (machine : Machine) (x : Register) :
    machine.guardedReadBlock x = some (machine.registers.readBlock x) := by
  have hread : ∀ k ∈ List.range (x + 1),
      machine.guardedRead k = some (machine.registers.v.toList.getD k 0) := by
    intro k hk
    have hcell : k < 16 := Nat.lt_of_lt_of_le (List.mem_range.mp hk) x.isLt
    rw [guardedRead, Guard.read_of_lt hcell, List.getD_eq_getElem?_getD]
    simp [hcell]
  rw [guardedReadBlock, Guard.mapM_eq_some hread, Registers.readBlock]
  have hx := x.isLt
  refine congrArg some (List.ext_getElem ?_ fun k hk hk' => ?_)
  · rw [List.length_map, List.length_range, List.length_take, Vector.length_toList]
    omega
  · have hcell : k < 16 := by
      rw [List.length_take, Vector.length_toList] at hk'
      omega
    simp [hcell]

/-- The cells that were copied are the source again. -/
theorem slice_of_copy {n : Nat} {source : List UInt8} (hlength : source.length ≤ n) :
    ∃ cells : Vector UInt8 n,
      Guard.copy (Vector.replicate n 0) 0 source.length source = some cells ∧
        Guard.slice cells.toList 0 source.length = some source := by
  refine ⟨_, Guard.copy_of_le (Nat.zero_le _) hlength rfl, ?_⟩
  rw [Guard.slice_of_le (Nat.zero_le _) (by rwa [Vector.length_toList])]
  refine congrArg some (List.ext_getElem ?_ fun k hk hk' => ?_)
  · rw [List.length_drop, List.length_take, Vector.length_toList]
    omega
  · simp [hk']

variable (hx : decoded.guardedArgument 0 = some (Field.x.extract decoded.word))
include hx

theorem guardedNumber_eq : decoded.guardedNumber 0 = some decoded.x.val := by
  rw [Decoded.guardedNumber, hx]
  rfl

theorem guardedStoreRegisters_eq :
    machine.guardedStoreRegisters decoded =
      some (machine.execute (.storeRegisters decoded.x)) := by
  have hlength : (machine.registers.readBlock decoded.x).length ≤ 4096 := by
    have hlength := machine.registers.length_readBlock decoded.x
    omega
  rw [guardedStoreRegisters, guardedNumber_eq hx, lift_some_bind, GuardedCall.get_bind,
    guardedReadBlock_eq, lift_some_bind, execute, Call.get_bind]
  refine bind_eq_some (guardedStoreAtIndex_eq hlength) fun _ stored _ => ?_
  exact change_eq_some (stored.guardedStepIndex_eq decoded.x)

theorem guardedLoadRegisters_eq :
    machine.guardedLoadRegisters decoded =
      some (machine.execute (.loadRegisters decoded.x)) := by
  have hx16 := decoded.x.isLt
  rw [guardedLoadRegisters, GuardedCall.get_bind, guardedNumber_eq hx, lift_some_bind,
    Memory.guardedSlice_eq, execute, Call.get_bind]
  refine bind_eq_some (GuardedCall.lift_settled _ _) fun bytes _ hbytes => ?_
  obtain ⟨hslice, rfl⟩ := Call.lift_eq_ok_iff.mp hbytes
  have hlength := Memory.length_of_slice (by omega) hslice
  refine bind_eq_some (change_eq_some ?_) fun _ loaded _ => ?_
  · rw [Guard.copy_of_le (Nat.zero_le _) hx16 hlength]
    rfl
  · exact change_eq_some (loaded.guardedStepIndex_eq decoded.x)

theorem guardedDraw_eq {rows : Fin 16}
    (hy : decoded.guardedArgument 1 = some (Field.y.extract decoded.word))
    (hrows : decoded.guardedNumber 2 = some rows.val) :
    machine.guardedDraw decoded = some (machine.draw decoded.x decoded.y rows) := by
  rw [guardedDraw, GuardedCall.get_bind, machine.guardedVx_eq hx, lift_some_bind,
    machine.guardedVy_eq hy, lift_some_bind, hrows, lift_some_bind, Memory.guardedSlice_eq, draw,
    Call.get_bind]
  refine bind_eq_some (GuardedCall.lift_settled _ _) fun bytes _ hbytes => ?_
  obtain ⟨hslice, rfl⟩ := Call.lift_eq_ok_iff.mp hbytes
  have hlength : bytes.length = rows := Memory.length_of_slice (by omega) hslice
  have hfits : bytes.length ≤ 15 := by omega
  obtain ⟨buffer, hbuffer, hagain⟩ := slice_of_copy hfits
  rw [← hlength, hbuffer, lift_some_bind]
  refine bind_eq_some (change_eq_some (guardedAssign_vf _ 0)) fun _ cleared _ => ?_
  rw [hagain, lift_some_bind, GuardedCall.get_bind, Screen.guardedToggleAll_eq, lift_some_bind,
    Call.get_bind, Screen.draw]
  dsimp only
  rw [GuardedCall.modify_bind, Call.modify_bind]
  exact change_eq_some (guardedAssign_vf _ _)

end Transfers

theorem add_bytes (a b : UInt8) :
    Guard.add16 a.toUInt16 b.toUInt16 = some (a.toUInt16 + b.toUInt16) ∧
      (a.toUInt16 + b.toUInt16).toUInt8 = a + b ∧
      (0xFF < a.toUInt16 + b.toUInt16 ↔ 255 < a.toNat + b.toNat) := by
  have ha := a.toNat_lt
  have hb := b.toNat_lt
  have hsum : (a.toUInt16 + b.toUInt16).toNat = a.toNat + b.toNat := by
    rw [UInt16.toNat_add, UInt8.toNat_toUInt16, UInt8.toNat_toUInt16]
    omega
  refine ⟨Guard.add16_of_lt ?_, ?_, ?_⟩
  · rw [UInt8.toNat_toUInt16, UInt8.toNat_toUInt16]
    omega
  · rw [UInt16.toUInt8_add, UInt8.toUInt8_toUInt16, UInt8.toUInt8_toUInt16]
  · rw [UInt16.lt_iff_toNat_lt, hsum]
    rfl

theorem guardedExecute_eq {machine : Machine} {decoded : Decoded} (hentry : decoded.entry ∈ table)
    (hpc : machine.registers.pc.toNat + 2 < 2 ^ 16) :
    machine.guardedExecute decoded = some (machine.execute decoded.instruction) := by
  have hargument := decoded.guardedArgument_eq hentry
  have hinstruction : decoded.instruction = decoded.operation.instruction decoded.word := rfl
  rw [hinstruction, guardedExecute]
  -- An operand that the operation does not have would be none here.
  cases hoperation : decoded.operation <;> rw [hoperation] at hargument
  case clearScreen => rfl
  case ret =>
    refine bind_eq_some ?_ fun _ _ _ => rfl
    rw [guardedOnRegisters, onRegisters]
    exact GuardedCall.on_eq_some machine.registers.guardedPop_eq
  case jump | loadIndex =>
    have haddress : decoded.guardedArgument 0 = some (Field.address.extract decoded.word) :=
      hargument 0
    refine change_eq_some ?_
    simp only [haddress, UInt16.ofNat_toNat]
    rfl
  case call =>
    have haddress : decoded.guardedArgument 0 = some (Field.address.extract decoded.word) :=
      hargument 0
    dsimp only
    rw [GuardedCall.get_bind, Operation.instruction, execute, Call.get_bind]
    refine bind_eq_some ?_ fun _ _ _ => change_eq_some ?_
    · rw [guardedOnRegisters, onRegisters]
      exact GuardedCall.on_eq_some (machine.registers.guardedPush_eq machine.registers.pc)
    · simp only [haddress, UInt16.ofNat_toNat]
      rfl
  case jumpOffset =>
    have haddress : decoded.guardedArgument 0 = some (Field.address.extract decoded.word) :=
      hargument 0
    have hv0 : machine.guardedRead 0 = some (machine.registers.read .v0) :=
      machine.guardedRead_eq .v0
    have hsum : (Field.address.extract decoded.word).toNat +
        (machine.registers.read .v0).toUInt16.toNat < 2 ^ 16 := by
      have hbase := Field.extract_address_lt decoded.word
      have hoffset := (machine.registers.read .v0).toNat_lt
      rw [UInt8.toNat_toUInt16]
      omega
    refine change_eq_some ?_
    simp only [haddress, hv0, Guard.add16_of_lt hsum, Option.bind_eq_bind, Option.bind_some,
      UInt16.ofNat_toNat]
    rfl
  case skipEqualByte | skipDifferentByte =>
    refine change_eq_some ?_
    simp only [machine.guardedVx_eq (hargument 0), guardedByte_eq (hargument 1),
      Option.bind_eq_bind, Option.bind_some, guardedSkip_eq hpc]
    rfl
  case skipEqual | skipDifferent =>
    refine change_eq_some ?_
    simp only [machine.guardedVx_eq (hargument 0), machine.guardedVy_eq (hargument 1),
      Option.bind_eq_bind, Option.bind_some, guardedSkip_eq hpc]
    rfl
  case skipPressed | skipReleased =>
    refine change_eq_some ?_
    simp only [machine.guardedVx_eq (hargument 0), Option.bind_eq_bind, Option.bind_some,
      guardedSkip_eq hpc]
    rfl
  case loadByte | addByte | random =>
    refine change_eq_some ?_
    simp only [machine.guardedVx_eq (hargument 0), guardedByte_eq (hargument 1),
      Option.bind_eq_bind, Option.bind_some, guardedAssignVx_eq _ (hargument 0)]
    rfl
  case load =>
    refine change_eq_some ?_
    simp only [machine.guardedVy_eq (hargument 1), Option.bind_eq_bind, Option.bind_some,
      guardedAssignVx_eq _ (hargument 0)]
    rfl
  case or | and | xor =>
    exact change_eq_some (machine.guardedCombine_eq (hargument 0) (hargument 1) _)
  case add =>
    obtain ⟨hsum, hvalue, hcarry⟩ :=
      add_bytes (machine.registers.read decoded.x) (machine.registers.read decoded.y)
    refine change_eq_some ?_
    simp only [machine.guardedVx_eq (hargument 0), machine.guardedVy_eq (hargument 1),
      Option.bind_eq_bind, Option.bind_some, hsum, hvalue, hcarry,
      guardedAssignResult_eq _ (hargument 0)]
    rfl
  case sub | subFrom =>
    refine change_eq_some ?_
    simp only [machine.guardedVx_eq (hargument 0), machine.guardedVy_eq (hargument 1),
      Option.bind_eq_bind, Option.bind_some, guardedAssignResult_eq _ (hargument 0)]
    rfl
  case shiftRight | shiftLeft =>
    refine change_eq_some ?_
    simp only [machine.guardedShifted_eq (hargument 0) (hargument 1), Option.bind_eq_bind,
      Option.bind_some, guardedAssignResult_eq _ (hargument 0)]
    rfl
  case draw =>
    have hrows : decoded.guardedNumber 2 = some (Field.nibble.extract decoded.word).toNat := by
      rw [Decoded.guardedNumber, hargument 2]
      rfl
    exact guardedDraw_eq (hargument 0) (hargument 1) hrows
  case readDelay => exact change_eq_some (guardedAssignVx_eq machine (hargument 0) _)
  case setDelay | setSound | addIndex =>
    refine change_eq_some ?_
    simp only [machine.guardedVx_eq (hargument 0)]
    rfl
  case awaitKey => exact change_eq_some (machine.guardedAwaitKey_eq (hargument 0))
  case loadGlyph =>
    have hdigit := (machine.registers.read decoded.x).toNat_lt
    have hproduct :
        (machine.registers.read decoded.x).toUInt16.toNat * (5 : UInt16).toNat < 2 ^ 16 := by
      have hfive : (5 : UInt16).toNat = 5 := rfl
      rw [UInt8.toNat_toUInt16, hfive]
      omega
    have hsum : (0 : UInt16).toNat + ((machine.registers.read decoded.x).toUInt16 * 5).toNat <
        2 ^ 16 := by
      rw [UInt16.toNat_zero, Nat.zero_add]
      exact UInt16.toNat_lt _
    refine change_eq_some ?_
    simp only [machine.guardedVx_eq (hargument 0), Option.bind_eq_bind, Option.bind_some,
      Guard.mul16_of_lt hproduct, Guard.add16_of_lt hsum, UInt16.zero_add]
    rfl
  case storeDecimal =>
    have hlength (value : UInt8) : (decimalDigits value).length ≤ 4096 := by
      have hdigits : (decimalDigits value).length = 3 := rfl
      omega
    dsimp only
    rw [GuardedCall.get_bind, machine.guardedVx_eq (hargument 0), lift_some_bind]
    exact guardedStoreAtIndex_eq (hlength _)
  case storeRegisters => exact guardedStoreRegisters_eq (hargument 0)
  case loadRegisters => exact guardedLoadRegisters_eq (hargument 0)

end Machine

end Chip8
