import Chip8.Call

/-!
The 4096 bytes of memory. Addresses and lengths are 64-bit words, and every access is checked
against the whole of its range before anything is read or written. A passed check is evidence
that the range ends within memory when counted without wrapping.
-/

namespace Chip8

structure Memory where
  bytes : Vector UInt8 4096
  deriving DecidableEq

namespace Memory

def programStart : Nat := 0x200

/-- The number of bytes from the program start to the end of memory. -/
def programCapacity : Nat := 4096 - programStart

/-- Sixteen glyphs for the hexadecimal digits, five rows each. -/
def font : List UInt8 := [
  0xF0, 0x90, 0x90, 0x90, 0xF0,
  0x20, 0x60, 0x20, 0x20, 0x70,
  0xF0, 0x10, 0xF0, 0x80, 0xF0,
  0xF0, 0x10, 0xF0, 0x10, 0xF0,
  0x90, 0x90, 0xF0, 0x10, 0x10,
  0xF0, 0x80, 0xF0, 0x10, 0xF0,
  0xF0, 0x80, 0xF0, 0x90, 0xF0,
  0xF0, 0x10, 0x20, 0x40, 0x40,
  0xF0, 0x90, 0xF0, 0x90, 0xF0,
  0xF0, 0x90, 0xF0, 0x10, 0xF0,
  0xF0, 0x90, 0xF0, 0x90, 0x90,
  0xE0, 0x90, 0xE0, 0x90, 0xE0,
  0xF0, 0x80, 0x80, 0x80, 0xF0,
  0xE0, 0x90, 0x90, 0x90, 0xE0,
  0xF0, 0x80, 0xF0, 0x80, 0xF0,
  0xF0, 0x80, 0xF0, 0x80, 0x80]

/-- The font from address zero on, and zeros after it. -/
def initial : Memory := ⟨Vector.ofFn fun address => font.getD address 0⟩

/-- Addition that stops at the largest word. -/
def saturatingAdd (a b : UInt64) : UInt64 := if a + b < a then 0xFFFFFFFFFFFFFFFF else a + b

/-- The last address of a range that is not empty. -/
def lastAddress (address length : UInt64) : UInt64 := saturatingAdd address (length - 1)

theorem toNat_saturatingAdd (a b : UInt64) :
    (saturatingAdd a b).toNat = min (a.toNat + b.toNat) 0xFFFFFFFFFFFFFFFF := by
  have ha := a.toNat_lt
  have hb := b.toNat_lt
  unfold saturatingAdd
  split <;> rename_i h <;> rw [UInt64.lt_iff_toNat_lt, UInt64.toNat_add] at h
  · have : (0xFFFFFFFFFFFFFFFF : UInt64).toNat = 0xFFFFFFFFFFFFFFFF := rfl
    omega
  · rw [UInt64.toNat_add]
    omega

theorem toNat_lastAddress {address length : UInt64} (h : length ≠ 0) :
    (lastAddress address length).toNat =
      min (address.toNat + length.toNat - 1) 0xFFFFFFFFFFFFFFFF := by
  have pos : 1 ≤ length := by
    rw [UInt64.le_iff_toNat_le]
    exact Nat.pos_of_ne_zero fun h0 => h (UInt64.toNat_inj.mp h0)
  have := UInt64.le_iff_toNat_le.mp pos
  have one : (1 : UInt64).toNat = 1 := rfl
  rw [lastAddress, toNat_saturatingAdd, UInt64.toNat_sub_of_le _ _ pos]
  omega

/-- An empty range may sit right at the end of memory. -/
def checkRange (address length : UInt64) :
    Except Fault (PLift (address.toNat + length.toNat ≤ 4096)) :=
  if empty : length = 0 then
    if h : address ≤ 4096 then
      .ok ⟨by subst empty; exact UInt64.le_iff_toNat_le.mp h⟩
    else .error (.outOfBounds address)
  else if h : lastAddress address length < 4096 then
    .ok ⟨by
      have last := UInt64.lt_iff_toNat_lt.mp h
      have size : (4096 : UInt64).toNat = 4096 := rfl
      rw [toNat_lastAddress empty] at last
      omega⟩
  else .error (.outOfBounds (lastAddress address length))

def get (memory : Memory) (address : UInt64) : Except Fault UInt8 := do
  let ⟨h⟩ ← checkRange address 1
  return memory.bytes[address.toNat]

def set (address : UInt64) (value : UInt8) : Call Memory Unit := do
  let ⟨h⟩ ← checkRange address 1
  modify fun memory => ⟨memory.bytes.set address.toNat value⟩

/-- The word at an address, high byte first. -/
def fetch (memory : Memory) (address : UInt64) : Except Fault UInt16 := do
  let ⟨h⟩ ← checkRange address 2
  have two : (2 : UInt64).toNat = 2 := rfl
  return memory.bytes[address.toNat].toUInt16 <<< 8 ||| memory.bytes[address.toNat + 1].toUInt16

def slice (memory : Memory) (address length : UInt64) : Except Fault (List UInt8) := do
  let ⟨h⟩ ← checkRange address length
  return List.ofFn fun k : Fin length.toNat => memory.bytes[address.toNat + k]

/-- Sets bytes one after the other from an address on, each with a check of its own. -/
def setAll (address : UInt64) : List UInt8 → Call Memory Unit
  | [] => return
  | byte :: rest => do
    set address byte
    setAll (address + 1) rest

/-- Sets bytes after a check of their whole range. -/
def store (address : UInt64) (bytes : List UInt8) : Call Memory Unit := do
  let _ ← checkRange address (UInt64.ofNat bytes.length)
  setAll address bytes

/-- Writes bytes one after the other from an address on. -/
def write (memory : Memory) (address : Nat) : List UInt8 → Memory
  | [] => memory
  | byte :: rest => write ⟨memory.bytes.setIfInBounds address byte⟩ (address + 1) rest

def loadProgram (program : List UInt8) : Call Memory Unit :=
  if programCapacity < program.length then throw (.programTooLarge program.length)
  else modify (·.write programStart program)

end Memory

end Chip8
