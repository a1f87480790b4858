import Chip8.Machine.Basic

/-!
What each instruction does to a machine, change by change. The program counter already points past
the instruction. A fault ends an instruction where it happens.
-/

namespace Chip8

/-- The new value of Vx and, for the operations that have one, of the flag. Both are computed from
the operands before the instruction. -/
def Arithmetic.result (source : ShiftSource) (vx vy : UInt8) :
    Arithmetic → UInt8 × Option UInt8
  | load => (vy, none)
  | or => (vx ||| vy, none)
  | and => (vx &&& vy, none)
  | xor => (vx ^^^ vy, none)
  | add => (vx + vy, some (if 255 < vx.toNat + vy.toNat then 1 else 0))
  | sub => (vx - vy, some (if vy ≤ vx then 1 else 0))
  | subFrom => (vy - vx, some (if vx ≤ vy then 1 else 0))
  | shiftRight => let value := shifted; (value >>> 1, some (value &&& 1))
  | shiftLeft => let value := shifted; (value <<< 1, some (value >>> 7))
where
  /-- The operand of a shift. -/
  shifted : UInt8 := match source with
    | .vx => vx
    | .vy => vy

/-- The digits of a byte: hundreds, tens and ones. -/
def decimalDigits (value : UInt8) : List UInt8 := [value / 100, value / 10 % 10, value % 10]

namespace Machine

def holds (machine : Machine) : Condition → Bool
  | .equalByte x byte => machine.registers.read x == byte
  | .differentByte x byte => machine.registers.read x != byte
  | .equal x y => machine.registers.read x == machine.registers.read y
  | .different x y => machine.registers.read x != machine.registers.read y
  | .pressed x => machine.keypad.isPressed (machine.registers.read x)
  | .released x => !machine.keypad.isPressed (machine.registers.read x)

def withRegisters (machine : Machine) (registers : Registers) : Machine :=
  { machine with registers }

def jump (machine : Machine) (target : UInt16) : Machine :=
  machine.withRegisters (machine.registers.jump target)

def write (machine : Machine) (x : Register) (value : UInt8) : Machine :=
  machine.withRegisters (machine.registers.write x value)

def setIndex (machine : Machine) (index : UInt16) : Machine :=
  machine.withRegisters { machine.registers with index }

/-- Moves the index register as the dialect says after a block transfer of V0 to Vx. -/
def stepIndex (machine : Machine) (x : Register) : Machine :=
  machine.setIndex
    (machine.registers.index + machine.config.dialect.index.amount (UInt16.ofNat x))

/-- The index register as an address. -/
def indexAddress (machine : Machine) : UInt64 := machine.registers.index.toUInt64

/-- Reads all rows before it changes the flag or the screen. -/
def draw (x y : Register) (rows : Fin 16) : Call Machine Unit := do
  let machine ← get
  let left := (machine.registers.read x).toNat
  let top := (machine.registers.read y).toNat
  let sprite ← machine.memory.slice machine.indexAddress (UInt64.ofNat rows)
  modify (·.write .vf 0)
  let (screen, erased) := (← get).screen.draw left top sprite
  modify fun machine => { machine with screen }
  modify (·.write .vf (if erased then 1 else 0))

/-- Writes bytes to memory at the index register. -/
def storeAtIndex (bytes : List UInt8) : Call Machine Unit := do
  onMemory (Memory.store (← get).indexAddress bytes)

def execute : Instruction → Call Machine Unit
  | .clearScreen => modify fun machine => { machine with screen := machine.screen.clear }
  | .ret => do
    let target ← onRegisters Registers.pop
    modify (·.jump target)
  | .jump target => modify (·.jump (UInt16.ofNat target))
  | .call target => do
    onRegisters (Registers.push (← get).registers.pc)
    modify (·.jump (UInt16.ofNat target))
  | .jumpOffset base => modify fun machine =>
    machine.jump (UInt16.ofNat base + (machine.registers.read .v0).toUInt16)
  | .skip condition => modify fun machine =>
    if machine.holds condition then machine.withRegisters machine.registers.advance else machine
  | .loadByte x byte => modify (·.write x byte)
  | .addByte x byte => modify fun machine => machine.write x (machine.registers.read x + byte)
  | .arithmetic op x y => modify fun machine =>
    let (value, flag) := op.result machine.config.dialect.shift
      (machine.registers.read x) (machine.registers.read y)
    machine.withRegisters (machine.registers.writeResult x value flag)
  | .random x mask => modify fun machine =>
    let (byte, random) := machine.random.next
    { machine.write x (byte &&& mask) with random }
  | .draw x y rows => draw x y rows
  | .awaitKey x => modify fun machine =>
    { machine with mode := .waiting x, keypad := machine.keypad.arm }
  | .readDelay x => modify fun machine => machine.write x machine.registers.delay
  | .setDelay x => modify fun machine =>
    machine.withRegisters { machine.registers with delay := machine.registers.read x }
  | .setSound x => modify fun machine =>
    machine.withRegisters { machine.registers with sound := machine.registers.read x }
  | .loadIndex address => modify (·.setIndex (UInt16.ofNat address))
  | .addIndex x => modify fun machine =>
    machine.setIndex (machine.registers.index + (machine.registers.read x).toUInt16)
  | .loadGlyph x => modify fun machine =>
    machine.setIndex ((machine.registers.read x).toUInt16 * 5)
  | .storeDecimal x => do storeAtIndex (decimalDigits ((← get).registers.read x))
  | .storeRegisters x => do
    storeAtIndex ((← get).registers.readBlock x)
    modify (·.stepIndex x)
  | .loadRegisters x => do
    let machine ← get
    let bytes ← machine.memory.slice machine.indexAddress (UInt64.ofNat (x + 1))
    modify fun machine => machine.withRegisters (machine.registers.writeBlock bytes)
    modify (·.stepIndex x)

end Machine

end Chip8
