import Chip8.Instruction.Basic
import Chip8.Machine.CallStack

/-!
The register file: V0 to VF, the index register, the program counter, the two timers and the call
stack.
-/

namespace Chip8

structure Registers where
  v : Vector UInt8 16
  index : UInt16
  pc : UInt16
  delay : UInt8
  sound : UInt8
  stack : CallStack
  deriving DecidableEq

namespace Registers

/-- Execution starts where programs are loaded. -/
def initial : Registers := ⟨Vector.replicate 16 0, 0, 0x200, 0, 0, .empty⟩

def read (registers : Registers) (x : Register) : UInt8 := registers.v[x]

def write (registers : Registers) (x : Register) (value : UInt8) : Registers :=
  { registers with v := registers.v.set x value }

def flag (registers : Registers) : UInt8 := registers.read .vf

/-- Writes a result after its flag, so that a result in VF replaces the flag. -/
def writeResult (registers : Registers) (x : Register) (value : UInt8) :
    Option UInt8 → Registers
  | none => registers.write x value
  | some flag => (registers.write .vf flag).write x value

/-- Writes a block of bytes to V0, V1 and so on. -/
def writeBlock (registers : Registers) (bytes : List UInt8) : Registers :=
  { registers with v := registers.v.mapIdx fun k old => bytes.getD k old }

/-- The values of V0 to Vx. -/
def readBlock (registers : Registers) (x : Register) : List UInt8 :=
  registers.v.toList.take (x + 1)

def jump (registers : Registers) (target : UInt16) : Registers := { registers with pc := target }

/-- Moves to the next instruction. -/
def advance (registers : Registers) : Registers := { registers with pc := registers.pc + 2 }

def countDown (timer : UInt8) : UInt8 := if timer = 0 then 0 else timer - 1

def tick (registers : Registers) : Registers :=
  { registers with delay := countDown registers.delay, sound := countDown registers.sound }

def onStack {α : Type} : Call CallStack α → Call Registers α :=
  Call.on Registers.stack fun registers stack => { registers with stack }

def push (address : UInt16) : Call Registers Unit := onStack (CallStack.push address)

def pop : Call Registers UInt16 := onStack CallStack.pop

end Registers

end Chip8
