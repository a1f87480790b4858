import Chip8.Dialect
import Chip8.Machine.Keypad
import Chip8.Machine.Memory
import Chip8.Machine.RandomSource
import Chip8.Machine.Registers
import Chip8.Machine.Screen

/-!
The machine as a whole, and the operations on it that run no instruction.
-/

namespace Chip8

/-- A machine is paused by its user or for want of a program, waits for a key on behalf of a
register, and is halted by a fault. -/
inductive Mode
  | running
  | paused
  | waiting (register : Register)
  | halted
  deriving DecidableEq

structure Machine where
  memory : Memory
  registers : Registers
  screen : Screen
  keypad : Keypad
  mode : Mode
  config : Config
  random : RandomSource

namespace Machine

/-- A machine without a program. -/
def create (config : Config) (random : RandomSource) : Machine where
  memory := .initial
  registers := .initial
  screen := .blank
  keypad := .idle
  mode := .paused
  config := config.withSpeed config.speed
  random := random

/-- Everything but the configuration and the random source starts afresh, and the picture counts
as changed. -/
def reset (machine : Machine) : Machine :=
  { machine with
    memory := .initial
    registers := .initial
    screen := machine.screen.clear
    keypad := .idle
    mode := .paused }

def onMemory {α : Type} : Call Memory α → Call Machine α :=
  Call.on Machine.memory fun machine memory => { machine with memory }

def onRegisters {α : Type} : Call Registers α → Call Machine α :=
  Call.on Machine.registers fun machine registers => { machine with registers }

/-- Resets the machine and starts a program. One that does not fit is refused beforehand. -/
def load (program : List UInt8) : Call Machine Unit :=
  if Memory.programCapacity < program.length then throw (.programTooLarge program.length)
  else do
    modify reset
    onMemory (Memory.loadProgram program)
    modify fun machine => { machine with mode := .running }

def halt (machine : Machine) : Machine := { machine with mode := .halted }

def pause (machine : Machine) : Machine :=
  if machine.mode = .running then { machine with mode := .paused } else machine

def resume (machine : Machine) : Machine :=
  if machine.mode = .paused then { machine with mode := .running } else machine

def togglePause (machine : Machine) : Machine :=
  if machine.mode = .running then machine.pause else machine.resume

/-- Ends a wait: the waiting register gets the key. Without a wait nothing happens. -/
def giveKey (machine : Machine) (key : UInt8) : Machine :=
  match machine.mode with
  | .waiting register =>
    { machine with
      registers := machine.registers.write register key
      keypad := machine.keypad.disarm
      mode := .running }
  | _ => machine

def isWaiting (machine : Machine) : Bool :=
  match machine.mode with
  | .waiting _ => true
  | _ => false

/-- Takes over a keypad, and ends a wait with the key that fired its latch. -/
def withKeypad (machine : Machine) : Keypad × Option UInt8 → Machine
  | (keypad, none) => { machine with keypad }
  | (keypad, some key) => { machine with keypad }.giveKey key

def keyDown (machine : Machine) (key : UInt8) : Machine :=
  { machine with keypad := machine.keypad.press key }

def keyUp (machine : Machine) (key : UInt8) : Machine :=
  machine.withKeypad (machine.keypad.release key)

def setKeys (machine : Machine) (keys : Vector Bool 16) : Machine :=
  machine.withKeypad (machine.keypad.update keys)

def setSpeed (machine : Machine) (speed : UInt32) : Machine :=
  { machine with config := machine.config.withSpeed speed }

def setDialect (machine : Machine) (dialect : Dialect) : Machine :=
  { machine with config := { machine.config with dialect } }

def setConfig (machine : Machine) (config : Config) : Machine :=
  (machine.setSpeed config.speed).setDialect config.dialect

/-- A tone sounds while the sound timer runs, but never from a halted machine. -/
def sounds (machine : Machine) : Bool := machine.mode ≠ .halted ∧ machine.registers.sound ≠ 0

end Machine

end Chip8
