import Chip8.Machine.Execute

/-!
Running a machine: one instruction, one instruction for a debugger, and a cycle of many with one
tick of the timers.
-/

namespace Chip8

/-- What a cycle reports, in the order in which it happens. -/
inductive Notice
  | fatal (fault : Fault)
  | sound (on : Bool)
  | frame (screen : Screen)
  deriving DecidableEq

namespace Machine

def fetch (machine : Machine) : Except Fault UInt16 :=
  machine.memory.fetch machine.registers.pc.toUInt64

/-- The instruction at the program counter, unless that is out of bounds or the word unknown. -/
def current? (machine : Machine) : Option Decoded := machine.fetch.toOption.bind decode

def advance (machine : Machine) : Machine := machine.withRegisters machine.registers.advance

/-- Performs a word that was fetched at an address, with the program counter past it. -/
def perform (word address : UInt16) : Call Machine Unit :=
  match decode word with
  | none => throw (.unknownOpcode word address)
  | some decoded => execute decoded.instruction

/-- Moves the program counter on as soon as the word is fetched. -/
def fetchAndPerform : Call Machine Unit := do
  let machine ← get
  let word ← machine.fetch
  modify advance
  perform word machine.registers.pc

/-- One instruction of a running machine. A fault halts the machine as the instruction left it. -/
def step (machine : Machine) : Machine × Option Fault :=
  if machine.mode = .running then
    match machine.fetchAndPerform with
    | .ok () next => (next, none)
    | .error fault left => (left.halt, some fault)
  else (machine, none)

/-- One instruction of a paused machine, which is paused again afterwards unless it waits or
halts. The picture counts as changed. A machine that is not paused takes a plain step. -/
def singleStep (machine : Machine) : Machine × Option Fault :=
  if machine.mode = .paused then
    let (stepped, fault) := machine.resume.step
    let paused := stepped.pause
    ({ paused with screen := paused.screen.markDirty }, fault)
  else machine.step

/-- Steps up to a count, and no further than to the first fault or stop. -/
def run (machine : Machine) : Nat → Machine × Option Fault
  | 0 => (machine, none)
  | n + 1 =>
    if machine.mode = .running then
      match machine.step with
      | (stepped, none) => stepped.run n
      | (halted, some fault) => (halted, some fault)
    else (machine, none)

/-- The machines from which a run takes its steps, in order. -/
def visited (machine : Machine) : Nat → List Machine
  | 0 => []
  | n + 1 =>
    if machine.mode = .running then
      machine :: match machine.step with
        | (stepped, none) => stepped.visited n
        | (_, some _) => []
    else []

/-- Timers only run while the machine does. -/
def tick (machine : Machine) : Machine :=
  if machine.mode = .running then machine.withRegisters machine.registers.tick else machine

def takeDirty (machine : Machine) : Machine × Bool :=
  ({ machine with screen := machine.screen.markClean }, machine.screen.dirty)

/-- As many steps as the configured speed says, then one tick. The sound is reported always, the
frame if it is dirty, and a fault before both. -/
def cycle (machine : Machine) : Machine × Option Fault × List Notice :=
  let (stopped, fault) := machine.run machine.config.speed.toNat
  let ticked := stopped.tick
  let (clean, dirty) := ticked.takeDirty
  let fatal := fault.toList.map Notice.fatal
  let frame := if dirty then [Notice.frame clean.screen] else []
  (clean, fault, fatal ++ Notice.sound ticked.sounds :: frame)

end Machine

end Chip8
