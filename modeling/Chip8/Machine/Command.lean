import Chip8.Machine.Step

/-!
The commands that a machine takes, as data, and what it replies to each.
-/

namespace Chip8

inductive Command
  | load (program : List UInt8)
  | reset
  | step
  | singleStep
  | cycle
  | pause
  | resume
  | togglePause
  | keyDown (key : UInt8)
  | keyUp (key : UInt8)
  | setKeys (keys : Vector Bool 16)
  | giveKey (key : UInt8)
  | setSpeed (speed : UInt32)
  | setDialect (dialect : Dialect)
  | setConfig (config : Config)
  | takeDirty
  | togglePixel (x y : Nat)
  | clearScreen
  deriving DecidableEq

/-- Only cycles send notices. The answer is whether a wait ended, whether the picture was dirty, or
whether a pixel was erased. -/
structure Reply where
  fault : Option Fault := none
  notices : List Notice := []
  answer : Option Bool := none
  deriving DecidableEq

namespace Machine

def apply (machine : Machine) : Command → Machine × Reply
  | .load program => let (loaded, fault) := settle (machine.load program); (loaded, { fault })
  | .reset => (machine.reset, {})
  | .step => let (stepped, fault) := machine.step; (stepped, { fault })
  | .singleStep => let (stepped, fault) := machine.singleStep; (stepped, { fault })
  | .cycle => let (cycled, fault, notices) := machine.cycle; (cycled, { fault, notices })
  | .pause => (machine.pause, {})
  | .resume => (machine.resume, {})
  | .togglePause => (machine.togglePause, {})
  | .keyDown key => (machine.keyDown key, {})
  | .keyUp key => (machine.keyUp key, {})
  | .setKeys keys => (machine.setKeys keys, {})
  | .giveKey key => (machine.giveKey key, { answer := some machine.isWaiting })
  | .setSpeed speed => (machine.setSpeed speed, {})
  | .setDialect dialect => (machine.setDialect dialect, {})
  | .setConfig config => (machine.setConfig config, {})
  | .takeDirty => let (clean, dirty) := machine.takeDirty; (clean, { answer := some dirty })
  | .togglePixel x y =>
    let (screen, erased) := machine.screen.toggle x y
    ({ machine with screen }, { answer := some erased })
  | .clearScreen => ({ machine with screen := machine.screen.clear }, {})

/-- The machines from which a command takes steps, in order. -/
def steps (machine : Machine) : Command → List Machine
  | .step => machine.visited 1
  | .singleStep => machine.resume.visited 1
  | .cycle => machine.visited machine.config.speed.toNat
  | _ => []

/-- The machine after a list of commands. -/
def after (machine : Machine) (commands : List Command) : Machine :=
  commands.foldl (fun m command => (m.apply command).1) machine

end Machine

/-- A machine that some commands lead to from a new one. -/
def Machine.Reachable (machine : Machine) : Prop :=
  ∃ config random commands, machine = (Machine.create config random).after commands

end Chip8
