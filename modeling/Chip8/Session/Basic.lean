import Chip8.Machine.Step
import Chip8.Settings.Storage

/-!
A session of a page: a machine, the signals that it has left for the page, and the user's settings.
-/

namespace Chip8

/-- What the page has yet to take notice of. -/
structure Signals where
  screenDirty : Bool := false
  tone : Bool := false
  lastFault : Option Fault := none
  deriving DecidableEq

/-- A notice sets its signal. -/
def Signals.note (signals : Signals) : Notice → Signals
  | .fatal fault => { signals with lastFault := some fault }
  | .sound on => { signals with tone := on }
  | .frame _ => { signals with screenDirty := true }

structure Session where
  machine : Machine
  signals : Signals
  settings : Settings

/-- Why a page's request is refused. -/
inductive Refusal
  | fault (cause : Fault)
  | keyCount
  deriving DecidableEq

def Refusal.message : Refusal → String
  | fault cause => cause.message
  | keyCount => "key state must have 16 entries"

namespace Session

/-- A paused machine, configured by the stored settings if there is a store. -/
def start (storage : Option Store) (random : RandomSource) : Session :=
  let settings := storage.elim Settings.default Settings.load
  ⟨.create settings.config random, {}, settings⟩

def onMachine {α : Type} : Call Machine α → Call Session α :=
  Call.on Session.machine fun session machine => { session with machine }

/-- A new program takes back all signals. -/
def load (program : List UInt8) : Call Session Unit := do
  onMachine (Machine.load program)
  modify fun session => { session with signals := {} }

def reset (session : Session) : Session :=
  { session with machine := session.machine.reset, signals := {} }

def cycle (session : Session) : Session × Option Fault :=
  let (machine, fault, notices) := session.machine.cycle
  ({ session with machine, signals := notices.foldl Signals.note session.signals }, fault)

/-- A debugger's step notes its fault and takes the picture, but leaves the tone as it was. -/
def step (session : Session) : Session × Option Fault :=
  let (stepped, fault) := session.machine.singleStep
  let (machine, dirty) := stepped.takeDirty
  let noted := (fault.toList.map Notice.fatal).foldl Signals.note session.signals
  ({ session with machine, signals := { noted with screenDirty := noted.screenDirty || dirty } },
    fault)

def setSpeed (session : Session) (speed : UInt32) : Session :=
  let machine := session.machine.setSpeed speed
  { session with machine, settings := { session.settings with speed := machine.config.speed } }

/-- Takes over settings, with their dialect for the machine. -/
def withDialect (session : Session) (settings : Settings) : Session :=
  { session with machine := session.machine.setDialect settings.config.dialect, settings }

/-- A preset drops an explicit index step. -/
def setPreset (name : String) : Call Session Unit := do
  let preset ← Preset.read name
  modify fun session => session.withDialect { session.settings with preset, index := none }

def setIndex (name : String) : Call Session Unit := do
  let index ← IndexStep.read name
  modify fun session => session.withDialect { session.settings with index := some index }

def setColors (session : Session) (color background : String) : Session :=
  { session with settings := { session.settings with color, background } }

def setScale (session : Session) (scale : UInt32) : Session :=
  { session with settings := { session.settings with scale := max scale 1 } }

def setVolume (session : Session) (volume : Single) : Session :=
  { session with settings := { session.settings with volume := volume.clampUnit } }

def setWave (session : Session) (wave : String) : Session :=
  { session with settings := { session.settings with wave } }

def takeDirty (session : Session) : Session × Bool :=
  ({ session with signals := { session.signals with screenDirty := false } },
    session.signals.screenDirty)

/-- What the page shows as settings: the machine's speed and index step, and the rest as set. -/
def shown (session : Session) : Settings :=
  { session.settings with
    speed := session.machine.config.speed
    index := some session.machine.config.dialect.index }

def lastError (session : Session) : Option String := session.signals.lastFault.map Fault.message

end Session

end Chip8
