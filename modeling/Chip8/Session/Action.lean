import Chip8.Machine.Command
import Chip8.Session.Basic

/-!
The requests of a page, as data, and what they do to its session and its store.
-/

namespace Chip8

/-- A page and the store of its settings, if there is one. -/
structure Page where
  session : Session
  storage : Option Store

/-- Starting anew brings a random source of its own. Keys come as symbols, as codes of the page's
keyboard, or all at once as one byte each. -/
inductive Action
  | start (random : RandomSource)
  | startWith (random : RandomSource) (program : List UInt8)
  | startWithPreset (random : RandomSource) (program : List UInt8) (preset : String)
  | load (program : List UInt8)
  | reset
  | cycle
  | step
  | pause
  | resume
  | togglePause
  | keyDown (key : UInt8)
  | keyUp (key : UInt8)
  | keyDownCode (code : UInt32)
  | keyUpCode (code : UInt32)
  | setKeys (states : List UInt8)
  | setPreset (name : String)
  | setIndex (name : String)
  | setSpeed (speed : UInt32)
  | setScale (scale : UInt32)
  | setVolume (volume : Single)
  | setWave (wave : String)
  | setColors (color background : String)
  | save
  | takeDirty

/-- The answer is whether a key code is mapped, or whether the picture was dirty. -/
structure ActionReply where
  refusal : Option Refusal := none
  answer : Option Bool := none
  deriving DecidableEq

/-- Sixteen key states, any byte but zero for a held key. -/
def keysOfBytes? (states : List UInt8) : Option (Vector Bool 16) :=
  if h : states.length = 16 then some ⟨(states.map (· != 0)).toArray, by simp [h]⟩ else none

namespace Page

/-- Opens a page on a store. -/
def start (storage : Option Store) (random : RandomSource) : Page :=
  ⟨.start storage random, storage⟩

def withSession (page : Page) (session : Session) : Page × ActionReply :=
  ({ page with session }, {})

/-- Takes over a session together with its fault. -/
def adopt (page : Page) : Session × Option Fault → Page × ActionReply
  | (session, fault) => ({ page with session }, { refusal := fault.map .fault })

/-- Makes a call on a new session, which takes the place of the old one unless the call fails. -/
def renew (page : Page) (random : RandomSource) (call : Call Session Unit) : Page × ActionReply :=
  match call (.start page.storage random) with
  | .ok () session => page.withSession session
  | .error fault _ => (page, { refusal := some (.fault fault) })

def withMachine (page : Page) (machine : Machine) : Page :=
  { page with session := { page.session with machine } }

/-- Gives a mapped key code to the machine. -/
def keyCode (page : Page) (code : UInt32) (event : Machine → UInt8 → Machine) :
    Page × ActionReply :=
  match Keypad.keyOfCode? code with
  | some key => (page.withMachine (event page.session.machine key), { answer := some true })
  | none => (page, { answer := some false })

/-- Without a store nothing can be saved; a refused write keeps the ones before it. -/
def save (page : Page) : Page × ActionReply :=
  match page.storage with
  | none => (page, { refusal := some (.fault (.storage "localStorage unavailable")) })
  | some store =>
    let (saved, fault) := page.session.settings.save store
    ({ page with storage := some saved }, { refusal := fault.map .fault })

def apply (page : Page) : Action → Page × ActionReply
  | .start random => page.withSession (.start page.storage random)
  | .startWith random program => page.renew random (Session.load program)
  | .startWithPreset random program preset => page.renew random do
    Session.load program
    Session.setPreset preset
  | .load program => page.adopt (settle (page.session.load program))
  | .reset => page.withSession page.session.reset
  | .cycle => page.adopt page.session.cycle
  | .step => page.adopt page.session.step
  | .pause => (page.withMachine page.session.machine.pause, {})
  | .resume => (page.withMachine page.session.machine.resume, {})
  | .togglePause => (page.withMachine page.session.machine.togglePause, {})
  | .keyDown key => (page.withMachine (page.session.machine.keyDown key), {})
  | .keyUp key => (page.withMachine (page.session.machine.keyUp key), {})
  | .keyDownCode code => page.keyCode code Machine.keyDown
  | .keyUpCode code => page.keyCode code Machine.keyUp
  | .setKeys states =>
    match keysOfBytes? states with
    | some keys => (page.withMachine (page.session.machine.setKeys keys), {})
    | none => (page, { refusal := some .keyCount })
  | .setPreset name => page.adopt (settle (page.session.setPreset name))
  | .setIndex name => page.adopt (settle (page.session.setIndex name))
  | .setSpeed speed => page.withSession (page.session.setSpeed speed)
  | .setScale scale => page.withSession (page.session.setScale scale)
  | .setVolume volume => page.withSession (page.session.setVolume volume)
  | .setWave wave => page.withSession (page.session.setWave wave)
  | .setColors color background => page.withSession (page.session.setColors color background)
  | .save => page.save
  | .takeDirty =>
    let (session, dirty) := page.session.takeDirty
    ({ page with session }, { answer := some dirty })

/-- The page after a list of actions. -/
def after (page : Page) (actions : List Action) : Page :=
  actions.foldl (fun p action => (p.apply action).1) page

/-- A page that some actions lead to from its opening. -/
def Reachable (page : Page) : Prop :=
  ∃ storage random actions, page = (Page.start storage random).after actions

end Page

end Chip8
