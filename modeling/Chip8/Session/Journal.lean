import Chip8.Machine.Journal
import Chip8.Session.Action
import Chip8.Settings.Journal

/-!
The records that a page's requests leave.
-/

namespace Chip8

namespace Session

def startJournal (storage : Option Store) : List Record := storage.elim [] Settings.loadJournal

/-- A refused name leaves no record. -/
def settingJournal (before : Session) (outcome : Ending Session Unit) : List Record :=
  match outcome with
  | .ok () session => before.machine.journal (.setDialect session.machine.config.dialect)
  | .error _ _ => []

end Session

namespace Page

/-- The machine's command that an action amounts to, if it is one. -/
def command? : Action → Option Command
  | .load program => some (.load program)
  | .reset => some .reset
  | .cycle => some .cycle
  | .step => some .singleStep
  | .pause => some .pause
  | .resume => some .resume
  | .togglePause => some .togglePause
  | .keyDown key => some (.keyDown key)
  | .keyUp key => some (.keyUp key)
  | .keyDownCode code => (Keypad.keyOfCode? code).map .keyDown
  | .keyUpCode code => (Keypad.keyOfCode? code).map .keyUp
  | .setKeys states => (keysOfBytes? states).map .setKeys
  | .setSpeed speed => some (.setSpeed speed)
  | _ => none

def journal (page : Page) : Action → List Record
  | .start _ => Session.startJournal page.storage
  | .startWith _ program => Session.startJournal page.storage ++ Machine.loadJournal program
  | .startWithPreset random program preset =>
    let fresh := Session.start page.storage random
    Session.startJournal page.storage ++ Machine.loadJournal program ++
      match fresh.load program with
      | .ok () loaded => loaded.settingJournal (loaded.setPreset preset)
      | .error _ _ => []
  | .setPreset name => page.session.settingJournal (page.session.setPreset name)
  | .setIndex name => page.session.settingJournal (page.session.setIndex name)
  | action =>
    match command? action with
    | some command => page.session.machine.journal command
    | none => []

end Page

end Chip8
