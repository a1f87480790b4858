import Chip8.Journal
import Chip8.Machine.Command

/-!
The records that a command leaves, computed from the machine that it is given to.
-/

namespace Chip8

/-- The text of a dialect in records. -/
def Dialect.text (dialect : Dialect) : String :=
  "Quirks \x7b shift: " ++ shift ++ ", index: " ++ index ++ " \x7d"
where
  /-- The shift source's name in records. -/
  shift : String := match dialect.shift with
    | .vx => "ShiftVx"
    | .vy => "ShiftVy"
  /-- The index step's name in records. -/
  index : String := match dialect.index with
    | .unchanged => "Unchanged"
    | .byX => "ByX"
    | .byXPlusOne => "ByXPlusOne"

namespace Record

def cpu (level : Level) (text : String) : Record := ⟨level, .cpu, text⟩

def reset : Record := cpu .info "machine reset"

def dialectSet (dialect : Dialect) : Record := cpu .info ("quirks set to " ++ dialect.text)

def unknownKey (event : String) (key : UInt8) : Record :=
  ⟨.warn, .keyboard, "ignoring " ++ event ++ " of unknown key " ++ Text.hexLiteral 1 key.toNat⟩

end Record

namespace Keypad

def pressJournal (key : UInt8) : List Record :=
  if key < 16 then [] else [.unknownKey "press" key]

def releaseJournal (key : UInt8) : List Record :=
  if key < 16 then [] else [.unknownKey "release" key]

end Keypad

namespace Machine

def registerName (x : Register) : String := "V" ++ Text.hexUpper x

def pcText (machine : Machine) : String := Text.hexLiteral 3 machine.registers.pc.toNat

/-- A step records the instruction that it performs, and a wait if that begins one. -/
def stepJournal (machine : Machine) : List Record :=
  match machine.current? with
  | none => []
  | some decoded =>
    let trace := .cpu .trace
      (machine.pcText ++ ": " ++ Text.hex 4 decoded.word.toNat ++ "  " ++ decoded.text)
    match decoded.instruction with
    | .awaitKey x => [trace, .cpu .debug ("waiting for a key for " ++ registerName x)]
    | _ => [trace]

/-- A fault is an error in the journal of a cycle only. -/
def faultJournal (fault : Option Fault) : List Record :=
  fault.toList.map fun fault => .cpu .error fault.message

def loadJournal (program : List UInt8) : List Record :=
  if program.length ≤ Memory.programCapacity then
    [.reset, .cpu .info ("loaded " ++ toString program.length ++ " byte ROM")]
  else [.cpu .error ("rejecting ROM of " ++ toString program.length ++ " bytes")]

def pauseJournal (machine : Machine) : List Record :=
  if machine.mode = .running then [.cpu .debug ("paused at " ++ machine.pcText)] else []

def resumeJournal (machine : Machine) : List Record :=
  if machine.mode = .paused then [.cpu .debug ("resumed at " ++ machine.pcText)] else []

def giveKeyJournal (machine : Machine) (key : UInt8) : List Record :=
  match machine.mode with
  | .waiting x =>
    [.cpu .debug ("got key " ++ Text.hexLiteral 1 key.toNat ++ " into " ++ registerName x)]
  | _ => []

def firedJournal (machine : Machine) (fired : Option UInt8) : List Record :=
  match fired with
  | none => []
  | some key => machine.giveKeyJournal key

def journal (machine : Machine) : Command → List Record
  | .load program => loadJournal program
  | .reset => [.reset]
  | .step => (machine.steps .step).flatMap stepJournal
  | .singleStep => (machine.steps .singleStep).flatMap stepJournal
  | .cycle => (machine.steps .cycle).flatMap stepJournal ++ faultJournal machine.cycle.2.1
  | .pause => machine.pauseJournal
  | .resume => machine.resumeJournal
  | .togglePause => machine.pauseJournal ++ machine.resumeJournal
  | .keyDown key => Keypad.pressJournal key
  | .keyUp key => Keypad.releaseJournal key ++ machine.firedJournal (machine.keypad.release key).2
  | .setKeys keys => machine.firedJournal (machine.keypad.update keys).2
  | .giveKey key => machine.giveKeyJournal key
  | .setDialect dialect => [.dialectSet dialect]
  | .setConfig config => [.dialectSet config.dialect]
  | .setSpeed _ | .takeDirty | .togglePixel _ _ | .clearScreen => []

end Machine

end Chip8
