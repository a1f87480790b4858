/-!
Records of what happens, for a reader who follows along. A record has a level, the part that it
comes from, and a text.
-/

namespace Chip8

/-- From the most urgent to the most detailed. -/
inductive Level
  | error
  | warn
  | info
  | debug
  | trace
  deriving DecidableEq

namespace Level

def detail : Level → Nat
  | error => 1
  | warn => 2
  | info => 3
  | debug => 4
  | trace => 5

/-- Errors and warnings have channels of their own; the rest share one. -/
def channel : Level → String
  | error => "error"
  | warn => "warn"
  | _ => "log"

end Level

/-- The parts of the program that write records. -/
inductive Part
  | cpu
  | keyboard
  | config
  deriving DecidableEq

def Part.name : Part → String
  | cpu => "cpu"
  | keyboard => "keyboard"
  | config => "config"

structure Record where
  level : Level
  part : Part
  text : String
  deriving DecidableEq

namespace Record

def line (entry : Record) : String :=
  "[chip8_vm::" ++ entry.part.name ++ "] " ++ entry.text

/-- The records that are not more detailed than a level. -/
def upTo (level : Level) (entries : List Record) : List Record :=
  entries.filter fun entry => entry.level.detail ≤ level.detail

end Record

end Chip8
