/-!
The two behaviours in which interpreters differ, and the presets that name their usual
combinations.
-/

namespace Chip8

/-- The register that a shift reads; the result goes to Vx in either case. -/
inductive ShiftSource
  | vx
  | vy
  deriving DecidableEq

/-- What a block transfer of V0 to Vx does to the index register afterwards. -/
inductive IndexStep
  | unchanged
  | byX
  | byXPlusOne
  deriving DecidableEq

namespace IndexStep

/-- How far the index register moves, modulo 2^16. -/
def amount (x : UInt16) : IndexStep → UInt16
  | unchanged => 0
  | byX => x
  | byXPlusOne => x + 1

def name : IndexStep → String
  | unchanged => "unchanged"
  | byX => "x"
  | byXPlusOne => "x+1"

def ofName? : String → Option IndexStep
  | "unchanged" => some unchanged
  | "x" => some byX
  | "x+1" => some byXPlusOne
  | _ => none

end IndexStep

structure Dialect where
  shift : ShiftSource
  index : IndexStep
  deriving DecidableEq

/-- `legacy` is the first interpreter's behaviour, `modern` that of its successors. -/
inductive Preset
  | legacy
  | shiftOnly
  | modern
  deriving DecidableEq

namespace Preset

def dialect : Preset → Dialect
  | legacy => ⟨.vy, .byXPlusOne⟩
  | shiftOnly => ⟨.vx, .byXPlusOne⟩
  | modern => ⟨.vx, .unchanged⟩

def name : Preset → String
  | legacy => "legacy"
  | shiftOnly => "shift-only"
  | modern => "modern"

def ofName? : String → Option Preset
  | "legacy" => some legacy
  | "shift-only" => some shiftOnly
  | "modern" => some modern
  | _ => none

end Preset

/-- A cycle runs `speed` instructions. -/
structure Config where
  speed : UInt32
  dialect : Dialect
  deriving DecidableEq

namespace Config

def ofPreset (preset : Preset) : Config := ⟨10, preset.dialect⟩

def default : Config := ofPreset .modern

/-- A speed of zero counts as one. -/
def withSpeed (config : Config) (speed : UInt32) : Config := { config with speed := max speed 1 }

end Config

end Chip8
