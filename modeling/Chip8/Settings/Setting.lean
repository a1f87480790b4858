import Chip8.Dialect
import Chip8.Fault
import Chip8.Single.Shortest

/-!
The settings one by one: their names, and which texts are values of them.
-/

namespace Chip8

inductive Setting
  | speed
  | preset
  | index
  | color
  | background
  | scale
  | volume
  | wave
  deriving DecidableEq

namespace Setting

/-- The order in which settings are read and written. -/
def all : List Setting := [speed, preset, index, color, background, scale, volume, wave]

def name : Setting → String
  | speed => "speed"
  | preset => "quirk"
  | index => "index"
  | color => "color"
  | background => "bgColor"
  | scale => "scale"
  | volume => "volume"
  | wave => "wave"

/-- Colours and wave forms may be any text. -/
def accepts (value : String) : Setting → Bool
  | speed | scale => (Text.count? value).isSome
  | preset => (Preset.ofName? value).isSome
  | index => (IndexStep.ofName? value).isSome
  | volume => (Single.read? value).isSome
  | color | background | wave => true

def invalid (setting : Setting) (value : String) : Fault := .invalidSetting setting.name value

end Setting

def Preset.read (value : String) : Except Fault Preset :=
  match ofName? value with
  | some preset => .ok preset
  | none => .error (Setting.preset.invalid value)

def IndexStep.read (value : String) : Except Fault IndexStep :=
  match ofName? value with
  | some step => .ok step
  | none => .error (Setting.index.invalid value)

end Chip8
