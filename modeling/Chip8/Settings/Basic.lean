import Chip8.Dialect
import Chip8.Single.Basic

/-!
What a user can set, and the configuration of a machine that follows from it.
-/

namespace Chip8

/-- The explicit index step takes the place of the preset's. Colours, scale, volume and wave form
are kept for the page. -/
structure Settings where
  speed : UInt32
  preset : Preset
  index : Option IndexStep
  color : String
  background : String
  scale : UInt32
  volume : Single
  wave : String
  deriving DecidableEq

namespace Settings

def default : Settings where
  speed := 10
  preset := .modern
  index := none
  color := "#ffffff"
  background := "#000000"
  scale := 10
  volume := .number false (.nearest 3 10)
  wave := "square"

def dialect (settings : Settings) : Dialect :=
  match settings.index with
  | none => settings.preset.dialect
  | some index => { settings.preset.dialect with index }

def config (settings : Settings) : Config := ⟨max settings.speed 1, settings.dialect⟩

/-- Equality of all fields, the volume as a number. -/
def same (s t : Settings) : Bool := s.volume.same t.volume && s == { t with volume := s.volume }

end Settings

end Chip8
