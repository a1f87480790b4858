import Chip8.Settings.Basic
import Chip8.Settings.Setting
import Chip8.Settings.Store

/-!
Settings in a store. Reading never fails: what is missing, unreadable or malformed has its default
value. Writing stops at the first refusal.
-/

namespace Chip8

def Store.setting? (store : Store) (setting : Setting) : Option String := store.get? setting.name

namespace Settings

/-- Speed and scale are at least one, and the volume lies in the unit interval. -/
def load (store : Store) : Settings where
  speed := ((store.setting? .speed).bind Text.count?).elim default.speed (max · 1)
  preset := ((store.setting? .preset).bind Preset.ofName?).getD default.preset
  index := (store.setting? .index).bind IndexStep.ofName?
  color := (store.setting? .color).getD default.color
  background := (store.setting? .background).getD default.background
  scale := ((store.setting? .scale).bind Text.count?).elim default.scale (max · 1)
  volume := ((store.setting? .volume).bind Single.read?).elim default.volume Single.clampUnit
  wave := (store.setting? .wave).getD default.wave

/-- The complaint about a value that is there and malformed. -/
def complaint? (store : Store) (setting : Setting) : Option Fault :=
  (store.setting? setting).bind fun value =>
    if setting.accepts value then none else some (setting.invalid value)

def complaints (store : Store) : List Fault := Setting.all.filterMap (complaint? store)

/-- The text that a setting is kept as. Without an explicit index step there is none for it. -/
def text? (settings : Settings) : Setting → Option String
  | .speed => some (toString settings.speed.toNat)
  | .preset => some settings.preset.name
  | .index => settings.index.map IndexStep.name
  | .color => some settings.color
  | .background => some settings.background
  | .scale => some (toString settings.scale.toNat)
  | .volume => some settings.volume.text
  | .wave => some settings.wave

def entries (settings : Settings) : List (String × String) :=
  Setting.all.filterMap fun setting => (settings.text? setting).map (setting.name, ·)

/-- The store that results, and the refusal if there was one. -/
def save (settings : Settings) (store : Store) : Store × Option Fault :=
  store.setAll settings.entries

end Settings

end Chip8
