import Chip8.Proofs.SavedSettings
import Chip8.Settings.Journal

/-!
# Settings read one by one

Reading settings asks for every key on its own. A key that gives a value of its setting decides that
setting and nothing else; any other key leaves the default, and it leaves a warning if it gave a
text that is no value.
-/

namespace Chip8

namespace Setting

/-- The value that a text stands for, with the bounds of the setting enforced. -/
def parse? (value : String) : (setting : Setting) → Option setting.Value
  | speed | scale => (Text.count? value).map fun count => (max count 1 : UInt32)
  | preset => Preset.ofName? value
  | index => (IndexStep.ofName? value).map some
  | color | background | wave => some value
  | volume => (Single.read? value).map Single.clampUnit

/-- The warning about a text that is no value of its setting. -/
def warning (setting : Setting) (value : String) : Record where
  level := .warn
  part := .config
  text := "invalid value " ++ Text.quote value ++ " for setting " ++ Text.quote setting.name ++
    ", keeping the default"

variable {setting : Setting} {value : String}

theorem isSome_parse? (setting : Setting) (value : String) :
    (setting.parse? value).isSome = setting.accepts value := by
  cases setting with
  | speed | scale | index | volume => exact Option.isSome_map
  | preset | color | background | wave => rfl

/-- A setting has the value of its text, and without one it has its default. -/
theorem decode_eq (setting : Setting) (text : Option String) :
    setting.decode text =
      (text.bind fun value => setting.parse? value).getD (Settings.default.value setting) := by
  cases text with
  | none => exact Settings.decode_none setting
  | some value =>
    rw [Option.bind_some]
    cases setting with
    | speed | scale =>
      rw [parse?, decode, Option.bind_some]
      cases Text.count? value <;> rfl
    | index =>
      rw [parse?, decode, Option.bind_some]
      cases IndexStep.ofName? value <;> rfl
    | volume =>
      rw [parse?, decode, Option.bind_some]
      cases Single.read? value <;> rfl
    | preset | color | background | wave => rfl

end Setting

namespace Settings

variable {store : Store}

/-- The text under a setting's key that is no value of it, if there is one. -/
def malformed? (store : Store) (setting : Setting) : Option String :=
  (store.get? setting.name).filter fun value => (setting.parse? value).isNone

theorem value_load_eq (store : Store) (setting : Setting) :
    (load store).value setting =
      ((store.get? setting.name).bind fun value => setting.parse? value).getD
        (default.value setting) := by
  rw [value_load, Setting.decode_eq]
  rfl

theorem malformed?_eq_some_iff {setting : Setting} {value : String} :
    malformed? store setting = some value ↔
      store.get? setting.name = some value ∧ setting.parse? value = none := by
  rw [malformed?, Option.filter_eq_some_iff, Option.isNone_iff_eq_none]

theorem complaint?_eq (store : Store) (setting : Setting) :
    complaint? store setting = (malformed? store setting).map setting.invalid := by
  rw [complaint?, malformed?, Store.setting?]
  cases store.get? setting.name with
  | none => rfl
  | some value =>
    cases haccepts : setting.accepts value <;>
      simp [Option.filter, haccepts, ← Option.not_isSome, Setting.isSome_parse?]

theorem malformed?_eq_none {setting : Setting} (hany : ∀ value, setting.accepts value = true)
    (store : Store) : malformed? store setting = none := by
  refine Option.filter_eq_none_iff.mpr fun value _ => ?_
  rw [← Option.not_isSome, Setting.isSome_parse?, hany]
  decide

/-- Colours and wave forms may be any text, so five settings are left that can give a warning. -/
theorem loadJournal_eq (store : Store) :
    loadJournal store =
      [Setting.speed, .preset, .index, .scale, .volume].filterMap fun setting =>
        (malformed? store setting).map setting.warning := by
  have hrecords : loadJournal store =
      Setting.all.filterMap fun setting => (malformed? store setting).map setting.warning := by
    rw [loadJournal, complaints, List.map_filterMap]
    simp only [complaint?_eq, Option.map_map]
    rfl
  have hcolor : malformed? store .color = none := malformed?_eq_none (fun _ => rfl) store
  have hbackground : malformed? store .background = none :=
    malformed?_eq_none (fun _ => rfl) store
  have hwave : malformed? store .wave = none := malformed?_eq_none (fun _ => rfl) store
  rw [hrecords]
  simp only [Setting.all, List.filterMap_cons, hcolor, hbackground, hwave, Option.map_none]

/-- **Reading settings.** Whatever is in a store, the settings that are read from it are within
their bounds. A key that is missing, cannot be read or holds no value of its setting leaves the
default, any other key gives its value, and each decides about its own setting alone. There is one
warning for each text that is no value, in the order of reading, and no other. -/
theorem load_reads_each_key_alone (store : Store) :
    let settings := load store
    (1 ≤ settings.speed ∧ 1 ≤ settings.scale ∧ settings.volume.FromZeroToOne) ∧
      (∀ setting : Setting,
        store.items.lookup setting.name = none ∨ store.unreadable setting.name = true ∨
          malformed? store setting ≠ none →
        settings.value setting = default.value setting) ∧
      (∀ (setting : Setting) (text : String) (value : setting.Value),
        store.get? setting.name = some text → setting.parse? text = some value →
        settings.value setting = value) ∧
      (∀ (other : Store) (key : String), (∀ k, k ≠ key → other.get? k = store.get? k) →
        ∀ setting : Setting, setting.name ≠ key →
          (load other).value setting = settings.value setting) ∧
      loadJournal store =
        [Setting.speed, .preset, .index, .scale, .volume].filterMap fun setting =>
          (malformed? store setting).map setting.warning := by
  intro settings
  have hnormal : settings.Normal := normal_load store
  refine ⟨⟨hnormal.speed, hnormal.scale, hnormal.volume.units?⟩, ?_, ?_, ?_,
    loadJournal_eq store⟩
  · intro setting hunusable
    have hnone : ((store.get? setting.name).bind fun value => setting.parse? value) = none := by
      obtain hmissing | hunreadable | hmalformed := hunusable
      · have hget : store.get? setting.name = none := by
          rw [Store.get?, hmissing, ite_self]
        rw [hget, Option.bind_none]
      · have hget : store.get? setting.name = none := if_pos hunreadable
        rw [hget, Option.bind_none]
      · obtain ⟨text, htext⟩ := Option.ne_none_iff_exists'.mp hmalformed
        obtain ⟨hget, hparse⟩ := malformed?_eq_some_iff.mp htext
        rw [hget, Option.bind_some, hparse]
    rw [value_load_eq, hnone, Option.getD_none]
  · intro setting text value hget hparse
    rw [value_load_eq, hget, Option.bind_some, hparse, Option.getD_some]
  · intro other key hagree setting hname
    rw [value_load_eq, value_load_eq, hagree setting.name hname]

/-- A store with a speed that is no number, a scale and a volume out of bounds, and a preset that
cannot be read. -/
def garbledStore : Store :=
  .ofPage [("speed", "fast"), ("quirk", "legacy"), ("scale", "0"), ("volume", "7")] ["quirk"] [] ""

theorem garbledStore_loads :
    let settings := load garbledStore
    settings.speed = 10 ∧ settings.preset = .modern ∧ settings.index = none ∧
      settings.scale = 1 ∧ settings.volume = .number false .one ∧
      loadJournal garbledStore = [Setting.speed.warning "fast"] := by
  obtain ⟨-, hdefault, hvalue, -, hjournal⟩ := load_reads_each_key_alone garbledStore
  refine ⟨hdefault .speed (.inr (.inr (by decide))), hdefault .preset (.inr (.inl rfl)),
    hdefault .index (.inl rfl), hvalue .scale "0" (1 : UInt32) rfl rfl,
    hvalue .volume "7" (.number false .one) rfl rfl, ?_⟩
  rw [hjournal]
  rfl

end Settings

end Chip8
