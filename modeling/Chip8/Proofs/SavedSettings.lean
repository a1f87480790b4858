import Chip8.Proofs.SettingsStorage

/-!
# Settings key by key

Each setting is read from the text under its own key. A save writes its entries up to the first
refusal, so each key holds either the text of the saved setting or the text that was there. The
former reads as the setting with its bounds enforced, and that is the setting itself if it has been
loaded before: this is why loading and saving in turn moves nothing.
-/

namespace Chip8

namespace Setting

/-- The type of a setting's values. -/
def Value : Setting → Type
  | speed | scale => UInt32
  | preset => Preset
  | index => Option IndexStep
  | color | background | wave => String
  | volume => Single

/-- Equality of two values of a setting, of volumes as numbers. -/
def Alike : (setting : Setting) → setting.Value → setting.Value → Prop
  | volume, value, other => Single.same value other = true
  | _, value, other => value = other

/-- The value of a setting with the text under its key, if there is one. -/
def decode (text : Option String) : (setting : Setting) → setting.Value
  | speed => ((text.bind Text.count?).elim Settings.default.speed (max · 1) : UInt32)
  | preset => (text.bind Preset.ofName?).getD Settings.default.preset
  | index => text.bind IndexStep.ofName?
  | color => text.getD Settings.default.color
  | background => text.getD Settings.default.background
  | scale => ((text.bind Text.count?).elim Settings.default.scale (max · 1) : UInt32)
  | volume => (text.bind Single.read?).elim Settings.default.volume Single.clampUnit
  | wave => text.getD Settings.default.wave

end Setting

namespace Single

/-- A number from zero to one. The zero may have a sign. -/
def FromZeroToOne (value : Single) : Prop :=
  ∃ units : Int, value.units? = some units ∧ 0 ≤ units ∧ units ≤ 2 ^ 149

theorem same_clampUnit {value : Single} (hvalue : value.FromZeroToOne) :
    value.clampUnit.same value = true := by
  obtain ⟨units, hunits, hlow, hhigh⟩ := hvalue
  cases value with
  | nan => contradiction
  | number negative magnitude =>
    cases negative with
    | false =>
      obtain rfl := Option.some.inj hunits
      have hone : Rank.units magnitude ≤ Rank.units Rank.one := by
        rw [Rank.units_one]
        exact_mod_cast hhigh
      have hunit : (number false magnitude).InUnit :=
        Rank.strictMono_units.le_iff_le.mp hone
      rw [hunit.clampUnit_eq]
      simp [same]
    | true =>
      obtain rfl := Option.some.inj hunits
      have hzero : Rank.units magnitude = 0 := by omega
      have hmagnitude : magnitude = Rank.zero :=
        Fin.ext (Rank.strictMono_units.injective hzero)
      rw [hmagnitude]
      rfl

end Single

namespace Store

variable {store : Store} {key value : String} {items entries : List (String × String)}

/-- The entries that are written: those before the first refusal. -/
def accepted (store : Store) (entries : List (String × String)) : List (String × String) :=
  entries.takeWhile fun entry => (store.refusal entry.1).isNone

theorem setAll_eq (store : Store) (entries : List (String × String)) :
    store.setAll entries =
      ({ store with items := insertAll (store.accepted entries) store.items },
        entries.findSome? fun entry => (store.refusal entry.1).map Fault.storage) := by
  induction entries generalizing store with
  | nil => rfl
  | cons entry rest ih =>
    obtain ⟨key, value⟩ := entry
    cases hrefusal : store.refusal key with
    | none => simp [setAll, set, accepted, hrefusal, ih, insertAll]
    | some reason => simp [setAll, set, accepted, hrefusal, insertAll]

theorem nodup_accepted (store : Store) (hnodup : (entries.map Prod.fst).Nodup) :
    ((store.accepted entries).map Prod.fst).Nodup :=
  hnodup.sublist ((List.takeWhile_sublist _).map _)

/-- What an accepted entry gives a key is what the entries give it. -/
theorem lookup_of_accepted (hwritten : (store.accepted entries).lookup key = some value) :
    entries.lookup key = some value := by
  obtain ⟨refused, hsplit⟩ : store.accepted entries <+: entries := List.takeWhile_prefix _
  rw [← hsplit, List.lookup_append, hwritten]
  rfl

theorem insert_of_lookup (hlookup : items.lookup key = some value) :
    insert key value items = items := by
  induction items with
  | nil => contradiction
  | cons item rest ih =>
    obtain ⟨other, old⟩ := item
    rw [lookup_cons] at hlookup
    by_cases hkey : other = key
    · subst hkey
      rw [if_pos rfl] at hlookup
      obtain rfl := Option.some.inj hlookup
      rw [insert, if_pos rfl]
    · rw [if_neg (Ne.symm hkey)] at hlookup
      rw [insert, if_neg hkey, ih hlookup]

theorem insertAll_of_lookup
    (hlookup : ∀ entry ∈ entries, items.lookup entry.1 = some entry.2) :
    insertAll entries items = items := by
  induction entries with
  | nil => rfl
  | cons entry rest ih =>
    obtain ⟨hentry, hrest⟩ := List.forall_mem_cons.mp hlookup
    rw [insertAll, List.foldl_cons, insert_of_lookup hentry]
    exact ih hrest

theorem lookup_of_mem (hnodup : (entries.map Prod.fst).Nodup) {entry : String × String}
    (hmem : entry ∈ entries) : entries.lookup entry.1 = some entry.2 := by
  induction entries with
  | nil => contradiction
  | cons first rest ih =>
    obtain ⟨hnew, hrest⟩ := List.nodup_cons.mp hnodup
    rw [lookup_cons]
    obtain rfl | hlater := List.mem_cons.mp hmem
    · rw [if_pos rfl]
    · have hkey : entry.1 ≠ first.1 := fun heq => hnew (heq ▸ List.mem_map_of_mem hlater)
      rw [if_neg hkey, ih hrest hlater]

theorem lookup_insertAll_of_mem (hnodup : (entries.map Prod.fst).Nodup)
    {entry : String × String} (hmem : entry ∈ entries) :
    (insertAll entries items).lookup entry.1 = some entry.2 := by
  rw [lookup_insertAll hnodup, lookup_of_mem hnodup hmem, Option.some_or]

theorem insertAll_insertAll (hnodup : (entries.map Prod.fst).Nodup)
    (items : List (String × String)) :
    insertAll entries (insertAll entries items) = insertAll entries items :=
  insertAll_of_lookup fun _ hmem => lookup_insertAll_of_mem hnodup hmem

/-- Writing the same entries once more writes and refuses the same again. -/
theorem setAll_setAll (hnodup : (entries.map Prod.fst).Nodup) (store : Store) :
    (store.setAll entries).1.setAll entries = store.setAll entries := by
  rw [setAll_eq, setAll_eq]
  have hagain := insertAll_insertAll (store.nodup_accepted hnodup) store.items
  exact congrArg (fun items => ({ store with items }, _)) hagain

end Store

namespace Settings

variable {settings : Settings} {store : Store} {setting : Setting}

def value (settings : Settings) : (setting : Setting) → setting.Value
  | .speed => settings.speed
  | .preset => settings.preset
  | .index => settings.index
  | .color => settings.color
  | .background => settings.background
  | .scale => settings.scale
  | .volume => settings.volume
  | .wave => settings.wave

theorem ext_value {other : Settings}
    (hvalue : ∀ setting, settings.value setting = other.value setting) : settings = other := by
  obtain ⟨⟩ := settings
  obtain ⟨⟩ := other
  rw [mk.injEq]
  exact ⟨hvalue .speed, hvalue .preset, hvalue .index, hvalue .color, hvalue .background,
    hvalue .scale, hvalue .volume, hvalue .wave⟩

/-- The settings with their bounds enforced. -/
def clamped (settings : Settings) : Settings :=
  { settings with
    speed := max settings.speed 1
    scale := max settings.scale 1
    volume := settings.volume.clampUnit }

theorem Normal.clamped_eq (hnormal : settings.Normal) : settings.clamped = settings := by
  rw [clamped, max_one_eq hnormal.speed, max_one_eq hnormal.scale, hnormal.volume.clampUnit_eq]

theorem value_load (store : Store) (setting : Setting) :
    (load store).value setting = setting.decode (store.setting? setting) := by
  cases setting <;> rfl

theorem decode_none (setting : Setting) : setting.decode none = default.value setting := by
  cases setting <;> rfl

/-- The text of a setting reads as the setting with its bounds enforced. -/
theorem decode_text {text : String} (htext : settings.text? setting = some text) :
    setting.decode (some text) = settings.clamped.value setting := by
  cases setting with
  | speed | scale =>
    obtain rfl := Option.some.inj htext
    rw [Setting.decode, Option.bind_some, Text.count?_toString]
    rfl
  | preset =>
    obtain rfl := Option.some.inj htext
    rw [Setting.decode, Option.bind_some, Preset.ofName?_name]
    rfl
  | index =>
    obtain ⟨step, hindex, rfl⟩ := Option.map_eq_some_iff.mp htext
    exact step.ofName?_name.trans hindex.symm
  | volume =>
    obtain rfl := Option.some.inj htext
    rw [Setting.decode, Option.bind_some, Single.read?_text]
    rfl
  | color | background | wave =>
    obtain rfl := Option.some.inj htext
    rfl

theorem save_eq (settings : Settings) (store : Store) :
    settings.save store =
      ({ store with
          items := Store.insertAll (store.accepted settings.entries) store.items },
        settings.entries.findSome? fun entry => (store.refusal entry.1).map Fault.storage) :=
  store.setAll_eq settings.entries

/-- A save leaves the old text of a setting or puts the new one in its place. -/
theorem setting?_save_cases (settings : Settings) (store : Store) (setting : Setting) :
    (settings.save store).1.setting? setting = store.setting? setting ∨
      ∃ text, settings.text? setting = some text ∧
        (settings.save store).1.setting? setting = some text := by
  rw [save_eq]
  simp only [Store.setting?, Store.get?]
  by_cases hunreadable : store.unreadable setting.name = true
  · left
    rw [if_pos hunreadable, if_pos hunreadable]
  · rw [if_neg hunreadable, if_neg hunreadable,
      Store.lookup_insertAll (store.nodup_accepted settings.nodup_entries)]
    cases hwritten : (store.accepted settings.entries).lookup setting.name with
    | none => exact .inl (Option.none_or)
    | some text =>
      have htext := Store.lookup_of_accepted hwritten
      rw [lookup_entries] at htext
      exact .inr ⟨text, htext, rfl⟩

/-- Settings that come from a store may be saved there without any effect on the next load, whatever
the store refuses to read or to write. -/
theorem load_save_load (store : Store) : load ((load store).save store).1 = load store := by
  refine ext_value fun setting => ?_
  rw [value_load]
  obtain hkept | ⟨text, htext, hwritten⟩ := setting?_save_cases (load store) store setting
  · rw [hkept, value_load]
  · rw [hwritten, decode_text htext, (normal_load store).clamped_eq]

theorem save_save (settings : Settings) (store : Store) :
    settings.save (settings.save store).1 = settings.save store :=
  Store.setAll_setAll settings.nodup_entries store

/-- A key that is no setting's name is in no entry. -/
theorem lookup_save_of_ne {key : String} (hkey : ∀ setting : Setting, key ≠ setting.name) :
    (settings.save store).1.items.lookup key = store.items.lookup key := by
  have hnone : settings.entries.lookup key = none := by
    refine List.lookup_eq_none_iff.mpr fun entry hentry => bne_iff_ne.mpr ?_
    obtain ⟨setting, -, hentry⟩ := List.mem_filterMap.mp hentry
    obtain ⟨text, -, rfl⟩ := Option.map_eq_some_iff.mp hentry
    exact hkey setting
  rw [save_eq, Store.lookup_insertAll (store.nodup_accepted settings.nodup_entries)]
  cases hwritten : (store.accepted settings.entries).lookup key with
  | none => rfl
  | some text =>
    rw [Store.lookup_of_accepted hwritten] at hnone
    contradiction

theorem value_load_of_unreadable (hunreadable : store.unreadable setting.name = true) :
    (load store).value setting = default.value setting := by
  have hnone : store.setting? setting = none := if_pos hunreadable
  rw [value_load, hnone, decode_none]

/-- Only an index step that is not set has no text. -/
theorem exists_text? (hset : setting = .index → settings.index ≠ none) :
    ∃ text, settings.text? setting = some text := by
  cases setting with
  | index =>
    obtain ⟨step, hstep⟩ := Option.ne_none_iff_exists'.mp (hset rfl)
    exact ⟨step.name, by rw [text?, hstep]; rfl⟩
  | _ => exact ⟨_, rfl⟩

theorem alike_clamped (hspeed : 1 ≤ settings.speed) (hscale : 1 ≤ settings.scale)
    (hvolume : settings.volume.FromZeroToOne) (setting : Setting) :
    setting.Alike (settings.clamped.value setting) (settings.value setting) := by
  cases setting with
  | speed => exact max_one_eq hspeed
  | scale => exact max_one_eq hscale
  | volume => exact Single.same_clampUnit hvolume
  | _ => rfl

/-- **Saving is exact.** Settings within their bounds are saved in full by a store that accepts all
writes. Every setting whose key can be read is loaded as it was saved; an index step that is not set
is loaded as before, and so is a setting whose key cannot be read, namely as its default. Nothing
else in the store changes. So loading and saving in turn moves no setting of any store, and saving
twice is saving once. -/
theorem load_save_of_writable (hspeed : 1 ≤ settings.speed) (hscale : 1 ≤ settings.scale)
    (hvolume : settings.volume.FromZeroToOne) (hwritable : ∀ key, store.refusal key = none) :
    let saved := (settings.save store).1
    (settings.save store).2 = none ∧
      (∀ setting : Setting, store.unreadable setting.name = false →
        (setting = .index → settings.index ≠ none) →
        setting.Alike ((load saved).value setting) (settings.value setting)) ∧
      (settings.index = none → (load saved).index = (load store).index) ∧
      (∀ setting : Setting, store.unreadable setting.name = true →
        (load saved).value setting = default.value setting ∧
          (load store).value setting = default.value setting) ∧
      (∀ key, (∀ setting : Setting, key ≠ setting.name) →
        saved.items.lookup key = store.items.lookup key) ∧
      (∀ other : Store, load ((load other).save other).1 = load other) ∧
      ∀ (any : Settings) (other : Store), any.save (any.save other).1 = any.save other := by
  intro saved
  have hsaved : saved =
      { store with items := Store.insertAll settings.entries store.items } :=
    congrArg Prod.fst (save_of_writable hwritable)
  have hunreadable : saved.unreadable = store.unreadable := by rw [hsaved]
  have haccepted : (settings.save store).2 = none :=
    congrArg Prod.snd (save_of_writable hwritable)
  refine ⟨haccepted, ?_, ?_, ?_, ?_, load_save_load, save_save⟩
  · intro setting hreadable hset
    obtain ⟨text, htext⟩ := exists_text? hset
    rw [value_load, setting?_save_of_readable hwritable hreadable, htext, Option.some_or,
      decode_text htext]
    exact alike_clamped hspeed hscale hvolume setting
  · intro hindex
    have hvalue : (load saved).value .index = (load store).value .index := by
      obtain hkept | ⟨text, htext, -⟩ := setting?_save_cases settings store .index
      · rw [value_load, value_load, hkept]
      · rw [text?, hindex] at htext
        contradiction
    exact hvalue
  · intro setting hlost
    exact ⟨value_load_of_unreadable (hunreadable ▸ hlost), value_load_of_unreadable hlost⟩
  · exact fun key hkey => lookup_save_of_ne hkey

/-- Settings with a speed of twenty, a negative zero for the volume and no index step. -/
def quickAndSilent : Settings :=
  { default with speed := 20, volume := .number true .zero }

/-- A store with a speed that is no number, an index step and an item that is no setting. -/
def oddStore : Store :=
  .refusing [("speed", "fast"), ("index", "x"), ("theme", "dark")] [] ""

theorem oddStore_keeps_index :
    (1 ≤ quickAndSilent.speed ∧ 1 ≤ quickAndSilent.scale ∧
        quickAndSilent.volume.FromZeroToOne ∧ ∀ key, oddStore.refusal key = none) ∧
      let saved := (quickAndSilent.save oddStore).1
      (load oddStore).speed = 10 ∧ (load saved).speed = 20 ∧ (load saved).index = some .byX ∧
        saved.items.lookup "theme" = some "dark" := by
  have hspeed : 1 ≤ quickAndSilent.speed := by decide
  have hscale : 1 ≤ quickAndSilent.scale := by decide
  have hvolume : quickAndSilent.volume.FromZeroToOne := ⟨0, rfl, by decide, by decide⟩
  have hwritable : ∀ key, oddStore.refusal key = none := fun key => rfl
  obtain ⟨-, hfields, hindex, -, hkeys, -⟩ :=
    load_save_of_writable hspeed hscale hvolume hwritable
  have htheme : ∀ setting : Setting, "theme" ≠ setting.name := by
    intro setting
    cases setting <;> decide
  refine ⟨⟨hspeed, hscale, hvolume, hwritable⟩, by decide, ?_, ?_, ?_⟩
  · exact hfields .speed rfl (fun h => nomatch h)
  · exact hindex rfl
  · exact hkeys "theme" htheme

/-- Settings with a speed of twenty. -/
def quick : Settings := { default with speed := 20 }

/-- An empty store that cannot read the speed and accepts all writes. -/
def speedless : Store := .ofPage [] ["speed"] [] ""

/-- A store may accept a text that it cannot read. -/
theorem speedless_forgets_speed :
    quick.Normal ∧ (∀ key, speedless.refusal key = none) ∧ (quick.save speedless).2 = none ∧
      quick.speed = 20 ∧ (load (quick.save speedless).1).speed = 10 := by
  have hwritable : ∀ key, speedless.refusal key = none := fun key => rfl
  have hnormal : quick.Normal := ⟨by decide, by decide, inUnit_default⟩
  have hsaved : quick.save speedless =
      ({ speedless with items := Store.insertAll quick.entries [] }, none) :=
    save_of_writable hwritable
  rw [hsaved]
  exact ⟨hnormal, hwritable, rfl, rfl, rfl⟩

end Settings

end Chip8
