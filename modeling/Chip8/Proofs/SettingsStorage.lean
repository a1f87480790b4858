import Chip8.Proofs.SingleText
import Chip8.Settings.Storage

/-!
# Settings in a store

Every setting reads back from the text that it is kept as. A save replaces the text of each setting
that has one and leaves the text of an index step that is not set, so all settings come back except
that an index step of an earlier save may stand in for the missing one.
-/

namespace Chip8

namespace Store

/-- A store without refusals: everything can be read and written. -/
structure Reliable (store : Store) : Prop where
  readable : ∀ key, store.unreadable key = false
  writable : ∀ key, store.refusal key = none

/-- The items after entries have been written in order. -/
def insertAll (entries items : List (String × String)) : List (String × String) :=
  entries.foldl (fun written entry => insert entry.1 entry.2 written) items

/-- A store takes entries one after the other, each into what the one before has left. -/
inductive Takes : Store → List (String × String) → Store → Prop
  | nil (store : Store) : Takes store [] store
  | cons {store next last : Store} {key value : String} {rest : List (String × String)}
      (hset : store.set key value = .ok next) (hrest : Takes next rest last) :
      Takes store ((key, value) :: rest) last

variable {store next : Store} {key : String} {entries : List (String × String)}

theorem reliable_refusing (items : List (String × String)) (reason : String) :
    (refusing items [] reason).Reliable :=
  ⟨fun _ => rfl, fun _ => rfl⟩

theorem lookup_cons (written value key : String) (items : List (String × String)) :
    ((written, value) :: items).lookup key =
      if key = written then some value else items.lookup key := by
  by_cases hkey : key = written
  · rw [if_pos hkey, hkey, List.lookup_cons_self]
  · rw [if_neg hkey, List.lookup_cons, beq_eq_false_iff_ne.mpr hkey]

theorem lookup_insert (written value key : String) (items : List (String × String)) :
    (insert written value items).lookup key =
      if key = written then some value else items.lookup key := by
  induction items with
  | nil => exact lookup_cons written value key []
  | cons item rest ih =>
    obtain ⟨other, old⟩ := item
    by_cases hother : other = written
    · subst hother
      rw [insert, if_pos rfl, lookup_cons, lookup_cons]
      split <;> rfl
    · rw [insert, if_neg hother, lookup_cons, ih, lookup_cons]
      by_cases hkey : key = other
      · rw [if_pos hkey, if_pos hkey, if_neg (hkey ▸ hother)]
      · rw [if_neg hkey, if_neg hkey]

/-- With no key written twice, an entry that is written is found, and every other item is as it
was. -/
theorem lookup_insertAll (hnodup : (entries.map Prod.fst).Nodup) (items : List (String × String)) :
    (insertAll entries items).lookup key = (entries.lookup key).or (items.lookup key) := by
  induction entries generalizing items with
  | nil => rfl
  | cons entry rest ih =>
    obtain ⟨written, value⟩ := entry
    obtain ⟨hnew, hrest⟩ := List.nodup_cons.mp hnodup
    rw [insertAll, List.foldl_cons, ← insertAll, ih hrest, lookup_insert, lookup_cons]
    by_cases hkey : key = written
    -- The later entries have other keys, so none of them overwrites this one.
    · have hnone : rest.lookup key = none := by
        refine List.lookup_eq_none_iff.mpr fun later hlater => bne_iff_ne.mpr fun heq => hnew ?_
        exact List.mem_map.mpr ⟨later, hlater, heq.symm.trans hkey⟩
      rw [hnone, if_pos hkey, if_pos hkey]
      rfl
    · rw [if_neg hkey, if_neg hkey]

theorem set_of_accepted (haccepted : store.refusal key = none) (value : String) :
    store.set key value = .ok { store with items := insert key value store.items } := by
  rw [set, haccepted]

theorem takes_of_accepted (haccepted : ∀ entry ∈ entries, store.refusal entry.1 = none) :
    store.Takes entries { store with items := insertAll entries store.items } := by
  induction entries generalizing store with
  | nil => exact .nil store
  | cons entry rest ih =>
    obtain ⟨hentry, hrest⟩ := List.forall_mem_cons.mp haccepted
    -- A write changes no refusal, so what it leaves accepts the rest as well.
    exact .cons (set_of_accepted hentry entry.2) (ih hrest)

theorem Takes.setAll_append (htakes : store.Takes entries next) (rest : List (String × String)) :
    store.setAll (entries ++ rest) = next.setAll rest := by
  induction htakes with
  | nil => rfl
  | cons hset _ ih =>
    rw [List.cons_append, Store.setAll, hset]
    exact ih

theorem setAll_of_accepted (haccepted : ∀ entry ∈ entries, store.refusal entry.1 = none) :
    store.setAll entries = ({ store with items := insertAll entries store.items }, none) := by
  have happend := (takes_of_accepted haccepted).setAll_append []
  rwa [List.append_nil] at happend

end Store

theorem Preset.ofName?_name (preset : Preset) : ofName? preset.name = some preset := by
  cases preset <;> rfl

theorem IndexStep.ofName?_name (step : IndexStep) : ofName? step.name = some step := by
  cases step <;> rfl

theorem Preset.read_name (preset : Preset) : read preset.name = .ok preset := by
  rw [read, preset.ofName?_name]

theorem IndexStep.read_name (step : IndexStep) : read step.name = .ok step := by
  rw [read, step.ofName?_name]

theorem Setting.name_inj {setting other : Setting} :
    setting.name = other.name ↔ setting = other := by
  constructor
  · cases setting <;> cases other <;> simp [name]
  · exact congrArg name

theorem Setting.mem_all (setting : Setting) : setting ∈ all := by
  cases setting <;> decide

namespace Single

/-- An unsigned number of the unit interval. -/
def InUnit : Single → Prop
  | number false magnitude => magnitude ≤ Rank.one
  | _ => False

/-- The value in units of 2^-149. A not-a-number has none. -/
def units? : Single → Option Int
  | nan => none
  | number false magnitude => some (Rank.units magnitude)
  | number true magnitude => some (-Rank.units magnitude)

variable {value : Single}

theorem InUnit.units? (hunit : value.InUnit) :
    ∃ units : Int, value.units? = some units ∧ 0 ≤ units ∧ units ≤ 2 ^ 149 := by
  cases value with
  | nan => exact hunit.elim
  | number negative magnitude =>
    cases negative with
    | true => exact hunit.elim
    | false =>
      have hle : Rank.units magnitude ≤ Rank.units Rank.one :=
        Rank.strictMono_units.monotone hunit
      rw [Rank.units_one] at hle
      exact ⟨Rank.units magnitude, rfl, Int.natCast_nonneg _, by exact_mod_cast hle⟩

theorem inUnit_clampUnit (value : Single) : value.clampUnit.InUnit := by
  cases value with
  | nan => exact Nat.zero_le _
  | number negative magnitude =>
    cases negative with
    | true => exact Nat.zero_le _
    | false =>
      show (if magnitude ≤ Rank.one then magnitude else Rank.one) ≤ Rank.one
      split
      · assumption
      · exact Nat.le_refl _

theorem InUnit.clampUnit_eq (hunit : value.InUnit) : value.clampUnit = value := by
  cases value with
  | nan => exact hunit.elim
  | number negative magnitude =>
    cases negative with
    | true => exact hunit.elim
    | false => exact congrArg (number false) (if_pos hunit)

end Single

namespace Settings

/-- What reading never departs from: positive counts and a volume of the unit interval. -/
structure Normal (settings : Settings) : Prop where
  speed : 1 ≤ settings.speed
  scale : 1 ≤ settings.scale
  volume : settings.volume.InUnit

variable {settings : Settings} {store : Store}

theorem nodup_entries (settings : Settings) : (settings.entries.map Prod.fst).Nodup := by
  cases hindex : settings.index <;> simp [entries, Setting.all, text?, Setting.name, hindex]

/-- Names are distinct, so only the entry of a setting itself can answer for it. -/
theorem lookup_filterMap_text? (settings : Settings) (setting : Setting) (listed : List Setting) :
    (listed.filterMap fun s => (settings.text? s).map (s.name, ·)).lookup setting.name =
      if setting ∈ listed then settings.text? setting else none := by
  induction listed with
  | nil => rfl
  | cons first rest ih =>
    by_cases hfirst : setting = first
    · subst hfirst
      cases htext : settings.text? setting with
      | none => simp [htext, ih]
      | some text => simp [htext]
    · have hname : setting.name ≠ first.name := hfirst ∘ Setting.name_inj.mp
      cases htext : settings.text? first with
      | none => simp [htext, ih, hfirst]
      | some text => simp [htext, Store.lookup_cons, hname, ih, hfirst]

theorem lookup_entries (settings : Settings) (setting : Setting) :
    settings.entries.lookup setting.name = settings.text? setting := by
  rw [entries, lookup_filterMap_text?, if_pos setting.mem_all]

theorem save_of_writable (hwritable : ∀ key, store.refusal key = none) :
    settings.save store =
      ({ store with items := Store.insertAll settings.entries store.items }, none) :=
  Store.setAll_of_accepted fun entry _ => hwritable entry.1

/-- After a save every setting that has a text holds it, and any other what it held before. -/
theorem setting?_save_of_readable (hwritable : ∀ key, store.refusal key = none)
    {setting : Setting} (hreadable : store.unreadable setting.name = false) :
    (settings.save store).1.setting? setting =
      (settings.text? setting).or (store.setting? setting) := by
  rw [save_of_writable hwritable]
  simp only [Store.setting?, Store.get?, hreadable, Bool.false_eq_true, if_false,
    Store.lookup_insertAll settings.nodup_entries, lookup_entries]

theorem setting?_save (hreliable : store.Reliable) (setting : Setting) :
    (settings.save store).1.setting? setting =
      (settings.text? setting).or (store.setting? setting) :=
  setting?_save_of_readable hreliable.writable (hreliable.readable setting.name)

theorem one_le_max (count : UInt32) : 1 ≤ max count 1 := by
  show 1 ≤ if count ≤ 1 then 1 else count
  split
  · decide
  · rename_i hlarge
    exact UInt32.le_of_lt (UInt32.not_le.mp hlarge)

theorem max_one_eq {count : UInt32} (hpos : 1 ≤ count) : max count 1 = count := by
  show (if count ≤ 1 then 1 else count) = count
  split
  · rename_i hone
    exact UInt32.le_antisymm hpos hone
  · rfl

theorem inUnit_default : default.volume.InUnit := by
  show Rank.nearest 3 10 ≤ Rank.one
  decide

theorem normal_default : default.Normal := ⟨by decide, by decide, inUnit_default⟩

theorem normal_load (store : Store) : (load store).Normal := by
  refine ⟨?_, ?_, ?_⟩
  · show 1 ≤ ((store.setting? .speed).bind Text.count?).elim default.speed (max · 1)
    cases (store.setting? .speed).bind Text.count? with
    | none => decide
    | some count => exact one_le_max count
  · show 1 ≤ ((store.setting? .scale).bind Text.count?).elim default.scale (max · 1)
    cases (store.setting? .scale).bind Text.count? with
    | none => decide
    | some count => exact one_le_max count
  · show (((store.setting? .volume).bind Single.read?).elim default.volume Single.clampUnit).InUnit
    cases (store.setting? .volume).bind Single.read? with
    | none => exact inUnit_default
    | some value => exact value.inUnit_clampUnit

/-- **Saving and loading.** Everything that is saved is loaded again; an index step that is not set
is not saved, and the one that was in the store before is loaded in its place. -/
theorem load_save (hreliable : store.Reliable) (hnormal : settings.Normal) :
    load (settings.save store).1 =
      { settings with index := settings.index.or (load store).index } := by
  have hindex : ((settings.index.map IndexStep.name).or (store.setting? .index)).bind
      IndexStep.ofName? = settings.index.or (load store).index := by
    cases settings.index with
    | none => rfl
    | some step => exact step.ofName?_name
  rw [load]
  simp only [setting?_save hreliable, text?, Option.some_or, Option.bind_some, Text.count?_toString,
    Preset.ofName?_name, Single.read?_text, Option.elim_some, Option.getD_some,
    max_one_eq hnormal.speed, max_one_eq hnormal.scale, hnormal.volume.clampUnit_eq, hindex]

end Settings

end Chip8
