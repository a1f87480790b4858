import Chip8.Proofs.SavedSettings

/-!
# Saves cut short

A store may refuse any of the writes of a save. The save then stops there: the entries before the
refused one are written and the rest of the store is as it was. The entries depend on nothing but
the settings, and no two of them have the same key, so it makes no difference to a save that goes
through whether some of them have been written before.
-/

namespace Chip8

namespace Store

variable {store : Store} {key value : String} {cause : Fault}
  {entries before after items : List (String × String)}

theorem set_eq_error_iff :
    store.set key value = .error cause ↔
      ∃ reason, store.refusal key = some reason ∧ cause = .storage reason := by
  cases hrefusal : store.refusal key with
  | none => simp [set, hrefusal]
  | some reason => simp [set, hrefusal, eq_comm]

/-- The first refusal ends it: the entries before are written, and the reason is given. -/
theorem setAll_of_refused (haccepted : ∀ entry ∈ before, store.refusal entry.1 = none)
    (hrefused : store.set key value = .error cause) (after : List (String × String)) :
    store.setAll (before ++ (key, value) :: after) =
      ({ store with items := insertAll before store.items }, some cause) := by
  obtain ⟨reason, hreason, rfl⟩ := set_eq_error_iff.mp hrefused
  have hstill : ({ store with items := insertAll before store.items } : Store).set key value =
      .error (.storage reason) := set_eq_error_iff.mpr ⟨reason, hreason, rfl⟩
  rw [(takes_of_accepted haccepted).setAll_append, setAll, hstill]

theorem setAll_eq_none_iff :
    (store.setAll entries).2 = none ↔ ∀ entry ∈ entries, store.refusal entry.1 = none := by
  rw [setAll_eq, List.findSome?_eq_none_iff]
  refine forall₂_congr fun entry _ => ?_
  rw [Option.map_eq_none_iff]

/-- The entries that are accepted may have been written ahead of them all. -/
theorem insertAll_accepted (hnodup : (entries.map Prod.fst).Nodup) (store : Store)
    (items : List (String × String)) :
    insertAll entries (insertAll (store.accepted entries) items) = insertAll entries items := by
  obtain ⟨refused, hsplit⟩ : store.accepted entries <+: entries := List.takeWhile_prefix _
  have hfirst (written : List (String × String)) :
      insertAll entries written = insertAll refused (insertAll (store.accepted entries) written) :=
    (congrArg (insertAll · written) hsplit).symm.trans List.foldl_append
  rw [hfirst, hfirst, insertAll_insertAll (store.nodup_accepted hnodup)]

theorem lookup_insertAll_of_notMem (hnodup : (entries.map Prod.fst).Nodup)
    (hkey : key ∉ entries.map Prod.fst) :
    (insertAll entries items).lookup key = items.lookup key := by
  have hnone : entries.lookup key = none :=
    List.lookup_eq_none_iff.mpr fun entry hentry =>
      bne_iff_ne.mpr fun heq => hkey (heq ▸ List.mem_map_of_mem hentry)
  rw [lookup_insertAll hnodup, hnone, Option.none_or]

end Store

namespace Settings

variable {settings : Settings} {store : Store} {before after : List (String × String)}

theorem nodup_of_entries_eq (hentries : settings.entries = before ++ after) :
    (before.map Prod.fst).Nodup := by
  have hnodup := settings.nodup_entries
  rw [hentries, List.map_append] at hnodup
  exact (List.nodup_append.mp hnodup).1

/-- What is left of a store by saves one after the other, each with refusals of its own. -/
def saveRepeatedly (settings : Settings) (store : Store)
    (attempts : List (String → Option String)) : Store :=
  attempts.foldl (fun left refusal => (settings.save { left with refusal }).1) store

/-- Whatever the attempts have written, writing all entries gives the same. -/
theorem insertAll_saveRepeatedly (settings : Settings) (store : Store)
    (attempts : List (String → Option String)) :
    (settings.saveRepeatedly store attempts).unreadable = store.unreadable ∧
      Store.insertAll settings.entries (settings.saveRepeatedly store attempts).items =
        Store.insertAll settings.entries store.items := by
  induction attempts generalizing store with
  | nil => exact ⟨rfl, rfl⟩
  | cons refusal attempts ih =>
    obtain ⟨hunreadable, hitems⟩ := ih (settings.save { store with refusal }).1
    rw [saveRepeatedly, List.foldl_cons, ← saveRepeatedly, hunreadable, hitems, save_eq]
    exact ⟨rfl, Store.insertAll_accepted settings.nodup_entries _ store.items⟩

theorem entries_eq (settings : Settings) :
    settings.entries =
      [("speed", toString settings.speed.toNat), ("quirk", settings.preset.name)] ++
        (settings.index.map fun step => ("index", step.name)).toList ++
        [("color", settings.color), ("bgColor", settings.background),
          ("scale", toString settings.scale.toNat), ("volume", settings.volume.text),
          ("wave", settings.wave)] := by
  cases hindex : settings.index <;> simp [entries, Setting.all, text?, Setting.name, hindex]

/-- **Saves cut short.** A save writes its entries in a fixed order, and it succeeds if and only if
the store refuses none of them. The first refusal is handed on and ends the save: the entries before
it are in the store, and every other key holds what it held. After any number of saves of the same
settings, whatever they were refused, one that succeeds leaves the store that it would have left at
once. -/
theorem save_stops_and_resumes (settings : Settings) (store : Store) :
    let saved := settings.save store
    (settings.entries =
      [("speed", toString settings.speed.toNat), ("quirk", settings.preset.name)] ++
        (settings.index.map fun step => ("index", step.name)).toList ++
        [("color", settings.color), ("bgColor", settings.background),
          ("scale", toString settings.scale.toNat), ("volume", settings.volume.text),
          ("wave", settings.wave)]) ∧
      (saved.2 = none ↔ ∀ entry ∈ settings.entries, store.refusal entry.1 = none) ∧
      (saved.2 = none → store.Takes settings.entries saved.1 ∧
        ∀ entry ∈ settings.entries, saved.1.items.lookup entry.1 = some entry.2) ∧
      (∀ before key value after cause, settings.entries = before ++ (key, value) :: after →
        (∀ entry ∈ before, store.refusal entry.1 = none) →
        store.set key value = .error cause →
        saved.2 = some cause ∧ store.Takes before saved.1 ∧
          (∀ entry ∈ before, saved.1.items.lookup entry.1 = some entry.2) ∧
          ∀ other, other ∉ before.map Prod.fst →
            saved.1.items.lookup other = store.items.lookup other) ∧
      ∀ (attempts : List (String → Option String)) (refusal : String → Option String),
        let retried := settings.save { settings.saveRepeatedly store attempts with refusal }
        retried.2 = none → retried = settings.save { store with refusal } := by
  intro saved
  refine ⟨settings.entries_eq, Store.setAll_eq_none_iff, ?_, ?_, ?_⟩
  · intro hnone
    have haccepted := Store.setAll_eq_none_iff.mp hnone
    have hsaved : saved = _ := Store.setAll_of_accepted haccepted
    rw [hsaved]
    exact ⟨Store.takes_of_accepted haccepted,
      fun entry hentry => Store.lookup_insertAll_of_mem settings.nodup_entries hentry⟩
  · intro before key value after cause hentries haccepted hrefused
    have hnodup := nodup_of_entries_eq hentries
    have hsaved : saved = _ := (congrArg store.setAll hentries).trans
      (Store.setAll_of_refused haccepted hrefused after)
    rw [hsaved]
    exact ⟨rfl, Store.takes_of_accepted haccepted,
      fun entry hentry => Store.lookup_insertAll_of_mem hnodup hentry,
      fun other hother => Store.lookup_insertAll_of_notMem hnodup hother⟩
  · intro attempts refusal retried hnone
    obtain ⟨hunreadable, hitems⟩ := settings.insertAll_saveRepeatedly store attempts
    have haccepted : ∀ entry ∈ settings.entries, refusal entry.1 = none :=
      Store.setAll_eq_none_iff.mp hnone
    have hretried : retried = _ := Store.setAll_of_accepted haccepted
    have hdirect : settings.save { store with refusal } = _ := Store.setAll_of_accepted haccepted
    rw [hretried, hdirect, hunreadable, hitems]

/-- A store that has a scale and has no room for another. -/
def fullStore : Store := .refusing [("scale", "8"), ("theme", "dark")] ["scale"] "quota exceeded"

/-- The save gets as far as the background, and a later one makes up for the rest. -/
theorem fullStore_resumes :
    let (left, fault) := quick.save fullStore
    fault = some (.storage "quota exceeded") ∧ left.items.lookup "speed" = some "20" ∧
      left.items.lookup "scale" = some "8" ∧ left.items.lookup "wave" = none ∧
      quick.save { quick.saveRepeatedly fullStore [fullStore.refusal] with
        refusal := fun _ => none } =
          quick.save { fullStore with refusal := fun _ => none } := by
  obtain ⟨hentries, -, -, hstops, hresumes⟩ := save_stops_and_resumes quick fullStore
  have haccepted : ∀ entry ∈ [("speed", "20"), ("quirk", "modern"), ("color", "#ffffff"),
      ("bgColor", "#000000")], fullStore.refusal entry.1 = none := by decide
  have hrefused : fullStore.set "scale" "10" = .error (.storage "quota exceeded") := rfl
  obtain ⟨hfault, -, hwritten, hkept⟩ := hstops _ "scale" "10"
    [("volume", quick.volume.text), ("wave", "square")] _ hentries haccepted hrefused
  refine ⟨hfault, hwritten ("speed", "20") (by decide), hkept "scale" (by decide),
    hkept "wave" (by decide), hresumes _ _ ?_⟩
  exact Store.setAll_eq_none_iff.mpr fun entry _ => rfl

end Settings

end Chip8
