import Chip8.Proofs.SessionConfig
import Mathlib.Logic.Function.Basic

/-!
# Settings across a restart

Any number of sessions keep their settings in one store. A session that starts right after a save
shows what the saving session shows, but for the index step: a session without an explicit one
leaves in the store what an earlier save put there, and the new session takes it up.
-/

namespace Chip8

theorem Settings.index_dialect (settings : Settings) :
    settings.dialect.index = settings.index.getD settings.preset.dialect.index := by
  unfold dialect
  cases settings.index <;> rfl

namespace Session

variable {session : Session} {store : Store}

theorem Coherent.shown_eq (hcoherent : session.Coherent) :
    session.shown = { session.settings with
      index := some (session.settings.index.getD session.settings.preset.dialect.index) } := by
  rw [shown, hcoherent.config, ← Settings.index_dialect]
  have hspeed : session.settings.config.speed = session.settings.speed :=
    Settings.max_one_eq hcoherent.normal.speed
  rw [hspeed]
  rfl

/-- A session that starts on a store with saved settings takes an index step that is not among
them from what was stored before, and only then from the preset. -/
theorem Coherent.shown_start (hcoherent : session.Coherent) (hreliable : store.Reliable)
    (random : RandomSource) :
    (start (some (session.settings.save store).1) random).shown =
      { session.shown with
        index := some ((session.settings.index.or (Settings.load store).index).getD
          session.settings.preset.dialect.index) } := by
  have hsettings : (start (some (session.settings.save store).1) random).settings =
      { session.settings with
        index := session.settings.index.or (Settings.load store).index } :=
    Settings.load_save hreliable hcoherent.normal
  rw [(coherent_start _ _).shown_eq, hsettings, hcoherent.shown_eq]

end Session

/-- Sessions side by side, and the store that they share. -/
structure Tabs where
  session : Nat → Session
  storage : Option Store

namespace Tabs

def page (tabs : Tabs) (tab : Nat) : Page := ⟨tabs.session tab, tabs.storage⟩

/-- A request of one session. -/
def apply (tabs : Tabs) (tab : Nat) (action : Action) : Tabs × ActionReply :=
  let (page, reply) := (tabs.page tab).apply action
  (⟨Function.update tabs.session tab page.session, page.storage⟩, reply)

/-- Each session has a random source of its own. -/
def start (storage : Option Store) (random : Nat → RandomSource) : Tabs :=
  ⟨fun tab => .start storage (random tab), storage⟩

/-- The sessions after a list of requests, each by one of them. -/
def after (tabs : Tabs) (requests : List (Nat × Action)) : Tabs :=
  requests.foldl (fun tabs request => (tabs.apply request.1 request.2).1) tabs

/-- All sessions are coherent, and their store neither loses nor refuses anything. -/
structure Sound (tabs : Tabs) : Prop where
  coherent : ∀ tab, (tabs.session tab).Coherent
  reliable : ∃ store, tabs.storage = some store ∧ store.Reliable

variable {tabs : Tabs} {store : Store}

theorem sound_start (hreliable : store.Reliable) (random : Nat → RandomSource) :
    (start (some store) random).Sound :=
  ⟨fun tab => Session.coherent_start (some store) (random tab), store, rfl, hreliable⟩

theorem apply_save (tab : Nat) (hstorage : tabs.storage = some store) :
    (tabs.apply tab .save).1.storage = some ((tabs.session tab).settings.save store).1 ∧
      (tabs.apply tab .save).2.refusal =
        ((tabs.session tab).settings.save store).2.map .fault := by
  simp only [apply, page, Page.apply, Page.save, hstorage, and_self]

theorem reliable_save (settings : Settings) (hreliable : store.Reliable) :
    (settings.save store).1.Reliable := by
  rw [Settings.save_of_writable hreliable.writable]
  exact ⟨hreliable.readable, hreliable.writable⟩

theorem Sound.apply (hsound : tabs.Sound) (tab : Nat) (action : Action) :
    (tabs.apply tab action).1.Sound := by
  obtain ⟨hcoherent, store, hstorage, hreliable⟩ := hsound
  constructor
  · intro other
    by_cases hother : other = tab
    · subst hother
      simp only [Tabs.apply, Function.update_self]
      exact Page.coherent_apply (hcoherent other) action
    · simp only [Tabs.apply, Function.update_of_ne hother]
      exact hcoherent other
  · by_cases hsave : action = .save
    · subst hsave
      exact ⟨_, (apply_save tab hstorage).1, reliable_save _ hreliable⟩
    · exact ⟨store, (Page.storage_apply hsave).trans hstorage, hreliable⟩

theorem Sound.after (hsound : tabs.Sound) (requests : List (Nat × Action)) :
    (tabs.after requests).Sound := by
  induction requests generalizing tabs with
  | nil => exact hsound
  | cons request rest ih => exact ih (hsound.apply request.1 request.2)

/-- The index step that a session would find in the store. -/
def storedIndex (tabs : Tabs) : Option IndexStep :=
  tabs.storage.bind fun store => (Settings.load store).index

/-- A save and a start right after it. -/
theorem Sound.restart (hsound : tabs.Sound) (tab other : Nat) (fresh : RandomSource) :
    let saved := tabs.apply tab .save
    saved.2.refusal = none ∧
      (((saved.1.apply other (.start fresh)).1).session other).shown =
        { (tabs.session tab).shown with
          index := some (((tabs.session tab).settings.index.or tabs.storedIndex).getD
            (tabs.session tab).settings.preset.dialect.index) } := by
  intro saved
  obtain ⟨hcoherent, store, hstorage, hreliable⟩ := hsound
  obtain ⟨hsaved, hrefusal⟩ := apply_save tab hstorage
  have hstored : tabs.storedIndex = (Settings.load store).index := by
    rw [storedIndex, hstorage, Option.bind_some]
  constructor
  · rw [hrefusal, Settings.save_of_writable hreliable.writable]
    rfl
  · have hstarted : ((saved.1.apply other (.start fresh)).1).session other =
        Session.start saved.1.storage fresh := Function.update_self _ _ _
    rw [hstarted, hsaved, (hcoherent tab).shown_start hreliable, hstored]

/-- **Settings across a restart.** On a store that loses and refuses nothing, whatever the sessions
did before: a save succeeds, and a session that starts right after it shows the settings of the one
that saved, its index step taken from an earlier save if there is no explicit one. So it shows the
same settings exactly if there is one, or if the step that was stored, if any, is the preset's. -/
theorem restart_shows_same_iff (hreliable : store.Reliable) (random : Nat → RandomSource)
    (requests : List (Nat × Action)) (tab other : Nat) (fresh : RandomSource) :
    let tabs := (start (some store) random).after requests
    let settings := (tabs.session tab).settings
    let saved := tabs.apply tab .save
    let restarted := (saved.1.apply other (.start fresh)).1
    saved.2.refusal = none ∧
      (restarted.session other).shown =
        { (tabs.session tab).shown with
          index :=
            some ((settings.index.or tabs.storedIndex).getD settings.preset.dialect.index) } ∧
      ((restarted.session other).shown = (tabs.session tab).shown ↔
        settings.index ≠ none ∨ tabs.storedIndex = none ∨
          tabs.storedIndex = some settings.preset.dialect.index) := by
  intro tabs settings saved restarted
  have hsound : tabs.Sound := (sound_start hreliable random).after requests
  obtain ⟨hrefusal, hshown⟩ := hsound.restart tab other fresh
  refine ⟨hrefusal, hshown, ?_⟩
  have hsame : (restarted.session other).shown = (tabs.session tab).shown ↔
      (settings.index.or tabs.storedIndex).getD settings.preset.dialect.index =
        settings.index.getD settings.preset.dialect.index := by
    rw [hshown, (hsound.coherent tab).shown_eq]
    simp only [Settings.mk.injEq, true_and, and_true, Option.some.injEq]
    rfl
  rw [hsame]
  cases settings.index with
  | some step => simp
  | none => cases tabs.storedIndex <;> simp

theorem settings_apply_setIndex (tabs : Tabs) (tab : Nat) (step : IndexStep) :
    ((tabs.apply tab (.setIndex step.name)).1.session tab).settings =
      { (tabs.session tab).settings with index := some step } := by
  simp only [apply, page, Page.apply, Session.setIndex_name, settle, Page.adopt,
    Function.update_self, Session.withDialect]

theorem settings_apply_setPreset (tabs : Tabs) (tab : Nat) (preset : Preset) :
    ((tabs.apply tab (.setPreset preset.name)).1.session tab).settings =
      { (tabs.session tab).settings with preset, index := none } := by
  simp only [apply, page, Page.apply, Session.setPreset_name, settle, Page.adopt,
    Function.update_self, Session.withDialect]

theorem storedIndex_apply {action : Action} (tab : Nat) (hsave : action ≠ .save) :
    (tabs.apply tab action).1.storedIndex = tabs.storedIndex := by
  have hstorage : (tabs.apply tab action).1.storage = tabs.storage := Page.storage_apply hsave
  rw [storedIndex, hstorage, storedIndex]

theorem Sound.storedIndex_save (hsound : tabs.Sound) (tab : Nat) :
    (tabs.apply tab .save).1.storedIndex =
      (tabs.session tab).settings.index.or tabs.storedIndex := by
  obtain ⟨hcoherent, store, hstorage, hreliable⟩ := hsound
  rw [storedIndex, (apply_save tab hstorage).1, Option.bind_some,
    Settings.load_save hreliable (hcoherent tab).normal, storedIndex, hstorage, Option.bind_some]

/-- A preset drops an explicit index step from the settings, but not from the store. -/
theorem Sound.setPreset_after_save (hsound : tabs.Sound) (tab : Nat) (step : IndexStep)
    (preset : Preset) :
    let dropped :=
      tabs.after [(tab, .setIndex step.name), (tab, .save), (tab, .setPreset preset.name)]
    (dropped.session tab).settings.index = none ∧
      (dropped.session tab).settings.preset = preset ∧ dropped.storedIndex = some step := by
  intro dropped
  let chosen := (tabs.apply tab (.setIndex step.name)).1
  let saved := (chosen.apply tab .save).1
  have hdropped : (dropped.session tab).settings =
      { (saved.session tab).settings with preset, index := none } :=
    saved.settings_apply_setPreset tab preset
  have hstored : dropped.storedIndex = (chosen.session tab).settings.index.or chosen.storedIndex :=
    (storedIndex_apply tab Action.noConfusion).trans
      ((hsound.apply tab _).storedIndex_save tab)
  refine ⟨by rw [hdropped], by rw [hdropped], ?_⟩
  rw [hstored, tabs.settings_apply_setIndex tab step, Option.some_or]

theorem dropped_index_step_returns :
    let store := Store.refusing [] [] ""
    let fresh := RandomSource.ofList []
    let tabs := (start (some store) fun _ => fresh).after
      [(0, .setIndex "x"), (0, .save), (0, .setPreset "modern")]
    let saved := tabs.apply 0 .save
    let restarted := (saved.1.apply 0 (.start fresh)).1
    store.Reliable ∧ saved.2.refusal = none ∧
      (tabs.session 0).shown.index = some .unchanged ∧
      (restarted.session 0).shown.index = some .byX := by
  intro store fresh tabs saved restarted
  have hreliable : store.Reliable := Store.reliable_refusing [] ""
  have hstart := sound_start hreliable fun _ => fresh
  have hsound : tabs.Sound := hstart.after _
  have hdropped : (tabs.session 0).settings.index = none ∧
      (tabs.session 0).settings.preset = .modern ∧ tabs.storedIndex = some .byX :=
    hstart.setPreset_after_save 0 .byX .modern
  obtain ⟨hindex, hpreset, hstored⟩ := hdropped
  obtain ⟨hrefusal, hshown⟩ := hsound.restart 0 0 fresh
  refine ⟨hreliable, hrefusal, ?_, ?_⟩
  · rw [(hsound.coherent 0).shown_eq, hindex, hpreset]
    rfl
  · rw [hshown, hindex, hstored]
    rfl

theorem explicit_index_step_survives :
    let store := Store.refusing [] [] ""
    let fresh := RandomSource.ofList []
    let tabs := (start (some store) fun _ => fresh).after
      [(0, .setPreset "modern"), (0, .setIndex "x")]
    let saved := tabs.apply 0 .save
    let restarted := (saved.1.apply 1 (.start fresh)).1
    store.Reliable ∧ saved.2.refusal = none ∧
      (restarted.session 1).shown = (tabs.session 0).shown := by
  intro store fresh tabs saved restarted
  have hreliable : store.Reliable := Store.reliable_refusing [] ""
  obtain ⟨hrefusal, -, hsame⟩ :=
    restart_shows_same_iff hreliable (fun _ => fresh)
      [(0, .setPreset "modern"), (0, .setIndex "x")] 0 1 fresh
  have hindex : (tabs.session 0).settings.index = some .byX :=
    congrArg Settings.index (settings_apply_setIndex _ 0 .byX)
  refine ⟨hreliable, hrefusal, hsame.mpr (.inl ?_)⟩
  rw [hindex]
  exact Option.some_ne_none _

end Tabs

end Chip8
