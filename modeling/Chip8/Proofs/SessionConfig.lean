import Chip8.Proofs.Load
import Chip8.Proofs.Run
import Chip8.Proofs.SettingsStorage
import Chip8.Proofs.Touched
import Chip8.Session.Action

/-!
# The configuration of a session

Running a machine never changes its configuration, and whatever changes a setting changes the
machine's copy with it. So the machine of a session is always configured as the settings say.
-/

namespace Chip8

namespace Machine

variable {machine : Machine}

theorem config_reset (machine : Machine) : machine.reset.config = machine.config := by
  cases machine
  rfl

theorem config_load {loaded : Machine} {program : List UInt8}
    (hloaded : machine.load program = .ok () loaded) : loaded.config = machine.config := by
  rw [load_eq_ok hloaded]
  dsimp only
  exact machine.config_reset

theorem config_step (machine : Machine) : machine.step.1.config = machine.config := by
  by_cases hrunning : machine.mode = .running
  · obtain ⟨_, _, hstep⟩ | ⟨_, -, hstep⟩ | ⟨-, _, _, _, _, hstep⟩ := step_cases hrunning
    · rw [hstep]
    · rw [hstep]
      rfl
    · rw [hstep]
  · rw [step, if_neg hrunning]

theorem config_singleStep (machine : Machine) :
    machine.singleStep.1.config = machine.config := by
  unfold singleStep
  split
  · exact (touched_pause _).config.trans ((config_step _).trans machine.touched_resume.config)
  · exact machine.config_step

theorem config_run (machine : Machine) (n : Nat) : (machine.run n).1.config = machine.config :=
  run_induction (fun m => m.config = machine.config) (fun _ => True)
    (fun m _ _ hconfig => m.config_step.trans hconfig) (fun _ _ => trivial) rfl

theorem config_tick (machine : Machine) : machine.tick.config = machine.config := by
  unfold tick
  split <;> rfl

theorem config_cycle (machine : Machine) : machine.cycle.1.config = machine.config :=
  (config_tick _).trans (machine.config_run _)

end Machine

/-- The requests that set something or open a new session. -/
def Action.Configures : Action → Prop
  | .start _ | .startWith _ _ | .startWithPreset _ _ _ => True
  | .setPreset _ | .setIndex _ | .setSpeed _ => True
  | .setScale _ | .setVolume _ | .setWave _ | .setColors _ _ => True
  | _ => False

namespace Session

/-- Settings that reading could have given, and the machine configured by them. -/
structure Coherent (session : Session) : Prop where
  config : session.machine.config = session.settings.config
  normal : session.settings.Normal

/-- Nothing has been set. -/
structure KeepsSettings (session next : Session) : Prop where
  settings : next.settings = session.settings
  config : next.machine.config = session.machine.config

variable {session : Session} {program : List UInt8}

/-! ### Calls that may be refused -/

theorem load_eq_ok {machine : Machine} (hmachine : session.machine.load program = .ok () machine) :
    session.load program = .ok () { session with machine, signals := {} } := by
  have hloaded : onMachine (Machine.load program) session = .ok () { session with machine } := by
    rw [onMachine, Call.on, hmachine]
  rw [load, Call.bind_of_ok hloaded, Call.modify_eq]

theorem load_of_gt (hlong : 3584 < program.length) :
    session.load program = .error (.programTooLarge program.length) session := by
  have hrefused : onMachine (Machine.load program) session =
      .error (.programTooLarge program.length) session := by
    rw [onMachine, Call.on, Machine.load_of_gt hlong]
  rw [load, Call.bind_of_error hrefused]

/-- A program is accepted, or the session stays as it is. -/
theorem load_cases (session : Session) (program : List UInt8) :
    (program.length ≤ 3584 ∧ ∃ machine, session.machine.load program = .ok () machine ∧
        session.load program = .ok () { session with machine, signals := {} }) ∨
      (3584 < program.length ∧
        session.load program = .error (.programTooLarge program.length) session) := by
  by_cases hfits : program.length ≤ 3584
  · exact .inl ⟨hfits, _, Machine.load_of_le hfits, load_eq_ok (Machine.load_of_le hfits)⟩
  · have hlong : 3584 < program.length := Nat.lt_of_not_le hfits
    exact .inr ⟨hlong, load_of_gt hlong⟩

/-- A preset is accepted, or the session stays as it is. -/
theorem setPreset_cases (session : Session) (name : String) :
    (∃ preset, Preset.read name = .ok preset ∧ session.setPreset name =
        .ok () (session.withDialect { session.settings with preset, index := none })) ∨
      ∃ fault, Preset.read name = .error fault ∧
        session.setPreset name = .error fault session := by
  rw [setPreset]
  cases Preset.read name with
  | ok preset => exact .inl ⟨preset, rfl, rfl⟩
  | error fault => exact .inr ⟨fault, rfl, rfl⟩

/-- An index step is accepted, or the session stays as it is. -/
theorem setIndex_cases (session : Session) (name : String) :
    (∃ step, IndexStep.read name = .ok step ∧ session.setIndex name =
        .ok () (session.withDialect { session.settings with index := some step })) ∨
      ∃ fault, IndexStep.read name = .error fault ∧
        session.setIndex name = .error fault session := by
  rw [setIndex]
  cases IndexStep.read name with
  | ok step => exact .inl ⟨step, rfl, rfl⟩
  | error fault => exact .inr ⟨fault, rfl, rfl⟩

theorem setPreset_name (session : Session) (preset : Preset) :
    session.setPreset preset.name =
      .ok () (session.withDialect { session.settings with preset, index := none }) := by
  rw [setPreset, preset.read_name]
  rfl

theorem setIndex_name (session : Session) (step : IndexStep) :
    session.setIndex step.name =
      .ok () (session.withDialect { session.settings with index := some step }) := by
  rw [setIndex, step.read_name]
  rfl

/-! ### What keeps the settings -/

theorem KeepsSettings.refl (session : Session) : session.KeepsSettings session := ⟨rfl, rfl⟩

theorem keepsSettings_withMachine {machine : Machine}
    (hconfig : machine.config = session.machine.config) :
    session.KeepsSettings { session with machine } :=
  ⟨rfl, hconfig⟩

theorem keepsSettings_load (session : Session) (program : List UInt8) :
    session.KeepsSettings (settle (session.load program)).1 := by
  obtain ⟨-, machine, hmachine, hload⟩ | ⟨-, hload⟩ := session.load_cases program
  · rw [hload]
    exact ⟨rfl, Machine.config_load hmachine⟩
  · rw [hload]
    exact .refl session

theorem keepsSettings_reset (session : Session) : session.KeepsSettings session.reset := by
  unfold Session.reset
  exact ⟨rfl, session.machine.config_reset⟩

theorem Coherent.of_keepsSettings {next : Session} (hcoherent : session.Coherent)
    (hkeeps : session.KeepsSettings next) : next.Coherent :=
  ⟨by rw [hkeeps.config, hkeeps.settings, hcoherent.config], hkeeps.settings ▸ hcoherent.normal⟩

theorem Coherent.load (hcoherent : session.Coherent) (program : List UInt8) :
    (settle (session.load program)).1.Coherent :=
  hcoherent.of_keepsSettings (session.keepsSettings_load program)

theorem Coherent.withSettings {settings : Settings} (hcoherent : session.Coherent)
    (hconfig : settings.config = session.settings.config) (hnormal : settings.Normal) :
    Coherent { session with settings } :=
  ⟨hcoherent.config.trans hconfig.symm, hnormal⟩

theorem coherent_start (storage : Option Store) (random : RandomSource) :
    (start storage random).Coherent := by
  have hnormal : (storage.elim Settings.default Settings.load).Normal := by
    cases storage with
    | none => exact Settings.normal_default
    | some store => exact Settings.normal_load store
  refine ⟨?_, hnormal⟩
  have hspeed : max (max (storage.elim Settings.default Settings.load).speed 1) 1 =
      max (storage.elim Settings.default Settings.load).speed 1 :=
    Settings.max_one_eq (Settings.one_le_max _)
  exact congrArg (Config.mk · _) hspeed

theorem Coherent.setSpeed (hcoherent : session.Coherent) (speed : UInt32) :
    (session.setSpeed speed).Coherent := by
  have hmax : max (max speed 1) 1 = max speed 1 := Settings.max_one_eq (Settings.one_le_max speed)
  have hdialect : session.machine.config.dialect = session.settings.dialect :=
    congrArg Config.dialect hcoherent.config
  refine ⟨?_, Settings.one_le_max speed, hcoherent.normal.scale, hcoherent.normal.volume⟩
  show Config.mk (max speed 1) session.machine.config.dialect =
    ⟨max (max speed 1) 1, session.settings.dialect⟩
  rw [hmax, hdialect]

theorem Coherent.withDialect {settings : Settings} (hcoherent : session.Coherent)
    (hspeed : settings.speed = session.settings.speed) (hnormal : settings.Normal) :
    (session.withDialect settings).Coherent := by
  refine ⟨?_, hnormal⟩
  show Config.mk session.machine.config.speed settings.dialect =
    ⟨max settings.speed 1, settings.dialect⟩
  rw [hspeed, hcoherent.config]
  rfl

theorem Coherent.setPreset (hcoherent : session.Coherent) (name : String) :
    (settle (session.setPreset name)).1.Coherent := by
  obtain ⟨preset, -, hset⟩ | ⟨fault, -, hset⟩ := session.setPreset_cases name
  · rw [hset]
    exact hcoherent.withDialect rfl
      ⟨hcoherent.normal.speed, hcoherent.normal.scale, hcoherent.normal.volume⟩
  · rw [hset]
    exact hcoherent

theorem Coherent.setIndex (hcoherent : session.Coherent) (name : String) :
    (settle (session.setIndex name)).1.Coherent := by
  obtain ⟨step, -, hset⟩ | ⟨fault, -, hset⟩ := session.setIndex_cases name
  · rw [hset]
    exact hcoherent.withDialect rfl
      ⟨hcoherent.normal.speed, hcoherent.normal.scale, hcoherent.normal.volume⟩
  · rw [hset]
    exact hcoherent

end Session

namespace Page

open Session (Coherent)

variable {page : Page} {action : Action}

theorem renew_eq_or (page : Page) (random : RandomSource) (call : Call Session Unit) :
    (∃ session, call (.start page.storage random) = .ok () session ∧
      page.renew random call = ({ page with session }, {})) ∨
      ∃ fault left, call (.start page.storage random) = .error fault left ∧
        page.renew random call = (page, { refusal := some (.fault fault) }) := by
  rw [renew]
  cases call (.start page.storage random) with
  | ok _ session => exact .inl ⟨session, rfl, rfl⟩
  | error fault left => exact .inr ⟨fault, left, rfl, rfl⟩

/-- A new session is taken over only after a call that has not failed. -/
theorem coherent_renew {random : RandomSource} {call : Call Session Unit}
    (hcoherent : page.session.Coherent)
    (hok : ∀ session, call (.start page.storage random) = .ok () session → session.Coherent) :
    (page.renew random call).1.session.Coherent := by
  obtain ⟨session, hsession, hrenew⟩ | ⟨_, _, -, hrenew⟩ := page.renew_eq_or random call
  · rw [hrenew]
    exact hok session hsession
  · rw [hrenew]
    exact hcoherent

theorem keepsSettings_keyCode {event : Machine → UInt8 → Machine} (code : UInt32)
    (hevent : ∀ machine key, (event machine key).config = machine.config) :
    page.session.KeepsSettings (page.keyCode code event).1.session := by
  unfold keyCode
  split
  · exact Session.keepsSettings_withMachine (hevent _ _)
  · exact .refl page.session

theorem session_save (page : Page) : page.save.1.session = page.session := by
  unfold save
  split <;> rfl

/-- Running, loading and keys change no setting. -/
theorem keepsSettings_of_not_configures (hkept : ¬action.Configures) :
    page.session.KeepsSettings (page.apply action).1.session := by
  cases action with
  | load program => exact page.session.keepsSettings_load program
  | cycle => exact ⟨rfl, Machine.config_cycle _⟩
  | step => exact ⟨rfl, Machine.config_singleStep _⟩
  | reset => exact page.session.keepsSettings_reset
  | pause => exact Session.keepsSettings_withMachine (Machine.touched_pause _).config
  | resume => exact Session.keepsSettings_withMachine (Machine.touched_resume _).config
  | togglePause => exact Session.keepsSettings_withMachine (Machine.touched_togglePause _).config
  | keyDown key => exact Session.keepsSettings_withMachine (Machine.touched_keyDown _ _).config
  | keyUp key => exact Session.keepsSettings_withMachine (Machine.touched_withKeypad _ _).config
  | keyDownCode code => exact keepsSettings_keyCode code fun _ _ =>
    (Machine.touched_keyDown _ _).config
  | keyUpCode code => exact keepsSettings_keyCode code fun _ _ =>
    (Machine.touched_withKeypad _ _).config
  | setKeys states =>
    simp only [apply]
    split
    · exact Session.keepsSettings_withMachine (Machine.touched_withKeypad _ _).config
    · exact .refl page.session
  | save =>
    rw [apply, session_save]
    exact .refl page.session
  | takeDirty => exact ⟨rfl, rfl⟩
  | _ => exact absurd trivial hkept

theorem keepsSettings_renew_of_refusal {random : RandomSource} {call : Call Session Unit}
    (hrefusal : (page.renew random call).2.refusal ≠ none) :
    page.session.KeepsSettings (page.renew random call).1.session := by
  obtain ⟨_, -, hrenew⟩ | ⟨_, _, -, hrenew⟩ := page.renew_eq_or random call
  · rw [hrenew] at hrefusal
    contradiction
  · rw [hrenew]
    exact .refl page.session

theorem keepsSettings_of_refusal (hrefusal : (page.apply action).2.refusal ≠ none) :
    page.session.KeepsSettings (page.apply action).1.session := by
  by_cases hconfigures : action.Configures
  · cases action with
    | startWith | startWithPreset => exact keepsSettings_renew_of_refusal hrefusal
    | setPreset name =>
      rw [apply] at hrefusal ⊢
      obtain ⟨preset, -, hset⟩ | ⟨fault, -, hset⟩ := page.session.setPreset_cases name
      · rw [hset] at hrefusal
        contradiction
      · rw [hset]
        exact .refl page.session
    | setIndex name =>
      rw [apply] at hrefusal ⊢
      obtain ⟨step, -, hset⟩ | ⟨fault, -, hset⟩ := page.session.setIndex_cases name
      · rw [hset] at hrefusal
        contradiction
      · rw [hset]
        exact .refl page.session
    | start | setSpeed | setScale | setVolume | setWave | setColors => exact absurd rfl hrefusal
    | _ => exact hconfigures.elim
  · exact keepsSettings_of_not_configures hconfigures

/-- Every request keeps the machine configured as the settings say, whatever the store holds. -/
theorem coherent_apply (hcoherent : page.session.Coherent) (action : Action) :
    (page.apply action).1.session.Coherent := by
  have hstart := Session.coherent_start page.storage
  have hnormal := hcoherent.normal
  by_cases hconfigures : action.Configures
  · cases action with
    | start random => exact hstart random
    | startWith random program =>
      refine coherent_renew hcoherent fun loaded hloaded => ?_
      have hfresh := (hstart random).load program
      rwa [hloaded] at hfresh
    | startWithPreset random program preset =>
      -- Only the last session is taken over, so the page keeps its own if any part is refused.
      refine coherent_renew hcoherent fun session hsession => ?_
      obtain ⟨_, loaded, hloaded, hpreset⟩ := Call.bind_eq_ok_iff.mp hsession
      have hfresh := (hstart random).load program
      rw [hloaded] at hfresh
      have hset : (settle (loaded.setPreset preset)).1.Coherent := hfresh.setPreset preset
      rwa [hpreset] at hset
    | setPreset name => exact hcoherent.setPreset name
    | setIndex name => exact hcoherent.setIndex name
    | setSpeed speed => exact hcoherent.setSpeed speed
    | setScale scale =>
      exact hcoherent.withSettings rfl
        ⟨hnormal.speed, Settings.one_le_max scale, hnormal.volume⟩
    | setVolume volume =>
      exact hcoherent.withSettings rfl ⟨hnormal.speed, hnormal.scale, volume.inUnit_clampUnit⟩
    | setWave | setColors =>
      exact hcoherent.withSettings rfl ⟨hnormal.speed, hnormal.scale, hnormal.volume⟩
    | _ => exact hconfigures.elim
  · exact hcoherent.of_keepsSettings (keepsSettings_of_not_configures hconfigures)

theorem after_cons (page : Page) (action : Action) (actions : List Action) :
    page.after (action :: actions) = (page.apply action).1.after actions := rfl

theorem after_induction (Holds : Page → Prop)
    (happly : ∀ (p : Page) (action : Action), Holds p → Holds (p.apply action).1)
    (hstart : Holds page) (actions : List Action) : Holds (page.after actions) := by
  induction actions generalizing page with
  | nil => exact hstart
  | cons action actions ih => exact ih (happly page action hstart)

theorem coherent_after (hcoherent : page.session.Coherent) (actions : List Action) :
    (page.after actions).session.Coherent :=
  after_induction (fun p => p.session.Coherent) (fun _ action hp => coherent_apply hp action)
    hcoherent actions

/-- **Settings and machine agree.** Whatever is in the store and whatever requests a page makes,
refused ones too, the machine is configured as the settings say. Speed and scale are positive, the
volume is between zero and one, and only requests that set something, or open a new session, change
a setting. -/
theorem settings_agree_with_machine (storage : Option Store) (random : RandomSource)
    (actions : List Action) :
    let page := (start storage random).after actions
    let settings := page.session.settings
    page.session.machine.config = settings.config ∧
      1 ≤ settings.speed ∧ page.session.shown.speed = settings.speed ∧ 1 ≤ settings.scale ∧
      (∃ units : Int, settings.volume.units? = some units ∧ 0 ≤ units ∧ units ≤ 2 ^ 149) ∧
      ∀ action : Action, ¬action.Configures ∨ (page.apply action).2.refusal ≠ none →
        (page.apply action).1.session.settings = settings ∧
          (page.apply action).1.session.machine.config = page.session.machine.config := by
  intro page settings
  have hopened : (start storage random).session.Coherent :=
    Session.coherent_start storage random
  have hcoherent : page.session.Coherent := coherent_after hopened actions
  have hspeed : page.session.shown.speed = settings.speed := by
    have hshown : page.session.shown.speed = page.session.machine.config.speed := rfl
    rw [hshown, hcoherent.config]
    exact Settings.max_one_eq hcoherent.normal.speed
  refine ⟨hcoherent.config, hcoherent.normal.speed, hspeed, hcoherent.normal.scale,
    hcoherent.normal.volume.units?, fun action hkept => ?_⟩
  have hkeeps : page.session.KeepsSettings (page.apply action).1.session :=
    hkept.elim keepsSettings_of_not_configures keepsSettings_of_refusal
  exact ⟨hkeeps.settings, hkeeps.config⟩

theorem storage_adopt (page : Page) (run : Session × Option Fault) :
    (page.adopt run).1.storage = page.storage := rfl

theorem storage_renew (page : Page) (random : RandomSource) (call : Call Session Unit) :
    (page.renew random call).1.storage = page.storage := by
  obtain ⟨_, -, hrenew⟩ | ⟨_, _, -, hrenew⟩ := page.renew_eq_or random call
  · rw [hrenew]
  · rw [hrenew]

theorem storage_withSession (page : Page) (session : Session) :
    (page.withSession session).1.storage = page.storage := rfl

theorem storage_withMachine (page : Page) (machine : Machine) :
    (page.withMachine machine).storage = page.storage := rfl

theorem storage_keyCode (page : Page) (code : UInt32) (event : Machine → UInt8 → Machine) :
    (page.keyCode code event).1.storage = page.storage := by
  unfold keyCode
  split <;> rfl

/-- Only a save writes to the store. -/
theorem storage_apply {action : Action} (hsave : action ≠ .save) :
    (page.apply action).1.storage = page.storage := by
  cases action with
  | start | reset => exact page.storage_withSession _
  | startWith | startWithPreset => exact page.storage_renew _ _
  | load | setPreset | setIndex | cycle | step => exact page.storage_adopt _
  | pause | resume | togglePause | keyDown | keyUp => exact page.storage_withMachine _
  | keyDownCode | keyUpCode => exact page.storage_keyCode _ _
  | setKeys states =>
    simp only [apply]
    split <;> rfl
  | setSpeed | setScale | setVolume | setWave | setColors => exact page.storage_withSession _
  | takeDirty => rfl
  | save => exact absurd rfl hsave

end Page

end Chip8
