import Chip8.Proofs.Latch
import Chip8.Proofs.Touched

/-!
# Waiting for a key

While a machine waits, the commands that release no key leave its registers, its memory and its
picture alone. The first release gives the waiting register its key and lets the machine run on;
every release after that only changes the keypad, until another wait begins.
-/

namespace Chip8

namespace Keypad

/-- A key that is held now and not in the new state. -/
def Releases (keypad : Keypad) (keys : Vector Bool 16) (key : Fin 16) : Prop :=
  keypad.pressed.get key = true ∧ keys.get key = false

variable {keypad : Keypad} {keys : Vector Bool 16}

theorem releases_iff {key : Fin 16} :
    keypad.Releases keys key ↔ (keypad.pressed.get key && !keys.get key) = true := by
  simp [Releases]

theorem firstReleased?_eq_none_iff :
    keypad.firstReleased? keys = none ↔ ∀ key, ¬keypad.Releases keys key := by
  rw [firstReleased?, List.find?_eq_none]
  constructor
  · exact fun hnone key hkey => hnone key (List.mem_finRange key) (releases_iff.mp hkey)
  · exact fun hnone key _ hkey => hnone key (releases_iff.mpr hkey)

theorem firstReleased?_of_lowest {key : Fin 16} (hkey : keypad.Releases keys key)
    (hlowest : ∀ lower < key, ¬keypad.Releases keys lower) :
    keypad.firstReleased? keys = some key := by
  rw [firstReleased?, List.find?_eq_some_iff_getElem]
  refine ⟨releases_iff.mp hkey, key.val, by simp, by simp, fun j hj => ?_⟩
  have hlower := hlowest ⟨j, by omega⟩ hj
  rw [releases_iff, Bool.not_eq_true] at hlower
  rw [List.getElem_finRange, Bool.not_eq_true']
  exact hlower

theorem lowest_of_firstReleased? {key : Fin 16} (hfirst : keypad.firstReleased? keys = some key) :
    keypad.Releases keys key ∧ ∀ lower < key, ¬keypad.Releases keys lower := by
  rw [firstReleased?, List.find?_eq_some_iff_getElem] at hfirst
  obtain ⟨hkey, k, hk, rfl, hlowest⟩ := hfirst
  refine ⟨releases_iff.mpr hkey, fun lower hlower => ?_⟩
  have hplace : lower.val < k := by simpa [Fin.lt_def] using hlower
  have hkept := hlowest lower hplace
  rw [List.getElem_finRange, Bool.not_eq_true'] at hkept
  rw [releases_iff, Bool.not_eq_true]
  exact hkept

end Keypad

/-- Key events that release a key or may do so. -/
def Command.IsRelease : Command → Prop
  | .keyUp _ | .setKeys _ => True
  | _ => False

namespace Machine

/-- The commands that cannot end a wait: steps and cycles, pausing, configuring, and those key
events that release no key of the pad. -/
def Quiet (machine : Machine) : Command → Prop
  | .step | .singleStep | .cycle | .pause | .resume | .togglePause => True
  | .setSpeed _ | .setDialect _ | .setConfig _ | .keyDown _ => True
  | .keyUp key => 16 ≤ key
  | .setKeys keys => ∀ key, ¬machine.keypad.Releases keys key
  | _ => False

/-- Each command is quiet for the machine that it finds. -/
def QuietRun (machine : Machine) : List Command → Prop
  | [] => True
  | command :: rest => machine.Quiet command ∧ (machine.apply command).1.QuietRun rest

/-- What the machine replies to each of the commands. -/
def replies (machine : Machine) : List Command → List Reply
  | [] => []
  | command :: rest => (machine.apply command).2 :: (machine.apply command).1.replies rest

theorem replies_append (machine : Machine) (earlier later : List Command) :
    machine.replies (earlier ++ later) =
      machine.replies earlier ++ (machine.after earlier).replies later := by
  induction earlier generalizing machine with
  | nil => rfl
  | cons command earlier ih =>
    rw [List.cons_append, replies, replies, ih, List.cons_append, after_cons]

theorem mem_replies_iff {machine : Machine} {commands : List Command} {reply : Reply} :
    reply ∈ machine.replies commands ↔
      ∃ command before later,
        commands = before ++ command :: later ∧
          reply = ((machine.after before).apply command).2 := by
  induction commands generalizing machine with
  | nil => simp [replies]
  | cons command rest ih =>
    rw [replies, List.mem_cons, ih]
    simp only [exists_split_cons_iff, exists_or, exists_eq_left']
    rfl

/-- The events that release a key of the pad, and that key; of several keys it is the lowest. -/
inductive ReleasedBy (machine : Machine) : Command → UInt8 → Prop
  | keyUp {key : UInt8} (hkey : key < 16) : ReleasedBy machine (.keyUp key) key
  | setKeys {keys : Vector Bool 16} {key : Fin 16} (hkey : machine.keypad.Releases keys key)
      (hlowest : ∀ lower < key, ¬machine.keypad.Releases keys lower) :
      ReleasedBy machine (.setKeys keys) (UInt8.ofNat key)

/-- No step that the commands take performs a key wait. -/
def BeginsNoWait (machine : Machine) : List Command → Prop
  | [] => True
  | command :: rest =>
    (∀ m ∈ machine.steps command, ∀ x, ¬m.Performs (.awaitKey x)) ∧
      (machine.apply command).1.BeginsNoWait rest

/-- Everything that a program could tell apart is as it was, and so is the mode. -/
structure Suspends (machine next : Machine) : Prop where
  mode : next.mode = machine.mode
  registers : next.registers = machine.registers
  memory : next.memory = machine.memory
  pixels : next.screen.pixels = machine.screen.pixels

variable {machine next : Machine} {register : Register} {command : Command}

theorem Suspends.refl (machine : Machine) : machine.Suspends machine := ⟨rfl, rfl, rfl, rfl⟩

theorem Suspends.trans {last : Machine} (hfirst : machine.Suspends next)
    (hlast : next.Suspends last) : machine.Suspends last :=
  ⟨hlast.mode.trans hfirst.mode, hlast.registers.trans hfirst.registers,
    hlast.memory.trans hfirst.memory, hlast.pixels.trans hfirst.pixels⟩

theorem tick_of_not_running (hmode : machine.mode ≠ .running) : machine.tick = machine := by
  rw [tick, if_neg hmode]

/-- A cycle of a machine that does not run takes the dirty mark, and that is all. -/
theorem cycle_of_not_running (hmode : machine.mode ≠ .running) :
    machine.cycle.1 = { machine with screen := machine.screen.markClean } ∧
      machine.cycle.2.1 = none := by
  simp only [cycle, run_of_not_running hmode, tick_of_not_running hmode, takeDirty, and_self]

theorem apply_of_quiet (hwaiting : machine.mode = .waiting register)
    (hquiet : machine.Quiet command) :
    machine.Suspends (machine.apply command).1 ∧ (machine.apply command).2.fault = none := by
  have hrunning : machine.mode ≠ .running := by simp [hwaiting]
  have hpaused : machine.mode ≠ .paused := by simp [hwaiting]
  have hresume : machine.resume = machine := if_neg hpaused
  cases command with
  | step =>
    simp only [apply, step_of_not_running hrunning]
    exact ⟨.refl machine, trivial⟩
  | singleStep =>
    simp only [apply, singleStep, if_neg hpaused, step_of_not_running hrunning]
    exact ⟨.refl machine, trivial⟩
  | cycle =>
    obtain ⟨hcycle, hfault⟩ := cycle_of_not_running hrunning
    simp only [apply, hcycle, hfault]
    exact ⟨⟨rfl, rfl, rfl, rfl⟩, trivial⟩
  | pause =>
    simp only [apply, pause, if_neg hrunning]
    exact ⟨.refl machine, trivial⟩
  | resume =>
    simp only [apply, hresume]
    exact ⟨.refl machine, trivial⟩
  | togglePause =>
    simp only [apply, togglePause, if_neg hrunning, hresume]
    exact ⟨.refl machine, trivial⟩
  | keyDown key => exact ⟨⟨rfl, rfl, rfl, rfl⟩, rfl⟩
  | keyUp key =>
    have hkey : ¬key < 16 := UInt8.not_lt.mpr hquiet
    simp only [apply, keyUp, Keypad.release, if_neg hkey, withKeypad]
    exact ⟨.refl machine, trivial⟩
  | setKeys keys =>
    have hnone := Keypad.firstReleased?_eq_none_iff.mpr hquiet
    simp only [apply, setKeys, Keypad.update, hnone, withKeypad]
    exact ⟨⟨rfl, rfl, rfl, rfl⟩, trivial⟩
  | setSpeed speed => exact ⟨⟨rfl, rfl, rfl, rfl⟩, rfl⟩
  | setDialect dialect => exact ⟨⟨rfl, rfl, rfl, rfl⟩, rfl⟩
  | setConfig config => exact ⟨⟨rfl, rfl, rfl, rfl⟩, rfl⟩
  | _ => exact hquiet.elim

theorem suspends_after (hwaiting : machine.mode = .waiting register) {commands : List Command}
    (hquiet : machine.QuietRun commands) :
    machine.Suspends (machine.after commands) ∧
      ∀ reply ∈ machine.replies commands, reply.fault = none := by
  induction commands generalizing machine with
  | nil => exact ⟨.refl machine, by simp [replies]⟩
  | cons command rest ih =>
    obtain ⟨hcommand, hrest⟩ := hquiet
    obtain ⟨hsuspends, hfault⟩ := apply_of_quiet hwaiting hcommand
    obtain ⟨hafter, hfaults⟩ := ih (hsuspends.mode.trans hwaiting) hrest
    exact ⟨hsuspends.trans hafter, List.forall_mem_cons.mpr ⟨hfault, hfaults⟩⟩

/-- The machine that a release leaves: it runs on with the key in its register. -/
theorem apply_of_releasedBy (hwaiting : machine.mode = .waiting register)
    (harmed : machine.keypad.armed = true) {event : Command} {key : UInt8}
    (hevent : machine.ReleasedBy event key) :
    ∃ pressed,
      machine.apply event =
        ({ machine with
            registers := machine.registers.write register key
            keypad := ⟨pressed, false⟩
            mode := .running }, {}) := by
  cases hevent with
  | keyUp hkey =>
    refine ⟨machine.keypad.pressed.setIfInBounds key.toNat false, ?_⟩
    simp only [apply, keyUp, Keypad.release, if_pos hkey, harmed, ↓reduceIte, withKeypad, giveKey,
      hwaiting]
    rfl
  | @setKeys keys key hkey hlowest =>
    have hfirst := Keypad.firstReleased?_of_lowest hkey hlowest
    refine ⟨keys, ?_⟩
    simp only [apply, setKeys, Keypad.update, hfirst, harmed, ↓reduceIte, withKeypad, giveKey,
      hwaiting]
    rfl

section NoWait

variable (hwaiting : machine.isWaiting = false)
include hwaiting

theorem isWaiting_step (hnone : ∀ x, ¬machine.Performs (.awaitKey x)) :
    machine.step.1.isWaiting = false := by
  by_cases hrunning : machine.mode = .running
  · obtain ⟨registers, fault, hstep⟩ | ⟨x, hawaits, -⟩ |
        ⟨-, memory, registers, screen, random, hstep⟩ := step_cases hrunning
    · rw [hstep]
      rfl
    · exact absurd hawaits (hnone x)
    · rw [hstep]
      exact hwaiting
  · rwa [step_of_not_running hrunning]

theorem isWaiting_run {n : Nat}
    (hnone : ∀ m ∈ machine.visited n, ∀ x, ¬m.Performs (.awaitKey x)) :
    (machine.run n).1.isWaiting = false :=
  run_induction (fun m => m.isWaiting = false) (fun m => ∀ x, ¬m.Performs (.awaitKey x))
    (fun _ _ hnone hwaiting => isWaiting_step hwaiting hnone) hnone hwaiting

theorem isWaiting_pause : machine.pause.isWaiting = false := by
  unfold pause
  split
  · rfl
  · exact hwaiting

theorem isWaiting_resume : machine.resume.isWaiting = false := by
  unfold resume
  split
  · rfl
  · exact hwaiting

theorem isWaiting_tick : machine.tick.isWaiting = false := by
  unfold tick
  split <;> exact hwaiting

theorem isWaiting_giveKey (key : UInt8) : (machine.giveKey key).isWaiting = false := by
  rwa [giveKey_of_not_waiting hwaiting]

theorem isWaiting_withKeypad (event : Keypad × Option UInt8) :
    (machine.withKeypad event).isWaiting = false := by
  rw [withKeypad_of_not_waiting hwaiting]
  exact hwaiting

theorem isWaiting_singleStep
    (hnone : ∀ m ∈ machine.resume.visited 1, ∀ x, ¬m.Performs (.awaitKey x)) :
    machine.singleStep.1.isWaiting = false := by
  have hresume := isWaiting_run (isWaiting_resume hwaiting) hnone
  rw [run_one] at hresume
  unfold singleStep
  split
  · exact isWaiting_pause hresume
  · rename_i hpaused
    rwa [resume_of_not_paused hpaused] at hresume

/-- Only a step that performs a key wait makes a machine wait. -/
theorem isWaiting_apply (hnone : ∀ m ∈ machine.steps command, ∀ x, ¬m.Performs (.awaitKey x)) :
    (machine.apply command).1.isWaiting = false := by
  cases command with
  | load program =>
    obtain ⟨loaded, hload, happly⟩ | ⟨fault, happly⟩ := machine.apply_load_cases program
    · rw [happly, load_eq_ok hload]
      rfl
    · rwa [happly]
  | reset => rfl
  | step =>
    have hstep := isWaiting_run hwaiting hnone
    rwa [run_one] at hstep
  | singleStep => exact isWaiting_singleStep hwaiting hnone
  | cycle => exact isWaiting_tick (isWaiting_run hwaiting hnone)
  | pause => exact isWaiting_pause hwaiting
  | resume => exact isWaiting_resume hwaiting
  | togglePause =>
    simp only [apply, togglePause]
    split
    · exact isWaiting_pause hwaiting
    · exact isWaiting_resume hwaiting
  | keyUp key => exact isWaiting_withKeypad hwaiting _
  | setKeys keys => exact isWaiting_withKeypad hwaiting _
  | giveKey key => exact isWaiting_giveKey hwaiting key
  | _ => exact hwaiting

theorem isWaiting_after {commands : List Command} (hnone : machine.BeginsNoWait commands) :
    (machine.after commands).isWaiting = false := by
  induction commands generalizing machine with
  | nil => exact hwaiting
  | cons command rest ih => exact ih (isWaiting_apply hwaiting hnone.1) hnone.2

end NoWait

/-- Without a wait the latch is not armed, so a release changes the keypad alone. -/
theorem apply_of_isRelease (hlatched : machine.Latched) (hwaiting : machine.isWaiting = false)
    (hrelease : command.IsRelease) :
    ∃ keypad, (machine.apply command).1 = { machine with keypad } := by
  have hunarmed : machine.keypad.armed = false := hlatched.trans hwaiting
  have hignored (event : Keypad × Option UInt8)
      (hsome : ∀ key, event.2 = some key → machine.keypad.armed = true) :
      ∃ keypad, machine.withKeypad event = { machine with keypad } := by
    obtain ⟨keypad, fired⟩ := event
    cases fired with
    | none => exact ⟨keypad, rfl⟩
    | some key => exact absurd (hsome key rfl) (by simp [hunarmed])
  cases command with
  | keyUp key => exact hignored _ fun _ => Keypad.armed_of_release_eq_some
  | setKeys keys => exact hignored _ fun _ => Keypad.armed_of_update_eq_some
  | _ => exact hrelease.elim

theorem registers_apply_of_isRelease (hlatched : machine.Latched)
    (hwaiting : machine.isWaiting = false) (hrelease : command.IsRelease) :
    (machine.apply command).1.registers = machine.registers := by
  obtain ⟨keypad, hkeypad⟩ := apply_of_isRelease hlatched hwaiting hrelease
  rw [hkeypad]

/-- **A key wait.** Nothing but a release of a key ends a wait, and nothing else that happens
during it touches the registers, the memory or the picture. The first release gives its key to the
waiting register and changes no other register; releases after that write no register until a step
performs another key wait. -/
theorem wait_ends_with_first_release (hreachable : machine.Reachable)
    (hwaiting : machine.mode = .waiting register) {commands : List Command}
    (hquiet : machine.QuietRun commands) :
    let waiting := machine.after commands
    (∀ reply ∈ machine.replies commands, reply.fault = none) ∧
      waiting.mode = .waiting register ∧ waiting.registers = machine.registers ∧
      waiting.memory = machine.memory ∧ waiting.screen.pixels = machine.screen.pixels ∧
      ∀ event key, waiting.ReleasedBy event key →
        let resumed := (waiting.apply event).1
        (waiting.apply event).2.fault = none ∧ resumed.mode = .running ∧
          resumed.keypad.armed = false ∧
          machine.registers.Assigns register key resumed.registers ∧
          resumed.memory = machine.memory ∧ resumed.screen.pixels = machine.screen.pixels ∧
          ∀ later, resumed.BeginsNoWait later → ∀ release : Command, release.IsRelease →
            ((resumed.after later).apply release).1.registers =
              (resumed.after later).registers := by
  intro waiting
  obtain ⟨hsuspends, hfaults⟩ := suspends_after hwaiting hquiet
  have hmode : waiting.mode = .waiting register := hsuspends.mode.trans hwaiting
  have hlatched : waiting.Latched := hreachable.latched.after commands
  have harmed : waiting.keypad.armed = true :=
    hlatched.trans (isWaiting_eq_true_iff.mpr ⟨register, hmode⟩)
  refine ⟨hfaults, hmode, hsuspends.registers, hsuspends.memory, hsuspends.pixels, ?_⟩
  intro event key hevent resumed
  obtain ⟨pressed, hevent⟩ := apply_of_releasedBy hmode harmed hevent
  have hresumed : resumed = { waiting with
      registers := waiting.registers.write register key
      keypad := ⟨pressed, false⟩
      mode := .running } := congrArg Prod.fst hevent
  refine ⟨by rw [hevent], by rw [hresumed], by rw [hresumed], ?_, ?_, ?_, ?_⟩
  · rw [hresumed, ← hsuspends.registers]
    exact waiting.registers.assigns_write register key
  · rw [hresumed, ← hsuspends.memory]
  · rw [hresumed, ← hsuspends.pixels]
  · intro later hlater release hrelease
    have hrunning : resumed.isWaiting = false := by
      rw [hresumed]
      rfl
    have hlater' : (resumed.after later).Latched := (hlatched.apply event).after later
    exact registers_apply_of_isRelease hlater' (isWaiting_after hrunning hlater) hrelease

/-- A new machine after the first step of a program that waits for a key for V3. -/
def keyWaiter : Machine := (create .default (.ofList [])).after [.load [0xF3, 0x0A], .step]

theorem keyWaiter_eq :
    ∃ loaded, (create .default (.ofList [])).load [0xF3, 0x0A] = .ok () loaded ∧
      keyWaiter =
        { loaded.advance with mode := .waiting 3, keypad := loaded.keypad.arm } := by
  have hfits : [0xF3, (0x0A : UInt8)].length ≤ 3584 := by decide
  obtain ⟨loaded, hload⟩ := (create .default (.ofList [])).exists_load hfits
  have hrunning := mode_of_load hload
  have hperforms : loaded.Performs (.awaitKey 3) :=
    ⟨0xF30A, fetches_of_load hload (by decide), by decide⟩
  have hwaiter : keyWaiter = loaded.step.1 := by
    rw [keyWaiter, after_cons, apply_load hload]
    rfl
  refine ⟨loaded, hload, ?_⟩
  rw [hwaiter, step_of_performs hrunning hperforms]
  rfl

theorem mode_keyWaiter : keyWaiter.mode = .waiting 3 := by
  obtain ⟨loaded, -, hwaiter⟩ := keyWaiter_eq
  rw [hwaiter]

theorem registers_keyWaiter : keyWaiter.registers = Registers.initial.advance := by
  obtain ⟨loaded, hload, hwaiter⟩ := keyWaiter_eq
  rw [hwaiter, ← registers_of_load hload]
  rfl

theorem keyWaiter_resumes :
    keyWaiter.Reachable ∧ keyWaiter.mode = .waiting 3 ∧ keyWaiter.registers.read 3 = 0 ∧
      let waiting := keyWaiter.after [.keyDown 5, .cycle, .keyUp 0x42, .togglePause]
      let resumed := (waiting.apply (.keyUp 5)).1
      waiting.registers = keyWaiter.registers ∧ resumed.mode = .running ∧
        resumed.registers.read 3 = 5 ∧
        (∀ y, y ≠ 3 → resumed.registers.read y = keyWaiter.registers.read y) ∧
        resumed.registers.pc = 0x202 ∧
        (resumed.apply (.keyUp 6)).1.registers = resumed.registers := by
  -- How the machine came to wait plays no part from here on.
  obtain ⟨machine, hmachine⟩ : ∃ machine, keyWaiter = machine := ⟨_, rfl⟩
  have hreachable : machine.Reachable := ⟨_, _, _, hmachine.symm⟩
  have hwaiting : machine.mode = .waiting 3 := hmachine ▸ mode_keyWaiter
  have hinitial : machine.registers = Registers.initial.advance := hmachine ▸ registers_keyWaiter
  rw [hmachine]
  have hoff : (16 : UInt8) ≤ 0x42 := by decide
  have hon : (5 : UInt8) < 16 := by decide
  have hquiet : machine.QuietRun [.keyDown 5, .cycle, .keyUp 0x42, .togglePause] :=
    ⟨trivial, trivial, hoff, trivial, trivial⟩
  obtain ⟨-, -, hregisters, -, -, hresume⟩ :=
    wait_ends_with_first_release hreachable hwaiting hquiet
  obtain ⟨-, hmode, -, hassigns, -, -, hlater⟩ := hresume _ _ (.keyUp hon)
  refine ⟨hreachable, hwaiting, by rw [hinitial]; rfl, hregisters, hmode, hassigns.here,
    hassigns.elsewhere, ?_, hlater [] trivial (.keyUp 6) trivial⟩
  rw [hassigns.pc, hinitial]
  rfl

end Machine

end Chip8
