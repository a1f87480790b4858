import Chip8.Proofs.Halting
import Chip8.Proofs.SessionConfig
import Chip8.Proofs.Signals

/-!
# What a page's requests leave

A request that puts the machine back to the start takes back all signals. Cycles and steps are the
only requests that halt a machine and that note a fault, and only cycles change the tone.
-/

namespace Chip8

/-- The requests that put a machine back to the start: a reset, a new session and a program that is
accepted. -/
def Action.Restarts : Action → Prop
  | .reset | .start _ => True
  | .load program | .startWith _ program => program.length ≤ 3584
  | .startWithPreset _ program preset => program.length ≤ 3584 ∧ Preset.ofName? preset ≠ none
  | _ => False

/-- The requests that run instructions. -/
def Action.Runs : Action → Prop
  | .cycle | .step => True
  | _ => False

theorem Action.Runs.not_restarts {action : Action} (hruns : action.Runs) : ¬action.Restarts := by
  cases action with
  | cycle | step => exact id
  | _ => exact hruns.elim

namespace Session

variable {session : Session}

theorem load_of_le (session : Session) {program : List UInt8} (hfits : program.length ≤ 3584) :
    ∃ machine, session.load program = .ok () { session with machine, signals := {} } ∧
      machine.mode = .running := by
  obtain ⟨-, machine, hmachine, hload⟩ | ⟨hlong, -⟩ := session.load_cases program
  · exact ⟨machine, hload, Machine.mode_of_load hmachine⟩
  · exact absurd hfits (Nat.not_le_of_lt hlong)

/-- Neither the tone nor the fault has changed, nor whether the machine is halted. -/
structure Idles (session next : Session) : Prop where
  halted : next.machine.mode = .halted ↔ session.machine.mode = .halted
  tone : next.signals.tone = session.signals.tone
  lastFault : next.signals.lastFault = session.signals.lastFault

theorem Idles.refl (session : Session) : session.Idles session := ⟨Iff.rfl, rfl, rfl⟩

theorem idles_withMachine {machine : Machine}
    (hmode : machine.mode = .halted ↔ session.machine.mode = .halted) :
    session.Idles { session with machine } :=
  ⟨hmode, rfl, rfl⟩

theorem cycle_snd_of_halted (hhalted : session.machine.mode = .halted) : session.cycle.2 = none :=
  (Machine.cycle_of_not_running (by simp [hhalted])).2

theorem step_snd_of_halted (hhalted : session.machine.mode = .halted) : session.step.2 = none := by
  have hstep : session.step.2 = session.machine.singleStep.2 := rfl
  rw [hstep, Machine.singleStep, if_neg (by simp [hhalted]),
    Machine.step_of_not_running (by simp [hhalted])]

theorem halted_cycle_iff :
    session.cycle.1.machine.mode = .halted ↔
      session.machine.mode = .halted ∨ session.cycle.2 ≠ none := Machine.cycle_halted_iff

theorem halted_step_iff :
    session.step.1.machine.mode = .halted ↔
      session.machine.mode = .halted ∨ session.step.2 ≠ none := Machine.singleStep_halted_iff

end Session

namespace Page

variable {page : Page} {action : Action}

/-- The machine runs or is paused, and no signal is set. -/
theorem apply_of_restarts (hrestarts : action.Restarts) :
    (page.apply action).1.session.signals = {} ∧
      (page.apply action).1.session.machine.mode ≠ .halted := by
  cases action with
  | reset | start => exact ⟨rfl, by nofun⟩
  | load program =>
    obtain ⟨machine, hload, hmode⟩ := page.session.load_of_le hrestarts
    rw [apply, hload]
    exact ⟨rfl, by simp [adopt, settle, hmode]⟩
  | startWith random program =>
    obtain ⟨machine, hload, hmode⟩ := (Session.start page.storage random).load_of_le hrestarts
    rw [apply, renew, hload]
    exact ⟨rfl, by simp [withSession, hmode]⟩
  | startWithPreset random program name =>
    obtain ⟨hfits, hname⟩ := hrestarts
    obtain ⟨machine, hload, hmode⟩ := (Session.start page.storage random).load_of_le hfits
    obtain ⟨preset, hpreset⟩ := Option.ne_none_iff_exists'.mp hname
    rw [apply, renew, Call.bind_of_ok hload, Session.setPreset, Preset.read, hpreset]
    refine ⟨rfl, ?_⟩
    show machine.mode ≠ .halted
    simp [hmode]
  | _ => exact hrestarts.elim

theorem idles_keyCode {event : Machine → UInt8 → Machine} (code : UInt32)
    (hevent : ∀ machine key, (event machine key).mode = .halted ↔ machine.mode = .halted) :
    page.session.Idles (page.keyCode code event).1.session := by
  unfold keyCode
  split
  · exact Session.idles_withMachine (hevent _ _)
  · exact .refl page.session

/-- Neither an event from outside nor a setting, and nothing that is refused, moves the machine. -/
theorem idles_apply (hkept : ¬action.Restarts) (hruns : ¬action.Runs) :
    page.session.Idles (page.apply action).1.session := by
  cases action with
  | reset | start => exact absurd trivial hkept
  | cycle | step => exact absurd trivial hruns
  | load program =>
    rw [apply, Session.load_of_gt (Nat.lt_of_not_le hkept)]
    exact .refl page.session
  | startWith random program =>
    rw [apply, renew, Session.load_of_gt (Nat.lt_of_not_le hkept)]
    exact .refl page.session
  | startWithPreset random program name =>
    rw [apply, renew]
    by_cases hfits : program.length ≤ 3584
    · have hname : Preset.ofName? name = none := by
        by_contra hname
        exact hkept ⟨hfits, hname⟩
      obtain ⟨machine, hload, -⟩ := (Session.start page.storage random).load_of_le hfits
      rw [Call.bind_of_ok hload, Session.setPreset, Preset.read, hname]
      exact .refl page.session
    · rw [Call.bind_of_error (Session.load_of_gt (Nat.lt_of_not_le hfits))]
      exact .refl page.session
  | pause => exact Session.idles_withMachine Machine.pause_halted_iff
  | resume => exact Session.idles_withMachine Machine.resume_halted_iff
  | togglePause => exact Session.idles_withMachine Machine.togglePause_halted_iff
  | keyUp key => exact Session.idles_withMachine Machine.withKeypad_halted_iff
  | keyDownCode code => exact idles_keyCode code fun _ _ => Iff.rfl
  | keyUpCode code => exact idles_keyCode code fun _ _ => Machine.withKeypad_halted_iff
  | setKeys states =>
    simp only [apply]
    split
    · exact Session.idles_withMachine Machine.withKeypad_halted_iff
    · exact .refl page.session
  | setPreset name =>
    rw [apply]
    obtain ⟨preset, -, hset⟩ | ⟨fault, -, hset⟩ := page.session.setPreset_cases name
    · rw [hset]
      exact ⟨Iff.rfl, rfl, rfl⟩
    · rw [hset]
      exact .refl page.session
  | setIndex name =>
    rw [apply]
    obtain ⟨step, -, hset⟩ | ⟨fault, -, hset⟩ := page.session.setIndex_cases name
    · rw [hset]
      exact ⟨Iff.rfl, rfl, rfl⟩
    · rw [hset]
      exact .refl page.session
  | save =>
    rw [apply, session_save]
    exact .refl page.session
  | _ => exact ⟨Iff.rfl, rfl, rfl⟩

/-- A cycle or step returns its fault, notes it and is halted by it. A halted machine has none. -/
theorem apply_of_runs (hruns : action.Runs) :
    ∃ fault,
      (page.apply action).2.refusal = fault.map .fault ∧
        (page.apply action).1.session.signals.lastFault =
          fault.or page.session.signals.lastFault ∧
        ((page.apply action).1.session.machine.mode = .halted ↔
          page.session.machine.mode = .halted ∨ fault ≠ none) ∧
        (page.session.machine.mode = .halted → fault = none) := by
  cases action with
  | cycle =>
    exact ⟨page.session.cycle.2, rfl, congrArg Signals.lastFault page.session.signals_cycle,
      Session.halted_cycle_iff, Session.cycle_snd_of_halted⟩
  | step =>
    exact ⟨page.session.step.2, rfl, congrArg Signals.lastFault page.session.signals_step,
      Session.halted_step_iff, Session.step_snd_of_halted⟩
  | _ => exact hruns.elim

end Page

end Chip8
