import Chip8.Proofs.Requests

/-!
# The tone of a halted machine

A cycle that halts a machine turns the tone off. A debugger's step that halts it leaves the tone as
it was, and only the next cycle, reset or program turns it off.
-/

namespace Chip8

namespace Session

/-- The machine is halted and the page still plays the tone. -/
def HaltedAloud (session : Session) : Prop :=
  session.machine.mode = .halted ∧ session.signals.tone = true

variable {session : Session}

theorem not_haltedAloud_of_tone (htone : session.signals.tone = false) : ¬session.HaltedAloud := by
  rintro ⟨-, hloud⟩
  rw [htone] at hloud
  contradiction

theorem not_haltedAloud_cycle (session : Session) : ¬session.cycle.1.HaltedAloud := by
  rintro ⟨hhalted, htone⟩
  rw [signals_cycle] at htone
  have hmode : session.machine.ticked.mode = .halted := hhalted
  simp [Machine.sounds, hmode] at htone

theorem haltedAloud_step_iff :
    session.step.1.HaltedAloud ↔
      session.HaltedAloud ∨ session.signals.tone = true ∧ session.step.2 ≠ none := by
  have hmode : session.step.1.machine.mode = session.machine.singleStep.1.mode := rfl
  have hfault : session.step.2 = session.machine.singleStep.2 := rfl
  rw [HaltedAloud, signals_step, hmode, hfault, Machine.singleStep_halted_iff, HaltedAloud]
  tauto

theorem Idles.haltedAloud_iff {next : Session} (hidles : session.Idles next) :
    next.HaltedAloud ↔ session.HaltedAloud := by
  rw [HaltedAloud, HaltedAloud, hidles.halted, hidles.tone]

end Session

/-- What takes back the tone whatever the machine does: a cycle, a reset, a new session and a
program that is accepted. -/
def Action.ClearsTone : Action → Prop
  | .cycle | .reset | .start _ => True
  | .load program | .startWith _ program => program.length ≤ 3584
  | .startWithPreset _ program preset => program.length ≤ 3584 ∧ Preset.ofName? preset ≠ none
  | _ => False

theorem Action.clearsTone_iff {action : Action} :
    action.ClearsTone ↔ action = .cycle ∨ action.Restarts := by
  cases action <;> simp [ClearsTone, Restarts]

namespace Page

open Session (HaltedAloud)

variable {page : Page} {action : Action}

theorem not_haltedAloud_of_clearsTone (hclears : action.ClearsTone) :
    ¬(page.apply action).1.session.HaltedAloud := by
  obtain rfl | hrestarts := Action.clearsTone_iff.mp hclears
  · exact Session.not_haltedAloud_cycle page.session
  · exact Session.not_haltedAloud_of_tone (by rw [(apply_of_restarts hrestarts).1])

/-- Other requests than steps neither halt a machine nor touch the tone. -/
theorem haltedAloud_of_not_clearsTone (hclears : ¬action.ClearsTone) (hstep : action ≠ .step) :
    (page.apply action).1.session.HaltedAloud ↔ page.session.HaltedAloud := by
  rw [Action.clearsTone_iff, not_or] at hclears
  refine (idles_apply hclears.2 ?_).haltedAloud_iff
  cases action with
  | cycle => exact absurd rfl hclears.1
  | step => exact absurd rfl hstep
  | _ => exact id

theorem haltedAloud_apply_iff (page : Page) (action : Action) :
    (page.apply action).1.session.HaltedAloud ↔
      page.session.HaltedAloud ∧ ¬action.ClearsTone ∨
        action = .step ∧ page.session.signals.tone = true ∧
          (page.apply .step).2.refusal ≠ none := by
  by_cases hstep : action = .step
  · subst hstep
    have hrefusal : (page.apply .step).2.refusal ≠ none ↔ page.session.step.2 ≠ none :=
      not_congr Option.map_eq_none_iff
    have hsession : (page.apply .step).1.session = page.session.step.1 := rfl
    have hkeeps : ¬Action.step.ClearsTone := id
    rw [hrefusal, hsession, Session.haltedAloud_step_iff]
    simp [hkeeps]
  · by_cases hclears : action.ClearsTone
    · simp [not_haltedAloud_of_clearsTone hclears, hclears, hstep]
    · simp [haltedAloud_of_not_clearsTone hclears hstep, hclears, hstep]

/-- A step failed while the tone was on, and nothing since then has taken it back. -/
def StepLeftTone (page : Page) (actions : List Action) : Prop :=
  ∃ before later, actions = before ++ .step :: later ∧
    (page.after before).session.signals.tone = true ∧
    ((page.after before).apply .step).2.refusal ≠ none ∧
    ∀ action ∈ later, ¬action.ClearsTone

theorem stepLeftTone_cons_iff {actions : List Action} :
    page.StepLeftTone (action :: actions) ↔
      (action = .step ∧ page.session.signals.tone = true ∧
          (page.apply .step).2.refusal ≠ none ∧ ∀ later ∈ actions, ¬later.ClearsTone) ∨
        (page.apply action).1.StepLeftTone actions := exists_split_cons_iff

theorem haltedAloud_after_iff (page : Page) (actions : List Action) :
    (page.after actions).session.HaltedAloud ↔
      (page.session.HaltedAloud ∧ ∀ action ∈ actions, ¬action.ClearsTone) ∨
        page.StepLeftTone actions := by
  induction actions generalizing page with
  | nil => simp [after, StepLeftTone]
  | cons action actions ih =>
    rw [after_cons, ih, haltedAloud_apply_iff, stepLeftTone_cons_iff, List.forall_mem_cons,
      or_and_right, or_assoc]
    simp only [and_assoc]

/-- **The tone of a halted machine.** Whatever requests a page makes of a session, its machine is
halted while the tone is on exactly if a debugger's step failed with the tone on, and neither a
cycle nor a reset nor a new program came after it. So what a cycle halts is silent. -/
theorem halted_with_tone_iff (storage : Option Store) (random : RandomSource)
    (actions : List Action) :
    let opened := Page.start storage random
    let page := opened.after actions
    page.session.machine.mode = .halted ∧ page.session.signals.tone = true ↔
      ∃ before later, actions = before ++ .step :: later ∧
        (opened.after before).session.signals.tone = true ∧
        ((opened.after before).apply .step).2.refusal ≠ none ∧
        ∀ action ∈ later, ¬action.ClearsTone := by
  intro opened page
  have hopened : ¬opened.session.HaltedAloud := Session.not_haltedAloud_of_tone rfl
  refine (haltedAloud_after_iff opened actions).trans ?_
  constructor
  · rintro (⟨hhalted, -⟩ | hleft)
    · exact absurd hhalted hopened
    · exact hleft
  · exact .inr

/-- Two instructions that set the sound timer, and then a word that is no instruction. -/
def hum : List UInt8 := [0x60, 0xFF, 0xF0, 0x18, 0x00, 0x00]

theorem ticked_hum {machine : Machine}
    (hmemory : machine.memory = Memory.initial.write 0x200 hum)
    (hregisters : machine.registers = .initial) (hrunning : machine.mode = .running)
    (hspeed : machine.config.speed = 2) :
    ∃ registers, machine.ticked = machine.withRegisters registers ∧
      registers.pc.toNat = 0x200 + 4 ∧ registers.sound = 0xFE := by
  have hpc : machine.registers.pc.toNat = 0x200 + 0 := by
    rw [hregisters]
    rfl
  have hload : machine.Performs (.loadByte 0 0xFF) :=
    ⟨0x60FF, Machine.fetches_of_program hmemory hpc (by decide) rfl rfl rfl, by decide⟩
  obtain ⟨loaded, hloaded⟩ : ∃ loaded, loaded = machine.advance.write 0 0xFF := ⟨_, rfl⟩
  have hfirst : machine.step = (loaded, none) :=
    Machine.step_of_execute_eq_ok hrunning hload (by rw [hloaded]; rfl)
  have hmemory : loaded.memory = Memory.initial.write 0x200 hum := hloaded ▸ hmemory
  have hrunning' : loaded.mode = .running := hloaded ▸ hrunning
  have hregisters : loaded.registers = Registers.initial.advance.write 0 0xFF := by
    rw [hloaded, ← hregisters]
    rfl
  have hpc : loaded.registers.pc.toNat = 0x200 + 2 := by
    rw [hregisters]
    rfl
  have hset : loaded.Performs (.setSound 0) :=
    ⟨0xF018, Machine.fetches_of_program hmemory hpc (by decide) rfl rfl rfl, by decide⟩
  let registers := { loaded.registers.advance with sound := loaded.registers.read 0 }
  have hsecond : loaded.step = (loaded.withRegisters registers, none) :=
    Machine.step_of_execute_eq_ok hrunning' hset rfl
  have hrun : machine.run 2 = (loaded.withRegisters registers, none) := by
    rw [Machine.run_succ_of_step hfirst, Machine.run_succ_of_step hsecond, Machine.run]
  refine ⟨registers.tick, ?_, ?_, ?_⟩
  · have htwo : machine.config.speed.toNat = 2 := by
      rw [hspeed]
      rfl
    have htick : (loaded.withRegisters registers).tick = loaded.withRegisters registers.tick :=
      Machine.tick_of_running hrunning'
    rw [Machine.ticked, htwo, hrun, htick, hloaded]
    rfl
  · simp only [registers, hregisters]
    rfl
  · simp only [registers, hregisters]
    rfl

theorem haltedAloud_after_hum (page : Page) :
    (page.after [.load hum, .setSpeed 2, .cycle, .step]).session.HaltedAloud := by
  have hfits : hum.length ≤ 3584 := by decide
  obtain ⟨loaded, hload⟩ := page.session.machine.exists_load hfits
  have hloaded := Machine.load_eq_ok hload
  let session := Session.setSpeed { page.session with machine := loaded, signals := {} } 2
  have hsession : (page.after [.load hum, .setSpeed 2, .cycle, .step]).session =
      session.cycle.1.step.1 := by
    have hlater (page : Page) : (page.after [.setSpeed 2, .cycle, .step]).session =
        (page.session.setSpeed 2).cycle.1.step.1 := rfl
    rw [after_cons, hlater, apply, Session.load_eq_ok hload]
    rfl
  have hrunning : session.machine.mode = .running := by
    simp only [session, Session.setSpeed, Machine.setSpeed, hloaded]
  have hmemory : session.machine.memory = Memory.initial.write 0x200 hum := by
    simp only [session, Session.setSpeed, Machine.setSpeed, hloaded]
  have hregisters : session.machine.registers = .initial := by
    simp only [session, Session.setSpeed, Machine.setSpeed, hloaded]
    rfl
  obtain ⟨registers, hticked, hpc, hsound⟩ := ticked_hum hmemory hregisters hrunning rfl
  have htone : session.cycle.1.signals.tone = true := by
    rw [Session.signals_cycle, hticked]
    simp [Machine.sounds, Machine.withRegisters, hrunning, hsound]
  obtain ⟨machine, hmachine⟩ : ∃ machine, machine = session.cycle.1.machine := ⟨_, rfl⟩
  have hcycle : machine = { session.machine.withRegisters registers with
      screen := session.machine.screen.markClean } := by
    rw [hmachine]
    refine (Machine.cycle_fst session.machine).trans ?_
    rw [hticked]
    rfl
  have hfault : machine.singleStep.2 ≠ none := by
    have hrunning : machine.mode = .running := hcycle ▸ hrunning
    have hmemory : machine.memory = Memory.initial.write 0x200 hum := hcycle ▸ hmemory
    have hpc : machine.registers.pc.toNat = 0x200 + 4 := hcycle ▸ hpc
    have hword : machine.Fetches 0x0000 :=
      Machine.fetches_of_program hmemory hpc (by decide) rfl rfl rfl
    have hunknown : decode 0x0000 = none := by decide
    rw [Machine.singleStep, if_neg (by simp [hrunning]),
      Machine.step_of_unknown hrunning hword (decode_eq_none_iff.mp hunknown)]
    exact Option.some_ne_none _
  rw [hsession]
  rw [hmachine] at hfault
  exact Session.haltedAloud_step_iff.mpr (.inr ⟨htone, hfault⟩)

theorem failed_step_leaves_tone :
    let opened := Page.start none (.ofList [])
    let page := opened.after [.load hum, .setSpeed 2, .cycle, .step]
    page.session.machine.mode = .halted ∧ page.session.signals.tone = true :=
  haltedAloud_after_hum _

end Page

end Chip8
