import Chip8.Proofs.Debugging
import Chip8.Proofs.Periphery

/-!
# Stepping through a program

A debugger that steps through a program finds what the program does when it runs. Of a paused
machine and the same machine resumed, the one is stepped through and the other steps, and both get
the same keys: the first, if it were resumed, is at all times the second but for the mark on its
picture. No step reads that mark, so the two never part.
-/

namespace Chip8

/-- The plain step in place of a debugger's. -/
def Command.untraced : Command → Command
  | .singleStep => .step
  | command => command

/-- Peripheries that may differ in the mark on the picture only. -/
def Periphery.SameButMark (own other : Periphery) : Prop := ∃ dirty, other = { own with dirty }

theorem Periphery.kept_sameButMark : Kept SameButMark := by
  rintro machine instruction own _ ⟨dirty, rfl⟩
  cases instruction with
  | clearScreen | draw => exact ⟨true, rfl⟩
  | _ => exact ⟨dirty, rfl⟩

namespace Machine

/-- The machine with its picture counted as taken. -/
def unmarked (machine : Machine) : Machine :=
  { machine with screen := machine.screen.markClean }

/-- The machines are the same but for the mark on the picture. -/
def Alike (machine other : Machine) : Prop := machine.unmarked = other.unmarked

variable {machine other traced free : Machine} {command : Command} {commands : List Command}

theorem alike_iff_sameUpTo :
    machine.Alike other ↔ machine.SameUpTo Periphery.SameButMark other := by
  constructor
  · intro halike
    obtain ⟨memory, registers, ⟨pixels, dirty⟩, keypad, mode, config, random⟩ := machine
    obtain ⟨memory', registers', ⟨pixels', dirty'⟩, keypad', mode', config', random'⟩ := other
    obtain ⟨rfl, rfl, hscreen, rfl, rfl, rfl, rfl⟩ := Machine.mk.inj halike
    obtain rfl := congrArg Screen.pixels hscreen
    exact ⟨_, rfl, dirty', rfl⟩
  · rintro ⟨_, rfl, dirty, rfl⟩
    rfl

/-- No instruction reads the mark. -/
theorem overlooks_mark (machine : Machine) : machine.Overlooks Periphery.SameButMark := by
  rintro - instruction - _ ⟨dirty, rfl⟩
  exact findsSame_of_eq (fun _ _ => rfl) rfl rfl

theorem Alike.step (halike : machine.Alike other) :
    machine.step.1.Alike other.step.1 ∧ machine.step.2 = other.step.2 := by
  rw [alike_iff_sameUpTo] at halike ⊢
  exact halike.step Periphery.kept_sameButMark machine.overlooks_mark

/-- No step pauses a machine. -/
theorem mode_step_ne_paused (hmode : machine.mode ≠ .paused) : machine.step.1.mode ≠ .paused := by
  by_cases hrunning : machine.mode = .running
  · obtain ⟨_, _, hstep⟩ | ⟨_, _, hstep⟩ | ⟨_, _, _, _, _, hstep⟩ := step_cases hrunning
    · simp [hstep]
    · simp [hstep]
    · simpa [hstep] using hmode
  · rwa [step_of_not_running hrunning]

theorem mode_resume_ne (machine : Machine) : machine.resume.mode ≠ .paused := by
  unfold resume
  split
  · simp
  · assumption

theorem resume_pause_of_not_paused (hmode : machine.mode ≠ .paused) :
    machine.pause.resume = machine := by
  by_cases hrunning : machine.mode = .running
  · exact resume_pause hrunning
  · rw [pause, if_neg hrunning, resume_of_not_paused hmode]

/-- A debugger's step is a step of the machine resumed. -/
theorem resume_singleStep (machine : Machine) :
    machine.singleStep.1.resume.Alike machine.resume.step.1 ∧
      machine.singleStep.2 = machine.resume.step.2 := by
  have hmode : machine.resume.step.1.mode ≠ .paused := mode_step_ne_paused machine.mode_resume_ne
  by_cases hpaused : machine.mode = .paused
  · have hresume (m : Machine) : { m with screen := m.screen.markDirty }.resume.Alike m.resume := by
      unfold resume
      split <;> rfl
    -- The step did not leave the machine paused, so resuming undoes the pause after it.
    have halike := hresume machine.resume.step.1.pause
    rw [resume_pause_of_not_paused hmode] at halike
    simp only [singleStep, if_pos hpaused, and_true]
    exact halike
  · rw [resume_of_not_paused hpaused] at hmode ⊢
    rw [singleStep, if_neg hpaused, resume_of_not_paused hmode]
    exact ⟨rfl, rfl⟩

theorem resume_withKeypad (machine : Machine) (event : Keypad × Option UInt8) :
    (machine.withKeypad event).resume = machine.resume.withKeypad event := by
  obtain ⟨memory, registers, screen, keypad, mode, config, random⟩ := machine
  obtain ⟨pressed, _ | key⟩ := event <;> cases mode <;> rfl

theorem unmarked_withKeypad (machine : Machine) (event : Keypad × Option UInt8) :
    (machine.withKeypad event).unmarked = machine.unmarked.withKeypad event := by
  obtain ⟨memory, registers, screen, keypad, mode, config, random⟩ := machine
  obtain ⟨pressed, _ | key⟩ := event <;> cases mode <;> rfl

/-- The first machine, if it were resumed, is the second but for the mark on the picture. -/
def Mirrors (traced free : Machine) : Prop := traced.resume.Alike free

theorem mirrors_resume (machine : Machine) : machine.Mirrors machine.resume := rfl

theorem Mirrors.same (hmirrors : traced.Mirrors free) :
    traced.memory = free.memory ∧ traced.registers = free.registers ∧
      traced.screen.pixels = free.screen.pixels ∧ traced.keypad = free.keypad ∧
      traced.config = free.config ∧ traced.random = free.random ∧
      (traced.mode = free.mode ∨ traced.mode = .paused ∧ free.mode = .running) := by
  obtain ⟨hmemory, hregisters, hscreen, hkeypad, hmode, hconfig, hrandom⟩ :=
    Machine.mk.inj hmirrors
  have hpixels : traced.resume.screen.pixels = free.screen.pixels := (Screen.mk.inj hscreen).1
  by_cases hpaused : traced.mode = .paused
  · have hresume : traced.resume = { traced with mode := .running } := if_pos hpaused
    rw [hresume] at hmemory hregisters hpixels hkeypad hmode hconfig hrandom
    exact ⟨hmemory, hregisters, hpixels, hkeypad, hconfig, hrandom, .inr ⟨hpaused, hmode.symm⟩⟩
  · rw [resume_of_not_paused hpaused] at hmemory hregisters hpixels hkeypad hmode hconfig hrandom
    exact ⟨hmemory, hregisters, hpixels, hkeypad, hconfig, hrandom, .inl hmode⟩

theorem Mirrors.singleStep (hmirrors : traced.Mirrors free) :
    traced.singleStep.1.Mirrors free.step.1 ∧ traced.singleStep.2 = free.step.2 := by
  obtain ⟨hsingle, hfault⟩ := traced.resume_singleStep
  obtain ⟨hstep, hfault'⟩ := Alike.step hmirrors
  exact ⟨hsingle.trans hstep, hfault.trans hfault'⟩

theorem Mirrors.withKeypad (hmirrors : traced.Mirrors free)
    (event : Keypad → Keypad × Option UInt8) :
    (traced.withKeypad (event traced.keypad)).Mirrors (free.withKeypad (event free.keypad)) := by
  obtain ⟨-, -, -, hkeypad, -⟩ := hmirrors.same
  rw [hkeypad, Mirrors, Alike, resume_withKeypad, unmarked_withKeypad, unmarked_withKeypad,
    hmirrors]

theorem Mirrors.apply (hmirrors : traced.Mirrors free) (hdebugs : command.Debugs)
    (hcycle : command ≠ .cycle) :
    (traced.apply command).1.Mirrors (free.apply command.untraced).1 ∧
      (traced.apply command).2 = (free.apply command.untraced).2 := by
  cases command with
  | singleStep =>
    obtain ⟨hstep, hfault⟩ := hmirrors.singleStep
    refine ⟨hstep, ?_⟩
    simp only [Machine.apply, Command.untraced, hfault]
  | cycle => exact absurd rfl hcycle
  | keyDown key => exact ⟨hmirrors.withKeypad fun keypad => (keypad.press key, none), rfl⟩
  | keyUp key => exact ⟨hmirrors.withKeypad (·.release key), rfl⟩
  | setKeys keys => exact ⟨hmirrors.withKeypad (·.update keys), rfl⟩
  | _ => exact hdebugs.elim

theorem Mirrors.after (hmirrors : traced.Mirrors free)
    (hdebugs : ∀ command ∈ commands, command.Debugs) (hcycles : .cycle ∉ commands) :
    (traced.after commands).Mirrors (free.after (commands.map Command.untraced)) ∧
      traced.replies commands = free.replies (commands.map Command.untraced) := by
  induction commands generalizing traced free with
  | nil => exact ⟨hmirrors, rfl⟩
  | cons command rest ih =>
    obtain ⟨hcommand, hrest⟩ := List.forall_mem_cons.mp hdebugs
    obtain ⟨hcycle, hnone⟩ := List.ne_and_not_mem_of_not_mem_cons hcycles
    obtain ⟨hnext, hreply⟩ := hmirrors.apply hcommand hcycle.symm
    obtain ⟨hlast, hreplies⟩ := ih hnext hrest hnone
    refine ⟨hlast, ?_⟩
    rw [List.map_cons, replies, replies, hreply, hreplies]

/-- **Single steps run the program.** Two copies of a machine, paused and resumed, take the same
keys, and where the one takes a debugger's step, the other takes a plain one. They never differ but
in the mark on the picture, and in that the one is paused where the other runs, and each step has
the same outcome. -/
theorem single_steps_run_program (machine : Machine)
    (hdebugs : ∀ command ∈ commands, command.Debugs) (hcycles : .cycle ∉ commands) :
    let traced := machine.after commands
    let free := machine.resume.after (commands.map Command.untraced)
    traced.memory = free.memory ∧ traced.registers = free.registers ∧
      traced.screen.pixels = free.screen.pixels ∧ traced.keypad = free.keypad ∧
      traced.config = free.config ∧ traced.random = free.random ∧
      (traced.mode = free.mode ∨ traced.mode = .paused ∧ free.mode = .running) ∧
      machine.replies commands = machine.resume.replies (commands.map Command.untraced) := by
  intro traced free
  obtain ⟨hlast, hreplies⟩ := machine.mirrors_resume.after hdebugs hcycles
  obtain ⟨hmemory, hregisters, hpixels, hkeypad, hconfig, hrandom, hmodes⟩ := hlast.same
  exact ⟨hmemory, hregisters, hpixels, hkeypad, hconfig, hrandom, hmodes, hreplies⟩

theorem keyCounter_traced :
    let commands : List Command := [.singleStep, .keyDown 5, .keyUp 5, .singleStep]
    pausedBeforeWait.Reachable ∧ pausedBeforeWait.mode = .paused ∧
      (∀ command ∈ commands, command.Debugs) ∧ .cycle ∉ commands ∧
      let untraced : List Command := [.step, .keyDown 5, .keyUp 5, .step]
      (pausedBeforeWait.after commands).registers =
          (pausedBeforeWait.resume.after untraced).registers ∧
        pausedBeforeWait.replies commands = pausedBeforeWait.resume.replies untraced := by
  intro commands
  have hreachable : pausedBeforeWait.Reachable := ⟨_, _, _, rfl⟩
  have hdebugs : ∀ command ∈ commands, command.Debugs := by simp [commands, Command.Debugs]
  have hcycles : .cycle ∉ commands := by simp [commands]
  have huntraced :
      commands.map Command.untraced = [.step, .keyDown 5, .keyUp 5, .step] := rfl
  obtain ⟨-, hregisters, -, -, -, -, -, hreplies⟩ :=
    single_steps_run_program pausedBeforeWait hdebugs hcycles
  rw [huntraced] at hregisters hreplies
  exact ⟨hreachable, pausedBeforeWait_awaits.1, hdebugs, hcycles, hregisters, hreplies⟩

end Machine

end Chip8
