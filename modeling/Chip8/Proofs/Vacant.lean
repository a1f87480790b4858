import Chip8.Proofs.FreshStart
import Chip8.Proofs.Halting

/-!
# Without a program

A machine without a program can be resumed, stepped and cycled all the same. It then meets the word
zero where programs start, which is no instruction, and halts. Nothing but the program counter ever
moves, and that only together with the halt: this is the invariant that every command keeps, apart
from a program that fits and a pixel drawn from outside.
-/

namespace Chip8

/-- The commands that give a machine something to run or to show: a program that fits, and a pixel
drawn from outside. -/
def Command.Fills : Command → Prop
  | .load program => program.length ≤ 3584
  | .togglePixel _ _ => True
  | _ => False

theorem Command.not_restarts {command : Command} (hunfilled : ¬command.Fills)
    (hreset : command ≠ .reset) : ¬command.Restarts := by
  cases command with
  | load program => exact hunfilled
  | reset => exact absurd rfl hreset
  | _ => exact id

namespace Machine

variable {machine next m : Machine} {command : Command} {commands : List Command}

/-- No program is in memory, and none has left anything behind. -/
structure Vacant (machine : Machine) : Prop where
  memory : machine.memory = .initial
  registers : machine.registers =
    { Registers.initial with pc := if machine.mode = .halted then 0x202 else 0x200 }
  pixels : machine.screen.pixels = Screen.blank.pixels
  awake : machine.isWaiting = false

theorem vacant_create (config : Config) (random : RandomSource) :
    (create config random).Vacant := ⟨rfl, rfl, rfl, rfl⟩

theorem vacant_reset (machine : Machine) : machine.reset.Vacant := ⟨rfl, rfl, rfl, rfl⟩

section Vacant

variable (hvacant : machine.Vacant)
include hvacant

theorem Vacant.of_same (hmemory : next.memory = machine.memory)
    (hregisters : next.registers = machine.registers)
    (hpixels : next.screen.pixels = machine.screen.pixels)
    (hhalted : next.mode = .halted ↔ machine.mode = .halted) (hawake : next.isWaiting = false) :
    next.Vacant where
  memory := hmemory.trans hvacant.memory
  registers := by
    rw [hregisters, hvacant.registers]
    simp only [hhalted]
  pixels := hpixels.trans hvacant.pixels
  awake := hawake

theorem Vacant.fetches (hmode : machine.mode ≠ .halted) : machine.Fetches 0x0000 := by
  have hpc : machine.registers.pc.toNat = 0x200 := by
    rw [hvacant.registers, if_neg hmode]
    rfl
  refine ⟨by omega, ?_⟩
  simp only [hpc, hvacant.memory, Memory.getElem_bytes_initial]
  rfl

theorem Vacant.step_of_running (hrunning : machine.mode = .running) :
    machine.step = (machine.advance.halt, some (.unknownOpcode 0x0000 0x0200)) := by
  have hmode : machine.mode ≠ .halted := by simp [hrunning]
  have hpc : machine.registers.pc = 0x200 := by rw [hvacant.registers, if_neg hmode]
  have hunknown : ∀ entry ∈ table, entry.accepts 0x0000 = false :=
    decode_eq_none_iff.mp (by decide)
  rw [step_of_unknown hrunning (hvacant.fetches hmode) hunknown, hpc]

theorem Vacant.step : machine.step.1.Vacant := by
  by_cases hrunning : machine.mode = .running
  · have hmode : machine.mode ≠ .halted := by simp [hrunning]
    rw [hvacant.step_of_running hrunning]
    refine ⟨hvacant.memory, ?_, hvacant.pixels, rfl⟩
    have hadvanced : machine.advance.halt.registers = machine.registers.advance := rfl
    rw [hadvanced, hvacant.registers, if_neg hmode]
    rfl
  · rwa [step_of_not_running hrunning]

/-- The first step fails or there is none, so a run is no longer than that. -/
theorem Vacant.run_cases (n : Nat) :
    machine.run n = (machine, none) ∨ machine.run n = machine.step := by
  cases n with
  | zero => exact .inl rfl
  | succ n =>
    by_cases hrunning : machine.mode = .running
    · have hstep := hvacant.step_of_running hrunning
      have hstopped : machine.step.1.mode ≠ .running :=
        not_running_of_fault (congrArg Prod.snd hstep)
      rw [run_succ, run_of_not_running hstopped, Option.or_none]
      exact .inr rfl
    · exact .inl (run_of_not_running hrunning (n + 1))

theorem Vacant.run (n : Nat) : (machine.run n).1.Vacant := by
  obtain hrun | hrun := hvacant.run_cases n
  · rwa [hrun]
  · rw [hrun]
    exact hvacant.step

theorem Vacant.fault_step {fault : Fault} (hfault : machine.step.2 = some fault) :
    fault = .unknownOpcode 0x0000 0x0200 := by
  by_cases hrunning : machine.mode = .running
  · rw [hvacant.step_of_running hrunning] at hfault
    exact (Option.some.inj hfault).symm
  · rw [step_of_not_running hrunning] at hfault
    contradiction

theorem Vacant.fault_run {fault : Fault} {n : Nat} (hfault : (machine.run n).2 = some fault) :
    fault = .unknownOpcode 0x0000 0x0200 := by
  obtain hrun | hrun := hvacant.run_cases n
  · rw [hrun] at hfault
    contradiction
  · rw [hrun] at hfault
    exact hvacant.fault_step hfault

theorem Vacant.tick : machine.tick.Vacant := by
  by_cases hrunning : machine.mode = .running
  · have hmode : machine.mode ≠ .halted := by simp [hrunning]
    refine hvacant.of_same ?_ ?_ ?_ tick_halted_iff ?_
    all_goals rw [tick_of_running hrunning]
    · rfl
    · have hticked : (machine.withRegisters machine.registers.tick).registers =
          machine.registers.tick := rfl
      rw [hticked, hvacant.registers]
      rfl
    · rfl
    · exact hvacant.awake
  · rwa [tick_of_not_running hrunning]

theorem Vacant.resume : machine.resume.Vacant := by
  refine hvacant.of_same ?_ ?_ ?_ resume_halted_iff (isWaiting_resume hvacant.awake)
  all_goals
    unfold Machine.resume
    split <;> rfl

theorem Vacant.pause : machine.pause.Vacant := by
  refine hvacant.of_same ?_ ?_ ?_ pause_halted_iff (isWaiting_pause hvacant.awake)
  all_goals
    unfold Machine.pause
    split <;> rfl

theorem Vacant.singleStep : machine.singleStep.1.Vacant := by
  unfold Machine.singleStep
  split
  · have hpaused := hvacant.resume.step.pause
    exact hpaused.of_same rfl rfl rfl Iff.rfl hpaused.awake
  · exact hvacant.step

theorem Vacant.cycle : machine.cycle.1.Vacant := by
  have hticked := (hvacant.run machine.config.speed.toNat).tick
  exact hticked.of_same rfl rfl rfl Iff.rfl hticked.awake

theorem Vacant.silent : machine.sounds = false := by
  rw [sounds, hvacant.registers]
  simp [Registers.initial]

theorem Vacant.withKeypad (event : Keypad × Option UInt8) : (machine.withKeypad event).Vacant := by
  rw [withKeypad_of_not_waiting hvacant.awake]
  exact hvacant.of_same rfl rfl rfl Iff.rfl hvacant.awake

theorem Vacant.apply (hunfilled : ¬command.Fills) : (machine.apply command).1.Vacant := by
  cases command with
  | load program =>
    simp only [Machine.apply, load_of_gt (Nat.lt_of_not_le hunfilled)]
    exact hvacant
  | reset => exact machine.vacant_reset
  | step => exact hvacant.step
  | singleStep => exact hvacant.singleStep
  | cycle => exact hvacant.cycle
  | pause => exact hvacant.pause
  | resume => exact hvacant.resume
  | togglePause =>
    simp only [Machine.apply, togglePause]
    split
    · exact hvacant.pause
    · exact hvacant.resume
  | keyUp key => exact hvacant.withKeypad _
  | setKeys keys => exact hvacant.withKeypad _
  | giveKey key =>
    simp only [Machine.apply, giveKey_of_not_waiting hvacant.awake]
    exact hvacant
  | togglePixel x y => exact absurd trivial hunfilled
  | clearScreen => exact ⟨hvacant.memory, hvacant.registers, rfl, hvacant.awake⟩
  | _ => exact hvacant.of_same rfl rfl rfl Iff.rfl hvacant.awake

theorem Vacant.after (hunfilled : ∀ command ∈ commands, ¬command.Fills) :
    (machine.after commands).Vacant := by
  induction commands generalizing machine with
  | nil => exact hvacant
  | cons command rest ih =>
    obtain ⟨hcommand, hrest⟩ := List.forall_mem_cons.mp hunfilled
    exact ih (hvacant.apply hcommand) hrest

theorem Vacant.of_mem_visited {n : Nat} (hm : m ∈ machine.visited n) : m.Vacant := by
  cases n with
  | zero => contradiction
  | succ n =>
    by_cases hrunning : machine.mode = .running
    · have hfault := congrArg Prod.snd (hvacant.step_of_running hrunning)
      rw [visited_succ_of_fault hrunning hfault, List.mem_singleton] at hm
      rwa [hm]
    · rw [visited_of_not_running hrunning] at hm
      contradiction

theorem Vacant.of_mem_steps (hm : m ∈ machine.steps command) : m.Vacant := by
  cases command with
  | step | cycle => exact hvacant.of_mem_visited hm
  | singleStep => exact hvacant.resume.of_mem_visited hm
  | _ => contradiction

theorem Vacant.fault_apply {fault : Fault} (hruns : command.Runs)
    (hfault : (machine.apply command).2.fault = some fault) :
    fault = .unknownOpcode 0x0000 0x0200 := by
  cases command with
  | step => exact hvacant.fault_step hfault
  | singleStep =>
    simp only [Machine.apply, Machine.singleStep] at hfault
    split at hfault
    · exact hvacant.resume.fault_step hfault
    · exact hvacant.fault_step hfault
  | cycle => exact hvacant.fault_run hfault
  | _ => exact hruns.elim

theorem Vacant.silent_apply : .sound true ∉ (machine.apply command).2.notices := by
  cases command with
  | cycle =>
    have hnotices : (machine.apply .cycle).2.notices = machine.cycle.2.2 := rfl
    have hticked : machine.ticked.Vacant := (hvacant.run machine.config.speed.toNat).tick
    rw [hnotices, notices_cycle, hticked.silent]
    split <;> simp
  | _ => exact List.not_mem_nil

end Vacant

/-- **Nothing runs without a program.** After its creation or a reset a machine stays empty, however
it is resumed, stepped, cycled, configured and keyed, as long as it is given no program that fits
and no pixel from outside. Each step that it takes fails on the zero word where programs start, and
that is the only way to fail, at most once between two resets. Nothing but the program counter
changes, the picture stays dark, and neither a wait nor a tone begins. -/
theorem nothing_runs_without_program
    (hfresh : (∃ config random, machine = create config random) ∨
      ∃ earlier : Machine, machine = earlier.reset)
    (hunfilled : ∀ command ∈ commands, ¬command.Fills) :
    let last := machine.after commands
    (∀ m ∈ machine.executed commands, m.step.2 = some (.unknownOpcode 0x0000 0x0200)) ∧
      (∀ k (_ : k < 4096), last.memory.bytes[k] = Memory.font.getD k 0) ∧
      last.registers =
        { Registers.initial with pc := if last.mode = .halted then 0x202 else 0x200 } ∧
      (∀ x y, last.screen.isLit x y = false) ∧
      last.isWaiting = false ∧
      (∀ reply ∈ machine.replies commands, .sound true ∉ reply.notices) ∧
      (∀ before command later, commands = before ++ command :: later → command.Runs →
        ∀ fault, ((machine.after before).apply command).2.fault = some fault →
          fault = .unknownOpcode 0x0000 0x0200) ∧
      ∀ before between later, commands = before ++ between ++ later → .reset ∉ between →
        (((machine.after before).replies between).map Reply.fault).count
          (some (.unknownOpcode 0x0000 0x0200)) ≤ 1 := by
  intro last
  have hvacant : machine.Vacant := by
    obtain ⟨config, random, rfl⟩ | ⟨earlier, rfl⟩ := hfresh
    · exact vacant_create config random
    · exact earlier.vacant_reset
  have hbefore {before later : List Command} (hsplit : commands = before ++ later) :
      (machine.after before).Vacant :=
    hvacant.after fun c hc => hunfilled c (hsplit ▸ List.mem_append_left later hc)
  have hlast : last.Vacant := hvacant.after hunfilled
  refine ⟨?_, ?_, hlast.registers, ?_, hlast.awake, ?_, ?_, ?_⟩
  · intro m hm
    obtain ⟨command, before, later, hsplit, hstep⟩ := mem_executed_iff.mp hm
    have hstart : m.Vacant := (hbefore hsplit).of_mem_steps hstep
    exact congrArg Prod.snd (hstart.step_of_running (running_of_mem_steps hstep))
  · intro k hk
    simp only [hlast.memory]
    exact Memory.getElem_bytes_initial hk
  · intro x y
    rw [Screen.isLit, hlast.pixels]
    simp [Screen.blank]
  · intro reply hreply
    obtain ⟨command, before, later, hsplit, rfl⟩ := mem_replies_iff.mp hreply
    exact (hbefore hsplit).silent_apply
  · intro before command later hsplit hruns fault hfault
    exact (hbefore hsplit).fault_apply hruns hfault
  · rintro before between later rfl hreset
    have hkept : ∀ command ∈ between, ¬command.Restarts := by
      intro command hcommand
      have hmem : command ∈ before ++ between ++ later :=
        List.mem_append_left later (List.mem_append_right before hcommand)
      exact Command.not_restarts (hunfilled command hmem) fun heq => hreset (heq ▸ hcommand)
    refine (count_fault_le hkept fun _ => by simp).trans ?_
    split <;> decide

theorem blank_machine_halts :
    let machine := create .default (.ofList [])
    let commands : List Command := [.singleStep, .cycle, .setKeys (.replicate 16 true), .keyUp 3]
    (∀ command ∈ commands, ¬command.Fills) ∧
      machine.resume ∈ machine.executed commands ∧
      machine.resume.step.2 = some (.unknownOpcode 0x0000 0x0200) ∧
      (machine.after commands).isWaiting = false := by
  obtain ⟨machine, hmachine⟩ : ∃ machine, create .default (.ofList []) = machine := ⟨_, rfl⟩
  rw [hmachine]
  intro _ commands
  have hunfilled : ∀ command ∈ commands, ¬command.Fills := by
    simp only [commands, List.forall_mem_cons, Command.Fills]
    exact ⟨id, id, id, id, by nofun⟩
  obtain ⟨hsteps, -, -, -, hawake, -⟩ :=
    nothing_runs_without_program (.inl ⟨.default, .ofList [], hmachine.symm⟩) hunfilled
  have hmem : machine.resume ∈ machine.executed commands := by
    have hvacant : machine.Vacant := hmachine ▸ vacant_create .default (.ofList [])
    have hpaused : machine.mode = .paused := by rw [← hmachine, create]
    have hrunning : machine.resume.mode = .running := by rw [resume, if_pos hpaused]
    have hfault := congrArg Prod.snd (hvacant.resume.step_of_running hrunning)
    rw [executed, steps, visited_succ_of_fault hrunning hfault]
    exact List.mem_cons_self
  exact ⟨hunfilled, hmem, hsteps _ hmem, hawake⟩

end Machine

end Chip8
