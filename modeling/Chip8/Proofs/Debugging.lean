import Chip8.Proofs.Executed
import Chip8.Proofs.KeyWait

/-!
# A pause under a debugger

A debugger's step of a paused machine leaves it paused, waiting for a key or halted. The wait has no
memory of the pause: a release that ends it lets the machine run, until one of its steps fails or
begins another wait. A cycle that comes in between runs the program.
-/

namespace Chip8

/-- What debugger, clock and keypad may do while nobody resumes the machine or loads it anew. -/
def Command.Debugs : Command → Prop
  | .singleStep | .cycle | .keyDown _ | .keyUp _ | .setKeys _ => True
  | _ => False

namespace Machine

/-- The next step neither fails nor begins a wait. -/
def Proceeds (machine : Machine) : Prop :=
  machine.step.2 = none ∧ ∀ x, ¬machine.Performs (.awaitKey x)

def EndsWait (machine : Machine) (command : Command) : Prop :=
  machine.isWaiting = true ∧ ∃ key, machine.ReleasedBy command key

/-- A release has ended a wait, and all steps since then have gone on to the next. -/
def Freed (machine : Machine) (commands : List Command) : Prop :=
  ∃ release front back, commands = front ++ release :: back ∧
    (machine.after front).EndsWait release ∧
      ∀ m ∈ ((machine.after front).apply release).1.executed back, m.Proceeds

variable {machine : Machine} {command : Command} {commands : List Command}

theorem running_step_iff :
    machine.step.1.mode = .running ↔ machine.mode = .running ∧ machine.Proceeds := by
  by_cases hrunning : machine.mode = .running
  · obtain ⟨registers, fault, hstep⟩ | ⟨x, hawaits, hstep⟩ |
        ⟨hnone, memory, registers, screen, random, hstep⟩ := step_cases hrunning
    · simp [Proceeds, hstep]
    · have hstops : ¬machine.Proceeds := fun hproceeds => hproceeds.2 x hawaits
      simp [hstep, hstops]
    · simp [Proceeds, hstep, hrunning, hnone]
  · simp [step_of_not_running hrunning, hrunning]

theorem running_run_iff {n : Nat} :
    (machine.run n).1.mode = .running ↔
      machine.mode = .running ∧ ∀ m ∈ machine.visited n, m.Proceeds := by
  induction n generalizing machine with
  | zero => simp [run, visited]
  | succ n ih =>
    by_cases hrunning : machine.mode = .running
    · rw [run_succ, visited_succ hrunning, List.forall_mem_cons, ih, running_step_iff, and_assoc]
    · simp [run_of_not_running hrunning, hrunning]

theorem mode_pause_ne (machine : Machine) : machine.pause.mode ≠ .running := by
  unfold pause
  split
  · simp
  · assumption

theorem running_singleStep_iff :
    machine.singleStep.1.mode = .running ↔
      machine.mode = .running ∧ ∀ m ∈ machine.resume.visited 1, m.Proceeds := by
  by_cases hpaused : machine.mode = .paused
  · have hstepped : machine.singleStep.1.mode = machine.resume.step.1.pause.mode := by
      rw [singleStep, if_pos hpaused]
    simp [hstepped, mode_pause_ne, hpaused]
  · rw [singleStep, if_neg hpaused, resume_of_not_paused hpaused, ← running_run_iff, run_one]

theorem running_cycle_iff :
    machine.cycle.1.mode = .running ↔
      machine.mode = .running ∧ ∀ m ∈ machine.visited machine.config.speed.toNat, m.Proceeds := by
  have hmode : machine.cycle.1.mode = (machine.run machine.config.speed.toNat).1.mode := by
    show Machine.mode (tick _) = _
    unfold tick
    split <;> rfl
  rw [hmode, running_run_iff]

theorem not_quiet_of_releasedBy {key : UInt8} (hreleased : machine.ReleasedBy command key) :
    ¬machine.Quiet command := by
  cases hreleased with
  | keyUp hkey => exact UInt8.not_le.mpr hkey
  | setKeys hkey hlowest => exact fun hquiet => hquiet _ hkey

/-- A key event that releases a key releases a lowest one. -/
theorem quiet_or_releasedBy (hrelease : command.IsRelease) :
    machine.Quiet command ∨ ∃ key, machine.ReleasedBy command key := by
  cases command with
  | keyUp key =>
    by_cases hkey : key < 16
    · exact .inr ⟨key, .keyUp hkey⟩
    · exact .inl (UInt8.not_lt.mp hkey)
  | setKeys keys =>
    cases hfirst : machine.keypad.firstReleased? keys with
    | none => exact .inl (Keypad.firstReleased?_eq_none_iff.mp hfirst)
    | some key =>
      obtain ⟨hkey, hlowest⟩ := Keypad.lowest_of_firstReleased? hfirst
      exact .inr ⟨_, .setKeys hkey hlowest⟩
  | _ => exact hrelease.elim

theorem running_release_iff (hlatched : machine.Latched) (hrelease : command.IsRelease) :
    (machine.apply command).1.mode = .running ↔
      machine.mode = .running ∨ machine.EndsWait command := by
  cases hwaiting : machine.isWaiting with
  | false =>
    obtain ⟨keypad, hkeypad⟩ := apply_of_isRelease hlatched hwaiting hrelease
    simp [hkeypad, EndsWait, hwaiting]
  | true =>
    obtain ⟨register, hmode⟩ := isWaiting_eq_true_iff.mp hwaiting
    obtain hquiet | ⟨key, hreleased⟩ := machine.quiet_or_releasedBy hrelease
    · have hkept : ∀ key, ¬machine.ReleasedBy command key := fun key hreleased =>
        not_quiet_of_releasedBy hreleased hquiet
      rw [(apply_of_quiet hmode hquiet).1.mode]
      simp [EndsWait, hkept]
    · obtain ⟨pressed, hresumed⟩ :=
        apply_of_releasedBy hmode (hlatched.trans hwaiting) hreleased
      rw [hresumed]
      exact iff_of_true rfl (.inr ⟨hwaiting, key, hreleased⟩)

theorem isRelease_of_endsWait (hends : machine.EndsWait command) : command.IsRelease := by
  obtain ⟨-, key, hreleased⟩ := hends
  cases hreleased <;> trivial

theorem running_apply_iff (hlatched : machine.Latched) (hdebugs : command.Debugs) :
    (machine.apply command).1.mode = .running ↔
      (machine.mode = .running ∧ ∀ m ∈ machine.steps command, m.Proceeds) ∨
        machine.EndsWait command := by
  have hother (hkept : ¬command.IsRelease) : ¬machine.EndsWait command :=
    mt isRelease_of_endsWait hkept
  have hevent (hrelease : command.IsRelease) (hnone : machine.steps command = []) :
      (machine.apply command).1.mode = .running ↔
        (machine.mode = .running ∧ ∀ m ∈ machine.steps command, m.Proceeds) ∨
          machine.EndsWait command := by
    simp [running_release_iff hlatched hrelease, hnone]
  cases command with
  | singleStep => exact running_singleStep_iff.trans (or_iff_left (hother id)).symm
  | cycle => exact running_cycle_iff.trans (or_iff_left (hother id)).symm
  | keyDown key => simp [apply, keyDown, steps, hother id]
  | keyUp | setKeys => exact hevent trivial rfl
  | _ => exact hdebugs.elim

theorem freed_cons_iff :
    machine.Freed (command :: commands) ↔
      (machine.EndsWait command ∧ ∀ m ∈ (machine.apply command).1.executed commands, m.Proceeds) ∨
        (machine.apply command).1.Freed commands := by
  simp only [Freed, exists_split_cons_iff, exists_or, exists_eq_left']
  rfl

theorem running_after_iff (hlatched : machine.Latched)
    (hdebugs : ∀ command ∈ commands, command.Debugs) :
    (machine.after commands).mode = .running ↔
      (machine.mode = .running ∧ ∀ m ∈ machine.executed commands, m.Proceeds) ∨
        machine.Freed commands := by
  induction commands generalizing machine with
  | nil => simp [after, executed, Freed]
  | cons command commands ih =>
    obtain ⟨hcommand, hrest⟩ := List.forall_mem_cons.mp hdebugs
    rw [after_cons, ih (hlatched.apply command) hrest, running_apply_iff hlatched hcommand,
      freed_cons_iff, executed, List.forall_mem_append, or_and_right, and_assoc, or_assoc]

theorem length_visited_le (machine : Machine) (n : Nat) : (machine.visited n).length ≤ n := by
  induction n generalizing machine with
  | zero => exact Nat.le_refl 0
  | succ n ih =>
    by_cases hrunning : machine.mode = .running
    · rw [visited_succ hrunning, List.length_cons]
      exact Nat.succ_le_succ (ih machine.step.1)
    · rw [visited_of_not_running hrunning]
      exact Nat.zero_le _

theorem length_steps_le (hdebugs : command.Debugs) (hidle : command = .cycle →
    machine.steps .cycle = []) : (machine.steps command).length ≤ [command].count .singleStep := by
  cases command with
  | singleStep => exact length_visited_le _ 1
  | cycle =>
    rw [hidle rfl]
    exact Nat.zero_le _
  | keyDown | keyUp | setKeys => exact Nat.zero_le _
  | _ => exact hdebugs.elim

/-- While no cycle takes a step, single steps take all of them, and each takes at most one. -/
theorem length_executed_le (hdebugs : ∀ command ∈ commands, command.Debugs)
    (hidle : ∀ before later, commands = before ++ .cycle :: later →
      (machine.after before).steps .cycle = []) :
    (machine.executed commands).length ≤ commands.count .singleStep := by
  induction commands generalizing machine with
  | nil => exact Nat.le_refl 0
  | cons command commands ih =>
    obtain ⟨hcommand, hrest⟩ := List.forall_mem_cons.mp hdebugs
    have hfirst : command = .cycle → machine.steps .cycle = [] := by
      rintro rfl
      exact hidle [] commands rfl
    have hlater : ((machine.apply command).1.executed commands).length ≤
        commands.count .singleStep :=
      ih hrest fun before later hsplit => hidle (command :: before) later (by rw [hsplit]; rfl)
    calc
      (machine.executed (command :: commands)).length =
          (machine.steps command).length +
            ((machine.apply command).1.executed commands).length := List.length_append
      _ ≤ [command].count .singleStep + commands.count .singleStep :=
        Nat.add_le_add (length_steps_le hcommand hfirst) hlater
      _ = (command :: commands).count .singleStep := by
        rw [← List.count_append, List.singleton_append]

theorem steps_cycle_ne_nil (hspeed : 1 ≤ machine.config.speed)
    (hrunning : machine.mode = .running) : machine.steps .cycle ≠ [] := by
  obtain ⟨n, hn⟩ := Nat.exists_eq_succ_of_ne_zero
    (Nat.pos_iff_ne_zero.mp (UInt32.le_iff_toNat_le.mp hspeed))
  rw [steps, hn, visited_succ hrunning]
  exact List.cons_ne_nil _ _

theorem cycle_keeps_registers (hmode : machine.mode ≠ .running) :
    machine.steps .cycle = [] ∧ (machine.apply .cycle).1.registers = machine.registers := by
  refine ⟨visited_of_not_running hmode _, ?_⟩
  rw [apply, (cycle_of_not_running hmode).1]

/-- **How long a pause holds.** The user has paused a machine, and until it is resumed or loaded
anew there are only single steps, cycles and keys. Then no cycle takes a step or ticks a timer, and
no more steps are taken than single steps asked for, exactly if no cycle comes while the machine is
freed: after a release has ended a wait, and before a step fails or begins another wait. -/
theorem pause_holds_iff_not_freed (hreachable : machine.Reachable)
    (hpaused : machine.mode = .paused) (hdebugs : ∀ command ∈ commands, command.Debugs) :
    ((∀ before later, commands = before ++ .cycle :: later →
          let found := machine.after before
          found.steps .cycle = [] ∧ (found.apply .cycle).1.registers = found.registers) ∧
        (machine.executed commands).length ≤ commands.count .singleStep) ↔
      ∀ before later, commands = before ++ .cycle :: later → ¬machine.Freed before := by
  have hfound : ∀ before later, commands = before ++ .cycle :: later →
      ((machine.after before).mode = .running ↔ machine.Freed before) := by
    rintro before later rfl
    have hbefore : ∀ command ∈ before, command.Debugs := fun command hcommand =>
      hdebugs command (List.mem_append_left _ hcommand)
    simp [running_after_iff hreachable.latched hbefore, hpaused]
  constructor
  · rintro ⟨hidle, -⟩ before later hsplit hfreed
    have hrunning := (hfound before later hsplit).mpr hfreed
    exact steps_cycle_ne_nil (hreachable.after before).speed_pos hrunning
      (hidle before later hsplit).1
  · intro hheld
    have hidle : ∀ before later, commands = before ++ .cycle :: later →
        (machine.after before).mode ≠ .running := fun before later hsplit hrunning =>
      hheld before later hsplit ((hfound before later hsplit).mp hrunning)
    refine ⟨fun before later hsplit => cycle_keeps_registers (hidle before later hsplit), ?_⟩
    exact length_executed_le hdebugs fun before later hsplit =>
      (cycle_keeps_registers (hidle before later hsplit)).1

theorem not_freed_of_no_release (hnone : ∀ command ∈ commands, ¬command.IsRelease) :
    ¬machine.Freed commands := by
  rintro ⟨release, front, back, rfl, hends, -⟩
  exact hnone release (by simp) (isRelease_of_endsWait hends)

theorem mode_singleStep_of_awaitKey {x : Register} (hpaused : machine.mode = .paused)
    (hawaits : machine.resume.Performs (.awaitKey x)) :
    machine.singleStep.1.mode = .waiting x := by
  have hrunning : machine.resume.mode = .running := by rw [resume, if_pos hpaused]
  rw [singleStep, if_pos hpaused, step_of_execute_eq_ok hrunning hawaits rfl]
  rfl

/-- A single step begins a wait, and the next release of a key ends it. -/
theorem freed_of_awaitKey {x : Register} {key : UInt8} (hpaused : machine.mode = .paused)
    (hawaits : machine.resume.Performs (.awaitKey x)) (hkey : key < 16) :
    machine.Freed [.singleStep, .keyUp key] := by
  have hwaiting : machine.singleStep.1.isWaiting = true :=
    isWaiting_eq_true_iff.mpr ⟨x, mode_singleStep_of_awaitKey hpaused hawaits⟩
  exact ⟨.keyUp key, [.singleStep], [], rfl, ⟨hwaiting, key, .keyUp hkey⟩, by nofun⟩

/-- The cycle after that runs the program, though nobody has resumed the machine. -/
theorem runs_on_of_awaitKey {x : Register} {key : UInt8} (hreachable : machine.Reachable)
    (hpaused : machine.mode = .paused) (hawaits : machine.resume.Performs (.awaitKey x))
    (hkey : key < 16) :
    (machine.after [.singleStep, .keyUp key]).steps .cycle ≠ [] ∧
      1 < (machine.executed [.singleStep, .keyUp key, .cycle]).length := by
  have hrunning : (machine.after [.singleStep, .keyUp key]).mode = .running :=
    (running_after_iff hreachable.latched (by simp [Command.Debugs])).mpr
      (.inr (freed_of_awaitKey hpaused hawaits hkey))
  have hcycle : (machine.after [.singleStep, .keyUp key]).steps .cycle ≠ [] :=
    steps_cycle_ne_nil (hreachable.after _).speed_pos hrunning
  have hresumed : machine.resume.mode = .running := by rw [resume, if_pos hpaused]
  have hfirst : machine.steps .singleStep = [machine.resume] :=
    visited_succ_of_step hresumed (step_of_execute_eq_ok hresumed hawaits rfl) 0
  have hexecuted : machine.executed [.singleStep, .keyUp key, .cycle] =
      machine.steps .singleStep ++ ((machine.after [.singleStep, .keyUp key]).steps .cycle ++ []) :=
    rfl
  refine ⟨hcycle, ?_⟩
  rw [hexecuted, hfirst, List.append_nil, List.length_append, List.length_singleton]
  exact Nat.lt_add_of_pos_right (List.length_pos_iff.mpr hcycle)

theorem resume_pause (hrunning : machine.mode = .running) : machine.pause.resume = machine := by
  rw [pause, if_pos hrunning, resume, if_pos rfl, ← hrunning]

/-- Waits for a key for V0, and then counts in V1 for ever. -/
def keyCounter : List UInt8 := [0xF0, 0x0A, 0x71, 0x01, 0x12, 0x02]

def pausedBeforeWait : Machine :=
  (create .default (.ofList [])).after [.load keyCounter, .pause]

theorem pausedBeforeWait_awaits :
    pausedBeforeWait.mode = .paused ∧ pausedBeforeWait.resume.Performs (.awaitKey 0) := by
  have hfits : keyCounter.length ≤ 3584 := by decide
  obtain ⟨loaded, hload⟩ := (create .default (.ofList [])).exists_load hfits
  have hrunning := mode_of_load hload
  have hpaused : pausedBeforeWait = loaded.pause := by
    rw [pausedBeforeWait, after_cons, apply_load hload]
    rfl
  rw [hpaused, resume_pause hrunning]
  refine ⟨?_, 0xF00A, fetches_of_load hload (by decide), by decide⟩
  rw [pause, if_pos hrunning]

theorem pause_holds_through_wait :
    let commands : List Command := [.singleStep, .keyDown 5, .cycle, .singleStep]
    pausedBeforeWait.Reachable ∧ pausedBeforeWait.mode = .paused ∧
      (∀ command ∈ commands, command.Debugs) ∧
      (pausedBeforeWait.after [.singleStep, .keyDown 5]).steps .cycle = [] ∧
      (pausedBeforeWait.executed commands).length ≤ 2 := by
  intro commands
  have hreachable : pausedBeforeWait.Reachable := ⟨_, _, _, rfl⟩
  have hpaused := pausedBeforeWait_awaits.1
  have hdebugs : ∀ command ∈ commands, command.Debugs := by simp [commands, Command.Debugs]
  have hheld : ∀ before later, commands = before ++ .cycle :: later →
      ¬pausedBeforeWait.Freed before := by
    intro before later hsplit
    have hnone : ∀ command ∈ commands, ¬command.IsRelease := by
      simp [commands, Command.IsRelease]
    exact not_freed_of_no_release fun command hcommand =>
      hnone command (hsplit ▸ List.mem_append_left _ hcommand)
  obtain ⟨hidle, hcount⟩ := (pause_holds_iff_not_freed hreachable hpaused hdebugs).mpr hheld
  exact ⟨hreachable, hpaused, hdebugs, (hidle [.singleStep, .keyDown 5] [.singleStep] rfl).1,
    hcount⟩

theorem released_wait_runs_on :
    let commands : List Command := [.singleStep, .keyUp 0, .cycle]
    pausedBeforeWait.Reachable ∧ pausedBeforeWait.mode = .paused ∧
      (∀ command ∈ commands, command.Debugs) ∧
      (pausedBeforeWait.after [.singleStep, .keyUp 0]).steps .cycle ≠ [] ∧
      commands.count .singleStep < (pausedBeforeWait.executed commands).length := by
  intro commands
  obtain ⟨hpaused, hawaits⟩ := pausedBeforeWait_awaits
  have hreachable : pausedBeforeWait.Reachable := ⟨_, _, _, rfl⟩
  have hkey : (0 : UInt8) < 16 := by decide
  exact ⟨hreachable, hpaused, by simp [commands, Command.Debugs],
    runs_on_of_awaitKey hreachable hpaused hawaits hkey⟩

end Machine

end Chip8
