import Chip8.Proofs.Executed
import Chip8.Proofs.KeyWait

/-!
# A halted machine

Until a reset or a program that fits, a halted machine stays as it is, whatever else it is asked to
do: only its keypad, its configuration and the mark on its picture change. Its cycles are silent,
and the first of them still shows a picture that had not been taken.
-/

namespace Chip8

/-- The commands that use the screen without the machine. -/
def Command.UsesScreen : Command → Prop
  | .takeDirty | .togglePixel _ _ | .clearScreen => True
  | _ => False

namespace Machine

/-- What a cycle of a halted machine reports after some commands: silence, and the picture if it is
dirty and no cycle has come before. -/
def haltedNotices (machine : Machine) (before : List Command) : List Notice :=
  .sound false ::
    if machine.screen.dirty = true ∧ .cycle ∉ before then [.frame machine.screen.markClean] else []

/-- What a halted machine replies after some commands. Programs that do not fit and keys are
refused. -/
def haltedReply (machine : Machine) (before : List Command) : Command → Reply
  | .load program => { fault := some (.programTooLarge program.length) }
  | .giveKey _ => { answer := some false }
  | .cycle => { notices := machine.haltedNotices before }
  | _ => {}

theorem haltedReply_cycle (machine : Machine) (before : List Command) :
    machine.haltedReply before .cycle = { notices := machine.haltedNotices before } := rfl

variable {machine : Machine} {command : Command} {commands : List Command}

section Halted

variable (hhalted : machine.mode = .halted)
include hhalted

theorem cycle_of_halted :
    machine.apply .cycle =
      ({ machine with screen := machine.screen.markClean }, machine.haltedReply [] .cycle) := by
  have hrunning : machine.mode ≠ .running := by simp [hhalted]
  have hsilent : machine.sounds = false := by simp [sounds, hhalted]
  simp only [apply, cycle, run_of_not_running hrunning, tick_of_not_running hrunning, takeDirty,
    hsilent, haltedReply_cycle, haltedNotices, List.not_mem_nil, not_false_eq_true, and_true]
  rfl

theorem apply_of_halted (hcycle : command ≠ .cycle) (hrestarts : ¬command.Restarts)
    (hscreen : ¬command.UsesScreen) :
    ∃ keypad config,
      machine.apply command =
        ({ machine with keypad, config }, machine.haltedReply [] command) := by
  have hrunning : machine.mode ≠ .running := by simp [hhalted]
  have hpaused : machine.mode ≠ .paused := by simp [hhalted]
  have hwaiting : machine.isWaiting = false := by simp [isWaiting, hhalted]
  have hresume := resume_of_not_paused hpaused
  cases command with
  | load program =>
    simp only [apply, load_of_gt (Nat.lt_of_not_le hrestarts)]
    exact ⟨_, _, rfl⟩
  | reset => exact absurd trivial hrestarts
  | step =>
    simp only [apply, step_of_not_running hrunning]
    exact ⟨_, _, rfl⟩
  | singleStep =>
    simp only [apply, singleStep, if_neg hpaused, step_of_not_running hrunning]
    exact ⟨_, _, rfl⟩
  | cycle => exact absurd rfl hcycle
  | pause =>
    simp only [apply, pause, if_neg hrunning]
    exact ⟨_, _, rfl⟩
  | resume =>
    simp only [apply, hresume]
    exact ⟨_, _, rfl⟩
  | togglePause =>
    simp only [apply, togglePause, if_neg hrunning, hresume]
    exact ⟨_, _, rfl⟩
  | keyUp key =>
    simp only [apply, keyUp, withKeypad_of_not_waiting hwaiting]
    exact ⟨_, _, rfl⟩
  | setKeys keys =>
    simp only [apply, setKeys, withKeypad_of_not_waiting hwaiting]
    exact ⟨_, _, rfl⟩
  | giveKey key =>
    simp only [apply, giveKey_of_not_waiting hwaiting, hwaiting]
    exact ⟨_, _, rfl⟩
  | takeDirty | togglePixel | clearScreen => exact absurd trivial hscreen
  | _ => exact ⟨_, _, rfl⟩

end Halted

theorem after_of_halted (hhalted : machine.mode = .halted)
    (hrestarts : ∀ command ∈ commands, ¬command.Restarts)
    (hscreen : ∀ command ∈ commands, ¬command.UsesScreen) :
    ∃ keypad config,
      machine.after commands =
        { machine with
          keypad, config
          screen := if .cycle ∈ commands then machine.screen.markClean else machine.screen } := by
  induction commands generalizing machine with
  | nil => exact ⟨machine.keypad, machine.config, by simp [after]⟩
  | cons command rest ih =>
    obtain ⟨hrestart, hkept⟩ := List.forall_mem_cons.mp hrestarts
    obtain ⟨huse, hunused⟩ := List.forall_mem_cons.mp hscreen
    rw [after_cons]
    by_cases hcycle : command = .cycle
    · subst hcycle
      rw [cycle_of_halted hhalted]
      have hnext : { machine with screen := machine.screen.markClean }.mode = .halted := hhalted
      obtain ⟨keypad, config, hafter⟩ := ih hnext hkept hunused
      refine ⟨keypad, config, ?_⟩
      rw [hafter, if_pos List.mem_cons_self]
      split <;> rfl
    · obtain ⟨pressed, configured, happly⟩ := apply_of_halted hhalted hcycle hrestart huse
      rw [happly]
      have hnext : { machine with keypad := pressed, config := configured }.mode = .halted :=
        hhalted
      obtain ⟨keypad, config, hafter⟩ := ih hnext hkept hunused
      refine ⟨keypad, config, ?_⟩
      rw [hafter]
      simp [Ne.symm hcycle]

/-- **Halting is final.** Until a reset or a program that fits, and as long as nobody draws on its
screen, a halted machine stays halted with its memory, its registers and its picture. Steps and
cycles succeed without effect, and every cycle is silent. -/
theorem halted_until_restart (hhalted : machine.mode = .halted)
    (hrestarts : ∀ command ∈ commands, ¬command.Restarts)
    (hscreen : ∀ command ∈ commands, ¬command.UsesScreen) :
    let last := machine.after commands
    last.mode = .halted ∧ last.memory = machine.memory ∧ last.registers = machine.registers ∧
      last.screen.pixels = machine.screen.pixels ∧ last.random = machine.random ∧
      ∀ before command later, commands = before ++ command :: later →
        ((machine.after before).apply command).2 = machine.haltedReply before command := by
  intro last
  obtain ⟨keypad, config, hlast⟩ := after_of_halted hhalted hrestarts hscreen
  have hlast : last = _ := hlast
  refine ⟨?_, ?_, ?_, ?_, ?_, ?_⟩
  · rw [hlast]
    exact hhalted
  · rw [hlast]
  · rw [hlast]
  · rw [hlast]
    dsimp only
    split <;> rfl
  · rw [hlast]
  · rintro before command later rfl
    have hcommand : command ∈ before ++ command :: later := by simp
    obtain ⟨keypad, config, hbefore⟩ := after_of_halted hhalted
      (fun c hc => hrestarts c (List.mem_append_left _ hc))
      (fun c hc => hscreen c (List.mem_append_left _ hc))
    have hfound : (machine.after before).mode = .halted := by rw [hbefore]; exact hhalted
    by_cases hcycle : command = .cycle
    · subst hcycle
      rw [cycle_of_halted hfound, hbefore]
      by_cases htaken : .cycle ∈ before <;>
        simp [haltedReply_cycle, haltedNotices, htaken, Screen.markClean]
    · obtain ⟨_, _, happly⟩ :=
        apply_of_halted hfound hcycle (hrestarts _ hcommand) (hscreen _ hcommand)
      rw [happly]
      cases command with
      | cycle => exact absurd rfl hcycle
      | _ => rfl

/-- Begins with a word that is no instruction. -/
def illegal : List UInt8 := [0x00, 0x00]

theorem load_illegal :
    (create .default (.ofList [])).load illegal = .ok () (boot .default illegal) :=
  load_boot (by decide)

/-- The machine that its first step has halted. -/
def haltedAtOnce : Machine := (boot .default illegal).after [.step]

theorem haltedAtOnce_eq : haltedAtOnce = (boot .default illegal).advance.halt := by
  have hword : (boot .default illegal).Fetches 0x0000 := fetches_of_load load_illegal (by decide)
  have hunknown : ∀ entry ∈ table, entry.accepts 0x0000 = false :=
    decode_eq_none_iff.mp (by decide)
  have hafter (machine : Machine) : machine.after [.step] = machine.step.1 := rfl
  rw [haltedAtOnce, hafter, step_of_unknown (mode_of_load load_illegal) hword hunknown]

theorem haltedAtOnce_halted : haltedAtOnce.mode = .halted ∧ haltedAtOnce.screen.dirty = true := by
  have hscreen := screen_of_load load_illegal
  rw [haltedAtOnce_eq]
  exact ⟨rfl, congrArg Screen.dirty hscreen⟩

theorem haltedAtOnce_frozen :
    let before : List Command := [.resume, .cycle, .keyUp 3, .singleStep]
    let commands := before ++ .cycle :: [.giveKey 7]
    haltedAtOnce.Reachable ∧ haltedAtOnce.mode = .halted ∧
      (∀ command ∈ commands, ¬command.Restarts) ∧ (∀ command ∈ commands, ¬command.UsesScreen) ∧
      (haltedAtOnce.after commands).mode = .halted ∧
      (haltedAtOnce.after commands).registers = haltedAtOnce.registers ∧
      ((haltedAtOnce.after [.resume]).apply .cycle).2.notices =
        [.sound false, .frame haltedAtOnce.screen.markClean] ∧
      ((haltedAtOnce.after before).apply .cycle).2.notices = [.sound false] := by
  intro before commands
  obtain ⟨hhalted, hdirty⟩ := haltedAtOnce_halted
  have hreachable : haltedAtOnce.Reachable := Reachable.after ⟨_, _, _, rfl⟩ _
  have hrestarts : ∀ command ∈ commands, ¬command.Restarts := by
    simp [commands, before, Command.Restarts]
  have hscreen : ∀ command ∈ commands, ¬command.UsesScreen := by
    simp [commands, before, Command.UsesScreen]
  obtain ⟨hmode, -, hregisters, -, -, hreplies⟩ :=
    halted_until_restart hhalted hrestarts hscreen
  refine ⟨hreachable, hhalted, hrestarts, hscreen, hmode, hregisters, ?_, ?_⟩
  · rw [hreplies [.resume] .cycle [.keyUp 3, .singleStep, .cycle, .giveKey 7] rfl]
    simp [haltedReply_cycle, haltedNotices, hdirty]
  · rw [hreplies before .cycle [.giveKey 7] rfl]
    simp [haltedReply_cycle, haltedNotices, before]

end Machine

end Chip8
