import Chip8.Proofs.Cycle
import Chip8.Proofs.Executed

/-!
# What halts a machine

Only a step that fails halts a machine, and nothing but a reset or a program gets it out of that. As
a halted machine takes no step, no two of them fail before it is restarted.
-/

namespace Chip8

/-- The commands that take steps. -/
def Command.Runs : Command → Prop
  | .step | .singleStep | .cycle => True
  | _ => False

namespace Machine

variable {machine : Machine} {command : Command} {commands : List Command}

theorem pause_halted_iff : machine.pause.mode = .halted ↔ machine.mode = .halted := by
  unfold pause
  split
  · rename_i hrunning
    simp [hrunning]
  · rfl

theorem resume_halted_iff : machine.resume.mode = .halted ↔ machine.mode = .halted := by
  unfold resume
  split
  · rename_i hpaused
    simp [hpaused]
  · rfl

theorem togglePause_halted_iff : machine.togglePause.mode = .halted ↔ machine.mode = .halted := by
  unfold togglePause
  split
  · exact pause_halted_iff
  · exact resume_halted_iff

theorem giveKey_halted_iff {key : UInt8} :
    (machine.giveKey key).mode = .halted ↔ machine.mode = .halted := by
  unfold giveKey
  split
  · rename_i register hwaiting
    simp [hwaiting]
  · rfl

theorem withKeypad_halted_iff {event : Keypad × Option UInt8} :
    (machine.withKeypad event).mode = .halted ↔ machine.mode = .halted := by
  obtain ⟨keypad, fired⟩ := event
  cases fired with
  | none => rfl
  | some key => exact giveKey_halted_iff

theorem step_halted_iff :
    machine.step.1.mode = .halted ↔ machine.mode = .halted ∨ machine.step.2 ≠ none := by
  by_cases hrunning : machine.mode = .running
  · obtain ⟨registers, fault, hstep⟩ | ⟨x, -, hstep⟩ |
        ⟨-, memory, registers, screen, random, hstep⟩ := step_cases hrunning
    · simp [hstep]
    · simp [hstep, hrunning]
    · simp [hstep, hrunning]
  · simp [step_of_not_running hrunning]

theorem singleStep_halted_iff :
    machine.singleStep.1.mode = .halted ↔ machine.mode = .halted ∨ machine.singleStep.2 ≠ none := by
  unfold singleStep
  split
  · rename_i hpaused
    have hresume : machine.resume.mode = .halted ↔ machine.mode = .halted := resume_halted_iff
    rw [← hresume, ← step_halted_iff]
    exact pause_halted_iff
  · exact step_halted_iff

theorem run_halted_iff {n : Nat} :
    (machine.run n).1.mode = .halted ↔ machine.mode = .halted ∨ (machine.run n).2 ≠ none := by
  induction n generalizing machine with
  | zero => simp [run]
  | succ n ih =>
    rw [run_succ, ih, step_halted_iff, or_assoc]
    simp only [ne_eq, Option.or_eq_none_iff, Classical.not_and_iff_not_or_not]

theorem tick_halted_iff : machine.tick.mode = .halted ↔ machine.mode = .halted := by
  unfold tick
  split <;> rfl

theorem cycle_halted_iff :
    machine.cycle.1.mode = .halted ↔ machine.mode = .halted ∨ machine.cycle.2.1 ≠ none :=
  tick_halted_iff.trans run_halted_iff

/-- Only running reports a fault other than a program that is too long. -/
theorem runs_of_fault {fault : Fault} (hfault : (machine.apply command).2.fault = some fault)
    (hother : ∀ length, fault ≠ .programTooLarge length) : command.Runs := by
  cases command with
  | step | singleStep | cycle => trivial
  | load program =>
    by_cases hfits : program.length ≤ 3584
    · rw [apply_load (load_of_le hfits)] at hfault
      contradiction
    · rw [apply, load_of_gt (Nat.lt_of_not_le hfits)] at hfault
      exact absurd (Option.some.inj hfault).symm (hother program.length)
  | _ => contradiction

theorem halted_apply_iff_of_runs (hruns : command.Runs) :
    (machine.apply command).1.mode = .halted ↔
      machine.mode = .halted ∨ (machine.apply command).2.fault ≠ none := by
  cases command with
  | step => exact step_halted_iff
  | singleStep => exact singleStep_halted_iff
  | cycle => exact cycle_halted_iff
  | _ => exact hruns.elim

theorem no_fault_of_halted (hruns : command.Runs) (hhalted : machine.mode = .halted) :
    (machine.apply command).2.fault = none := by
  have hrunning : machine.mode ≠ .running := by simp [hhalted]
  cases command with
  | step => exact congrArg Prod.snd (step_of_not_running hrunning)
  | singleStep =>
    simp only [apply, singleStep, hhalted, reduceCtorEq, if_false, step_of_not_running hrunning]
  | cycle => exact (cycle_of_not_running hrunning).2
  | _ => exact hruns.elim

theorem halted_apply (hhalted : machine.mode = .halted) (hkept : ¬command.Restarts) :
    (machine.apply command).1.mode = .halted := by
  cases command with
  | reset => exact absurd trivial hkept
  | load program =>
    simp only [apply, load_of_gt (Nat.lt_of_not_le hkept)]
    exact hhalted
  | step => exact step_halted_iff.mpr (.inl hhalted)
  | singleStep => exact singleStep_halted_iff.mpr (.inl hhalted)
  | cycle => exact cycle_halted_iff.mpr (.inl hhalted)
  | pause => exact pause_halted_iff.mpr hhalted
  | resume => exact resume_halted_iff.mpr hhalted
  | togglePause => exact togglePause_halted_iff.mpr hhalted
  | keyUp key => exact withKeypad_halted_iff.mpr hhalted
  | setKeys keys => exact withKeypad_halted_iff.mpr hhalted
  | giveKey key => exact giveKey_halted_iff.mpr hhalted
  | _ => exact hhalted

/-- What fails halts, and what is halted does not fail again before it is restarted. -/
theorem count_fault_le {fault : Fault} (hkept : ∀ command ∈ commands, ¬command.Restarts)
    (hother : ∀ length, fault ≠ .programTooLarge length) :
    ((machine.replies commands).map Reply.fault).count (some fault) ≤
      if machine.mode = .halted then 0 else 1 := by
  induction commands generalizing machine with
  | nil => exact Nat.zero_le _
  | cons command rest ih =>
    obtain ⟨hcommand, hrest⟩ := List.forall_mem_cons.mp hkept
    have hlater := @ih (machine.apply command).1 hrest
    rw [replies, List.map_cons, List.count_cons]
    -- A fault here means that the machine was not halted before, and that it is from now on.
    by_cases hfault : (machine.apply command).2.fault = some fault
    · have hruns : command.Runs := runs_of_fault hfault hother
      have hstopped : (machine.apply command).1.mode = .halted :=
        (halted_apply_iff_of_runs hruns).mpr (.inr (by simp [hfault]))
      have hactive : machine.mode ≠ .halted := fun hhalted => by
        simp [no_fault_of_halted hruns hhalted] at hfault
      rw [if_pos hstopped] at hlater
      rw [if_neg hactive, hfault, beq_self_eq_true, if_pos rfl]
      omega
    · rw [if_neg (by simpa using hfault), Nat.add_zero]
      refine hlater.trans ?_
      by_cases hhalted : machine.mode = .halted
      · rw [if_pos hhalted, if_pos (halted_apply hhalted hcommand)]
      · rw [if_neg hhalted]
        split <;> decide

end Machine

end Chip8
