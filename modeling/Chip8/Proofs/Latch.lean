import Chip8.Proofs.Load
import Chip8.Proofs.Run

/-!
# The latch of the keypad and the wait of the machine

The keypad's latch and the machine's mode both record that a key is being waited for. Every command
keeps the two in agreement, so they agree in every reachable machine.
-/

namespace Chip8

namespace Keypad

variable {keypad : Keypad} {key fired : UInt8} {keys : Vector Bool 16}

theorem armed_release_of_none (hnone : (keypad.release key).2 = none) :
    (keypad.release key).1.armed = keypad.armed := by
  unfold release at hnone ⊢
  split
  · rename_i hkey
    cases harmed : keypad.armed with
    | false => rfl
    | true => simp [hkey, harmed] at hnone
  · rfl

theorem armed_of_release_eq_some (hsome : (keypad.release key).2 = some fired) :
    keypad.armed = true := by
  unfold release at hsome
  split at hsome
  · cases harmed : keypad.armed with
    | false => simp [harmed] at hsome
    | true => rfl
  · contradiction

theorem armed_update_of_none (hnone : (keypad.update keys).2 = none) :
    (keypad.update keys).1.armed = keypad.armed := by
  unfold update at hnone ⊢
  cases hfirst : keypad.firstReleased? keys with
  | none => rfl
  | some first =>
    cases harmed : keypad.armed with
    | false => rfl
    | true => simp [hfirst, harmed] at hnone

theorem armed_of_update_eq_some (hsome : (keypad.update keys).2 = some fired) :
    keypad.armed = true := by
  unfold update at hsome
  cases hfirst : keypad.firstReleased? keys with
  | none => simp [hfirst] at hsome
  | some first =>
    cases harmed : keypad.armed with
    | false => simp [hfirst, harmed] at hsome
    | true => rfl

end Keypad

namespace Machine

/-- The latch is armed during a wait and at no other time. -/
def Latched (machine : Machine) : Prop := machine.keypad.armed = machine.isWaiting

variable {machine : Machine}

theorem isWaiting_eq_true_iff :
    machine.isWaiting = true ↔ ∃ register, machine.mode = .waiting register := by
  unfold isWaiting
  cases machine.mode <;> simp

theorem latched_create (config : Config) (random : RandomSource) :
    (create config random).Latched := rfl

theorem latched_reset (machine : Machine) : machine.reset.Latched := rfl

theorem Latched.pause (hlatched : machine.Latched) : machine.pause.Latched := by
  unfold Machine.pause
  split
  · rename_i hrunning
    simpa [Latched, isWaiting, hrunning] using hlatched
  · exact hlatched

theorem Latched.resume (hlatched : machine.Latched) : machine.resume.Latched := by
  unfold Machine.resume
  split
  · rename_i hpaused
    simpa [Latched, isWaiting, hpaused] using hlatched
  · exact hlatched

theorem Latched.togglePause (hlatched : machine.Latched) : machine.togglePause.Latched := by
  unfold Machine.togglePause
  split
  · exact hlatched.pause
  · exact hlatched.resume

theorem Latched.giveKey (hlatched : machine.Latched) (key : UInt8) :
    (machine.giveKey key).Latched := by
  unfold Machine.giveKey
  split
  · rfl
  · exact hlatched

/-- An event that does not fire the latch leaves it, and one that does finds the machine
waiting. -/
theorem Latched.withKeypad (hlatched : machine.Latched) {event : Keypad × Option UInt8}
    (hnone : event.2 = none → event.1.armed = machine.keypad.armed)
    (hsome : ∀ key, event.2 = some key → machine.keypad.armed = true) :
    (machine.withKeypad event).Latched := by
  obtain ⟨keypad, fired⟩ := event
  cases fired with
  | none => exact (hnone rfl).trans hlatched
  | some key =>
    have hwaiting := hlatched.symm.trans (hsome key rfl)
    obtain ⟨register, hmode⟩ := isWaiting_eq_true_iff.mp hwaiting
    unfold Machine.withKeypad Machine.giveKey
    simp only [hmode]
    rfl

theorem Latched.keyUp (hlatched : machine.Latched) (key : UInt8) : (machine.keyUp key).Latched :=
  hlatched.withKeypad Keypad.armed_release_of_none fun _ => Keypad.armed_of_release_eq_some

theorem Latched.setKeys (hlatched : machine.Latched) (keys : Vector Bool 16) :
    (machine.setKeys keys).Latched :=
  hlatched.withKeypad Keypad.armed_update_of_none fun _ => Keypad.armed_of_update_eq_some

theorem Latched.step (hlatched : machine.Latched) : machine.step.1.Latched := by
  by_cases hrunning : machine.mode = .running
  · have hunarmed : machine.keypad.armed = false := by
      simpa [Latched, isWaiting, hrunning] using hlatched
    obtain ⟨registers, fault, hstep⟩ | ⟨x, -, hstep⟩ |
      ⟨-, memory, registers, screen, random, hstep⟩ := step_cases hrunning
    · rw [hstep]
      exact hunarmed
    · rw [hstep]
      rfl
    · rw [hstep]
      exact hlatched
  · rwa [Machine.step, if_neg hrunning]

theorem Latched.singleStep (hlatched : machine.Latched) : machine.singleStep.1.Latched := by
  unfold Machine.singleStep
  split
  · exact hlatched.resume.step.pause
  · exact hlatched.step

theorem Latched.run (hlatched : machine.Latched) (n : Nat) : (machine.run n).1.Latched :=
  run_induction Latched (fun _ => True) (fun _ _ _ hlatched => hlatched.step) (fun _ _ => trivial)
    hlatched

theorem Latched.tick (hlatched : machine.Latched) : machine.tick.Latched := by
  unfold Machine.tick
  split <;> exact hlatched

theorem Latched.cycle (hlatched : machine.Latched) : machine.cycle.1.Latched :=
  (hlatched.run _).tick

theorem Latched.load (hlatched : machine.Latched) (program : List UInt8) :
    (machine.apply (.load program)).1.Latched := by
  obtain ⟨loaded, hload, happly⟩ | ⟨fault, happly⟩ := machine.apply_load_cases program
  · rw [happly, load_eq_ok hload]
    rfl
  · rwa [happly]

theorem Latched.apply (hlatched : machine.Latched) (command : Command) :
    (machine.apply command).1.Latched := by
  cases command with
  | load program => exact hlatched.load program
  | reset => exact machine.latched_reset
  | step => exact hlatched.step
  | singleStep => exact hlatched.singleStep
  | cycle => exact hlatched.cycle
  | pause => exact hlatched.pause
  | resume => exact hlatched.resume
  | togglePause => exact hlatched.togglePause
  | keyUp key => exact hlatched.keyUp key
  | setKeys keys => exact hlatched.setKeys keys
  | giveKey key => exact hlatched.giveKey key
  | _ => exact hlatched

theorem Latched.after (hlatched : machine.Latched) (commands : List Command) :
    (machine.after commands).Latched :=
  after_induction (fun _ command hlatched => hlatched.apply command) hlatched commands

theorem Reachable.latched (hreachable : machine.Reachable) : machine.Latched :=
  hreachable.induction latched_create fun _ command hlatched => hlatched.apply command

/-- **Latch and wait agree.** After any commands to a new machine its latch is armed exactly when
it waits for a key, and the register that it waits for exists. -/
theorem armed_after_iff_waiting (config : Config) (random : RandomSource)
    (commands : List Command) :
    let machine := (create config random).after commands
    (machine.keypad.armed = true ↔ ∃ register, machine.mode = .waiting register) ∧
      ∀ register, machine.mode = .waiting register → register.val < 16 := by
  intro machine
  have hlatched : machine.Latched := Reachable.latched ⟨config, random, commands, rfl⟩
  constructor
  · rw [hlatched, isWaiting_eq_true_iff]
  · exact fun register _ => register.isLt

end Machine

end Chip8
