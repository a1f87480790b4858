import Chip8.Machine.Basic

/-!
# Events from outside

Pausing, resuming and the keys of the pad reach into a machine only so far: they change its mode,
its keypad and, with a key that is waited for, one of the registers V0 to VF.
-/

namespace Chip8

namespace Machine

/-- The next machine differs in no more than an event from outside can change. -/
def Touched (machine next : Machine) : Prop :=
  ∃ v keypad mode,
    next = { machine with registers := { machine.registers with v }, keypad, mode }

theorem touched_pause (machine : Machine) : machine.Touched machine.pause := by
  unfold pause
  split <;> exact ⟨_, _, _, rfl⟩

theorem touched_resume (machine : Machine) : machine.Touched machine.resume := by
  unfold resume
  split <;> exact ⟨_, _, _, rfl⟩

theorem touched_togglePause (machine : Machine) : machine.Touched machine.togglePause := by
  unfold togglePause
  split
  · exact machine.touched_pause
  · exact machine.touched_resume

theorem touched_keyDown (machine : Machine) (key : UInt8) :
    machine.Touched (machine.keyDown key) := ⟨_, _, _, rfl⟩

theorem touched_giveKey (machine : Machine) (key : UInt8) :
    machine.Touched (machine.giveKey key) := by
  unfold giveKey
  split <;> exact ⟨_, _, _, rfl⟩

theorem touched_withKeypad (machine : Machine) (event : Keypad × Option UInt8) :
    machine.Touched (machine.withKeypad event) := by
  obtain ⟨keypad, fired⟩ := event
  cases fired with
  | none => exact ⟨_, _, _, rfl⟩
  | some key =>
    obtain ⟨v, disarmed, mode, hgiven⟩ := touched_giveKey { machine with keypad } key
    exact ⟨v, disarmed, mode, hgiven⟩

variable {machine next : Machine}

theorem resume_of_not_paused (hmode : machine.mode ≠ .paused) : machine.resume = machine :=
  if_neg hmode

theorem giveKey_of_not_waiting (hwaiting : machine.isWaiting = false) (key : UInt8) :
    machine.giveKey key = machine := by
  unfold giveKey
  split
  · rename_i register hmode
    simp [isWaiting, hmode] at hwaiting
  · rfl

/-- Without a wait a key event changes the keypad alone, whether it fires the latch or not. -/
theorem withKeypad_of_not_waiting (hwaiting : machine.isWaiting = false)
    (event : Keypad × Option UInt8) :
    machine.withKeypad event = { machine with keypad := event.1 } := by
  obtain ⟨keypad, fired⟩ := event
  cases fired with
  | none => rfl
  | some key =>
    have hkeypad : { machine with keypad }.isWaiting = false := hwaiting
    exact giveKey_of_not_waiting hkeypad key

theorem Touched.config (htouched : machine.Touched next) : next.config = machine.config := by
  obtain ⟨v, keypad, mode, rfl⟩ := htouched
  rfl

theorem Touched.screen (htouched : machine.Touched next) : next.screen = machine.screen := by
  obtain ⟨v, keypad, mode, rfl⟩ := htouched
  rfl

theorem Touched.random (htouched : machine.Touched next) : next.random = machine.random := by
  obtain ⟨v, keypad, mode, rfl⟩ := htouched
  rfl

end Machine

end Chip8
