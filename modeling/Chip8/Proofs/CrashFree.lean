import Chip8.Proofs.Bounds
import Chip8.Proofs.Guard.Command

/-!
# No program crashes the machine

The guards hold in every machine that commands lead to, and so none of what the machine can be
asked for next crashes: no command, and no question about its instruction, its stack, its screen or
its memory.
-/

namespace Chip8

open Guarded (settled)

namespace Machine

def guardedCurrent? (machine : Machine) : Option (Option Decoded) :=
  match machine.guardedFetch with
  | .crash => none
  | .fail _ => some none
  | .ok word => some (decode word)

theorem guardedCurrent?_eq (machine : Machine) :
    machine.guardedCurrent? = some machine.current? := by
  rw [guardedCurrent?, guardedFetch_eq, current?]
  cases machine.fetch <;> rfl

theorem entry_mem_table_of_current? {machine : Machine} {decoded : Decoded}
    (hcurrent : machine.current? = some decoded) : decoded.entry ∈ table := by
  obtain ⟨word, -, hdecode⟩ := Option.bind_eq_some_iff.mp hcurrent
  exact (decode_eq_some_iff.mp hdecode).1

/-- Everything that the machine can be asked for does with guards what it does without them. -/
structure CrashFree (machine : Machine) : Prop where
  apply : ∀ command, machine.guardedApply command = some (machine.apply command)
  current : machine.guardedCurrent? = some machine.current?
  arguments : ∀ decoded, machine.current? = some decoded →
    decoded.guardedArguments = some decoded.arguments
  text : ∀ decoded, machine.current? = some decoded → decoded.guardedText = some decoded.text
  live : machine.registers.stack.guardedLive = some machine.registers.stack.live
  isLit : ∀ x y, machine.screen.guardedIsLit x y = some (machine.screen.isLit x y)
  get : ∀ address, machine.memory.guardedGet address = settled (machine.memory.get address)
  fetch : ∀ address, machine.memory.guardedFetch address = settled (machine.memory.fetch address)
  slice : ∀ address length,
    machine.memory.guardedSlice address length = settled (machine.memory.slice address length)

theorem crashFree (machine : Machine) : machine.CrashFree where
  apply := machine.guardedApply_eq
  current := machine.guardedCurrent?_eq
  arguments _ hcurrent := Decoded.guardedArguments_eq (entry_mem_table_of_current? hcurrent)
  text _ hcurrent := Decoded.guardedText_eq (entry_mem_table_of_current? hcurrent)
  live := machine.registers.stack.guardedLive_eq
  isLit := machine.screen.guardedIsLit_eq
  get := machine.memory.guardedGet_eq
  fetch := machine.memory.guardedFetch_eq
  slice := machine.memory.guardedSlice_eq

/-- **No crash.** Whatever programs and other commands a new machine is given, it gets through all
of them with every guard in place, it stays within bounds, and whatever comes next does not crash
it either. -/
theorem no_command_crashes (config : Config) (random : RandomSource) (commands : List Command) :
    (do (← guardedCreate config random).guardedAfter commands) =
        some ((create config random).after commands) ∧
      ((create config random).after commands).Bounded ∧
      ((create config random).after commands).CrashFree := by
  refine ⟨?_, bounded_after config random commands, crashFree _⟩
  rw [guardedCreate_eq]
  exact guardedAfter_eq (create config random) commands

end Machine

end Chip8
