import Chip8.Proofs.Run
import Chip8.Proofs.Touched
import Mathlib.Algebra.Group.Nat.Defs

/-!
# Control flow

The control state of a machine is its program counter and its call stack. Jumps, calls, returns and
skips are the instructions that move it, and the live return addresses only ever change at their
end: a call appends one, a return takes the last one off.
-/

namespace Chip8

namespace CallStack

variable {stack next : CallStack} {address : UInt16}

theorem length_live (stack : CallStack) : stack.live.length = stack.depth := by
  rw [live, List.length_take, Vector.length_toList, Nat.min_eq_left stack.depth_le]

theorem live_empty : empty.live = [] := rfl

theorem live_push (hpush : stack.push address = .ok () next) :
    next.live = stack.live ++ [address] := by
  rw [push_eq] at hpush
  split at hpush
  · obtain rfl := Call.eq_of_ok hpush
    rename_i hroom
    rw [live, live, List.take_add_one, Vector.toList_set, List.take_set_of_le (Nat.le_refl _),
      List.getElem?_set_self (by rwa [Vector.length_toList])]
    rfl
  · contradiction

theorem live_pop (hpop : stack.pop = .ok address next) :
    stack.live = next.live ++ [address] := by
  rw [pop_eq] at hpop
  split at hpop
  · obtain ⟨rfl, rfl⟩ := EStateM.Result.ok.inj hpop
    rename_i hlive
    have hdepth := stack.depth_le
    have hlast : stack.depth - 1 < stack.cells.toList.length := by
      rw [Vector.length_toList]
      omega
    have hsplit := List.take_append_getElem hlast
    rw [Nat.sub_add_cancel hlive, Vector.getElem_toList] at hsplit
    exact hsplit.symm
  · contradiction

end CallStack

namespace Machine

/-- The program counter and the call stack. -/
def control (machine : Machine) : UInt16 × CallStack :=
  (machine.registers.pc, machine.registers.stack)

/-- The control state that an instruction leads to, from a program counter past it already. -/
def Moves (machine : Machine) (control : UInt16 × CallStack) : Instruction → Prop
  | .ret => machine.registers.stack.pop = .ok control.1 control.2
  | .jump target => control = (UInt16.ofNat target, machine.registers.stack)
  | .call target =>
    ∃ stack, machine.registers.stack.push machine.registers.pc = .ok () stack ∧
      control = (UInt16.ofNat target, stack)
  | .jumpOffset base =>
    control =
      (UInt16.ofNat base + (machine.registers.read .v0).toUInt16, machine.registers.stack)
  | .skip condition =>
    control = if machine.holds condition then machine.advance.control else machine.control
  | _ => control = machine.control

section Execute

variable {machine next : Machine} {instruction : Instruction}

theorem control_writeResult (machine : Machine) (x : Register) (value : UInt8)
    (flag : Option UInt8) :
    (machine.withRegisters (machine.registers.writeResult x value flag)).control =
      machine.control := by
  cases flag <;> rfl

theorem moves_of_execute (hnext : machine.execute instruction = .ok () next) :
    machine.Moves next.control instruction := by
  cases instruction with
  | ret =>
    obtain ⟨target, stack, hpop, rfl⟩ := eq_of_execute_ret hnext
    exact hpop
  | call target =>
    obtain ⟨stack, hpush, rfl⟩ := eq_of_execute_call hnext
    exact ⟨stack, hpush, rfl⟩
  | skip condition =>
    obtain rfl := eq_of_execute_skip hnext
    rw [Moves]
    split <;> rfl
  | arithmetic op x y =>
    obtain rfl := Call.eq_of_ok hnext
    exact control_writeResult machine x _ _
  | draw x y rows =>
    obtain ⟨sprite, -, rfl⟩ := eq_of_draw hnext
    rfl
  | storeDecimal x =>
    obtain rfl := eq_of_execute_storeDecimal hnext
    rfl
  | storeRegisters x =>
    obtain rfl := eq_of_execute_storeRegisters hnext
    rfl
  | loadRegisters x =>
    obtain ⟨bytes, -, rfl⟩ := eq_of_execute_loadRegisters hnext
    rfl
  | _ =>
    obtain rfl := Call.eq_of_ok hnext
    rfl

end Execute

variable {machine : Machine}

theorem toNat_pc_advance (hpc : machine.registers.pc.toNat + 2 < 2 ^ 16) :
    machine.advance.registers.pc.toNat = machine.registers.pc.toNat + 2 := by
  have hadvance : machine.advance.registers.pc = machine.registers.pc + 2 := rfl
  have htwo : (2 : UInt16).toNat = 2 := rfl
  rw [hadvance, UInt16.toNat_add, htwo, Nat.mod_eq_of_lt hpc]

theorem Touched.control {next : Machine} (htouched : machine.Touched next) :
    next.control = machine.control := by
  obtain ⟨v, keypad, mode, rfl⟩ := htouched
  rfl

theorem control_tick (machine : Machine) : machine.tick.control = machine.control := by
  rw [tick]
  split <;> rfl

end Machine

end Chip8
