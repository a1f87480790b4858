import Chip8.Machine.Command
import Chip8.Proofs.MemoryAccess

/-!
# What an instruction leaves

Six instructions may fail. Each of them makes its checks before its first change, and no change
fails after that. So an instruction that fails leaves the machine as it found it, and one that
succeeds has its whole effect.
-/

namespace Chip8

namespace CallStack

variable {stack left : CallStack} {address : UInt16} {fault : Fault}

theorem push_eq (stack : CallStack) (address : UInt16) :
    stack.push address =
      if h : stack.depth < 16 then
        .ok () ⟨stack.cells.set stack.depth address, stack.depth + 1, h⟩
      else .error .stackOverflow stack := by
  rw [push, Call.get_bind]
  split <;> rfl

theorem pop_eq (stack : CallStack) :
    stack.pop =
      if h : 0 < stack.depth then
        have hlast : stack.depth - 1 < 16 :=
          Nat.lt_of_lt_of_le (Nat.sub_lt h Nat.one_pos) stack.depth_le
        .ok stack.cells[stack.depth - 1] ⟨stack.cells, stack.depth - 1, Nat.le_of_lt hlast⟩
      else .error .stackUnderflow stack := by
  rw [pop, Call.get_bind]
  split <;> rfl

theorem push_eq_error_iff :
    stack.push address = .error fault left ↔
      (stack.depth = 16 ∧ fault = .stackOverflow) ∧ left = stack := by
  have hdepth := stack.depth_le
  rw [push_eq]
  split
  · simp only [reduceCtorEq, false_iff]
    omega
  · have hfull : stack.depth = 16 := by omega
    simp only [EStateM.Result.error.injEq, hfull, true_and, eq_comm]

theorem pop_eq_error_iff :
    stack.pop = .error fault left ↔
      (stack.depth = 0 ∧ fault = .stackUnderflow) ∧ left = stack := by
  rw [pop_eq]
  split
  · simp only [reduceCtorEq, false_iff]
    omega
  · have hempty : stack.depth = 0 := by omega
    simp only [EStateM.Result.error.injEq, hempty, true_and, eq_comm]

end CallStack

namespace Registers

variable {registers next left : Registers} {address : UInt16} {fault : Fault} {x y : Register}
  {value : UInt8}

theorem push_eq_ok_iff :
    registers.push address = .ok () next ↔
      ∃ stack, registers.stack.push address = .ok () stack ∧ { registers with stack } = next := by
  rw [push, onStack, Call.on_eq_ok_iff]

theorem pop_eq_ok_iff :
    registers.pop = .ok address next ↔
      ∃ stack, registers.stack.pop = .ok address stack ∧ { registers with stack } = next := by
  rw [pop, onStack, Call.on_eq_ok_iff]

theorem push_eq_error_iff :
    registers.push address = .error fault left ↔
      (registers.stack.depth = 16 ∧ fault = .stackOverflow) ∧ left = registers := by
  rw [push, onStack]
  exact Call.on_eq_error_iff_of_kept (fun _ _ => CallStack.push_eq_error_iff) rfl

theorem pop_eq_error_iff :
    registers.pop = .error fault left ↔
      (registers.stack.depth = 0 ∧ fault = .stackUnderflow) ∧ left = registers := by
  rw [pop, onStack]
  exact Call.on_eq_error_iff_of_kept (fun _ _ => CallStack.pop_eq_error_iff) rfl

theorem length_readBlock (registers : Registers) (x : Register) :
    (registers.readBlock x).length = x + 1 := by
  have hx := x.isLt
  rw [readBlock, List.length_take, Vector.length_toList]
  omega

theorem read_write_self : (registers.write x value).read x = value :=
  Vector.getElem_set_self x.isLt

theorem read_write_of_ne (hne : y ≠ x) :
    (registers.write x value).read y = registers.read y := by
  have hval : x.val ≠ y.val := fun heq => hne (Fin.ext heq.symm)
  exact Vector.getElem_set_ne x.isLt y.isLt hval

theorem write_write (registers : Registers) (x : Register) (old new : UInt8) :
    (registers.write x old).write x new = registers.write x new := by
  simp [write]

/-- A register gets a value, and everything else in the register file stays. -/
structure Assigns (before : Registers) (x : Register) (value : UInt8) (after : Registers) :
    Prop where
  here : after.read x = value
  elsewhere : ∀ y, y ≠ x → after.read y = before.read y
  index : after.index = before.index
  pc : after.pc = before.pc
  delay : after.delay = before.delay
  sound : after.sound = before.sound
  stack : after.stack = before.stack

theorem assigns_write (registers : Registers) (x : Register) (value : UInt8) :
    registers.Assigns x value (registers.write x value) :=
  ⟨read_write_self, fun _ hne => read_write_of_ne hne, rfl, rfl, rfl, rfl, rfl⟩

end Registers

namespace Machine

/-- The faults of an instruction. A range that leaves memory is reported by its last address. -/
inductive ExecuteFault (machine : Machine) : Instruction → Fault → Prop
  | call {target : Fin 4096} (hfull : machine.registers.stack.depth = 16) :
      ExecuteFault machine (.call target) .stackOverflow
  | ret (hempty : machine.registers.stack.depth = 0) : ExecuteFault machine .ret .stackUnderflow
  | draw {x y : Register} {rows : Fin 16} (hend : 4096 < machine.registers.index.toNat + rows) :
      ExecuteFault machine (.draw x y rows)
        (.outOfBounds (UInt64.ofNat (machine.registers.index.toNat + (rows - 1))))
  | storeDecimal {x : Register} (hend : 4095 < machine.registers.index.toNat + 2) :
      ExecuteFault machine (.storeDecimal x)
        (.outOfBounds (UInt64.ofNat (machine.registers.index.toNat + 2)))
  | storeRegisters {x : Register} (hend : 4095 < machine.registers.index.toNat + x) :
      ExecuteFault machine (.storeRegisters x)
        (.outOfBounds (UInt64.ofNat (machine.registers.index.toNat + x)))
  | loadRegisters {x : Register} (hend : 4095 < machine.registers.index.toNat + x) :
      ExecuteFault machine (.loadRegisters x)
        (.outOfBounds (UInt64.ofNat (machine.registers.index.toNat + x)))

/-! ### Ranges from the index register -/

/-- The index register is too small for the end of a range from it to be cut off. -/
theorem rangeEnd_indexAddress (machine : Machine) {length : Nat} (hlength : length ≤ 4096) :
    Memory.rangeEnd machine.indexAddress (UInt64.ofNat length) =
      UInt64.ofNat (machine.registers.index.toNat + (length - 1)) := by
  have hindex := machine.registers.index.toNat_lt
  rw [Memory.rangeEnd, Memory.toNat_ofNat_of_le hlength, indexAddress, UInt16.toNat_toUInt64,
    Nat.min_eq_left (by omega)]

theorem slice_index_eq_error_iff {machine : Machine} {length : Nat} {fault : Fault}
    (hlength : length ≤ 4096) :
    machine.memory.slice machine.indexAddress (UInt64.ofNat length) = .error fault ↔
      4096 < machine.registers.index.toNat + length ∧
        fault = .outOfBounds (UInt64.ofNat (machine.registers.index.toNat + (length - 1))) := by
  rw [Memory.slice_eq_error_iff, machine.rangeEnd_indexAddress hlength,
    Memory.toNat_ofNat_of_le hlength, indexAddress, UInt16.toNat_toUInt64]

theorem slice_index_of_le {machine : Machine} {length : Nat}
    (hfits : machine.registers.index.toNat + length ≤ 4096) :
    ∃ bytes,
      machine.memory.slice machine.indexAddress (UInt64.ofNat length) = .ok bytes ∧
        bytes.length = length ∧
        ∀ k < length, bytes[k]? = machine.memory.bytes[machine.registers.index.toNat + k]? := by
  have hlength : (UInt64.ofNat length).toNat = length := Memory.toNat_ofNat_of_le (by omega)
  have haddress : machine.indexAddress.toNat = machine.registers.index.toNat :=
    UInt16.toNat_toUInt64 _
  have hbound : machine.indexAddress.toNat + (UInt64.ofNat length).toNat ≤ 4096 := by
    rwa [haddress, hlength]
  obtain ⟨bytes, hbytes, hsize, hplaces⟩ := Memory.slice_of_le hbound
  rw [hlength] at hsize hplaces
  rw [haddress] at hplaces
  exact ⟨bytes, hbytes, hsize, hplaces⟩

/-! ### Parts of instructions -/

section Parts

variable {machine left : Machine} {x y : Register} {rows : Fin 16} {bytes : List UInt8}
  {fault : Fault}

theorem draw_of_slice_eq_ok
    (hslice : machine.memory.slice machine.indexAddress (UInt64.ofNat rows) = .ok bytes) :
    let drawn := machine.screen.draw (machine.registers.read x).toNat
      (machine.registers.read y).toNat bytes
    machine.draw x y rows =
      .ok () { machine.write .vf (if drawn.2 then 1 else 0) with screen := drawn.1 } := by
  intro drawn
  rw [draw, Call.get_bind, hslice, Call.bind_of_ok (Call.lift_ok bytes machine)]
  refine congrArg (EStateM.Result.ok ()) ?_
  exact congrArg (fun registers => { machine with registers, screen := drawn.1 })
    (machine.registers.write_write .vf 0 _)

theorem storeAtIndex_eq (hlength : bytes.length ≤ 4096) :
    machine.storeAtIndex bytes =
      if machine.registers.index.toNat + bytes.length ≤ 4096 then
        .ok () { machine with
          memory := machine.memory.write machine.registers.index.toNat bytes }
      else
        .error (.outOfBounds (UInt64.ofNat (machine.registers.index.toNat + (bytes.length - 1))))
          machine := by
  have haddress : machine.indexAddress.toNat = machine.registers.index.toNat :=
    UInt16.toNat_toUInt64 _
  rw [storeAtIndex, Call.get_bind, onMemory, Call.on, Memory.store_eq _ _ hlength, haddress,
    machine.rangeEnd_indexAddress hlength]
  by_cases hbound : machine.registers.index.toNat + bytes.length ≤ 4096
  · rw [if_pos hbound, if_pos hbound]
  · rw [if_neg hbound, if_neg hbound]

theorem storeAtIndex_of_le (hfits : machine.registers.index.toNat + bytes.length ≤ 4096) :
    machine.storeAtIndex bytes = .ok () { machine with
      memory := machine.memory.write machine.registers.index.toNat bytes } := by
  rw [storeAtIndex_eq (by omega), if_pos hfits]

theorem storeAtIndex_eq_error_iff (hlength : bytes.length ≤ 4096) :
    machine.storeAtIndex bytes = .error fault left ↔
      (4096 < machine.registers.index.toNat + bytes.length ∧
        fault =
          .outOfBounds (UInt64.ofNat (machine.registers.index.toNat + (bytes.length - 1)))) ∧
        left = machine := by
  rw [storeAtIndex_eq hlength]
  by_cases hbound : machine.registers.index.toNat + bytes.length ≤ 4096
  · have hwithin : ¬4096 < machine.registers.index.toNat + bytes.length := by omega
    simp [hbound, hwithin]
  · have hpast : 4096 < machine.registers.index.toNat + bytes.length := by omega
    simp [hbound, hpast, eq_comm]

end Parts

/-! ### Instructions that succeed -/

section Succeeds

variable {machine next : Machine} {x y : Register} {rows : Fin 16}

theorem eq_of_execute_ret (hnext : machine.execute .ret = .ok () next) :
    ∃ target stack, machine.registers.stack.pop = .ok target stack ∧
      next = machine.withRegisters ({ machine.registers with stack }.jump target) := by
  obtain ⟨target, _, hpopped, hnext⟩ := Call.bind_eq_ok_iff.mp hnext
  obtain ⟨_, hpop, rfl⟩ := Call.on_eq_ok_iff.mp hpopped
  obtain ⟨stack, hstack, rfl⟩ := Registers.pop_eq_ok_iff.mp hpop
  exact ⟨target, stack, hstack, (Call.eq_of_ok hnext).symm⟩

theorem eq_of_execute_call {target : Fin 4096}
    (hnext : machine.execute (.call target) = .ok () next) :
    ∃ stack, machine.registers.stack.push machine.registers.pc = .ok () stack ∧
      next = machine.withRegisters
        ({ machine.registers with stack }.jump (UInt16.ofNat target)) := by
  rw [execute, Call.get_bind] at hnext
  obtain ⟨_, _, hpushed, hnext⟩ := Call.bind_eq_ok_iff.mp hnext
  obtain ⟨_, hpush, rfl⟩ := Call.on_eq_ok_iff.mp hpushed
  obtain ⟨stack, hstack, rfl⟩ := Registers.push_eq_ok_iff.mp hpush
  exact ⟨stack, hstack, (Call.eq_of_ok hnext).symm⟩

theorem eq_of_execute_skip {condition : Condition}
    (hnext : machine.execute (.skip condition) = .ok () next) :
    next = if machine.holds condition then machine.advance else machine :=
  (Call.eq_of_ok hnext).symm

theorem eq_of_draw (hnext : machine.draw x y rows = .ok () next) :
    ∃ bytes, machine.memory.slice machine.indexAddress (UInt64.ofNat rows) = .ok bytes ∧
      let drawn := machine.screen.draw (machine.registers.read x).toNat
        (machine.registers.read y).toNat bytes
      next = { machine.write .vf (if drawn.2 then 1 else 0) with screen := drawn.1 } := by
  cases hslice : machine.memory.slice machine.indexAddress (UInt64.ofNat rows) with
  | ok bytes =>
    rw [draw_of_slice_eq_ok hslice] at hnext
    exact ⟨bytes, rfl, (Call.eq_of_ok hnext).symm⟩
  | error fault =>
    rw [draw, Call.get_bind, hslice, Call.bind_of_error (Call.lift_error fault machine)] at hnext
    contradiction

theorem eq_of_storeAtIndex {bytes : List UInt8} (hlength : bytes.length ≤ 4096)
    (hnext : machine.storeAtIndex bytes = .ok () next) :
    next = { machine with
      memory := machine.memory.write machine.registers.index.toNat bytes } := by
  rw [storeAtIndex_eq hlength] at hnext
  split at hnext
  · exact (Call.eq_of_ok hnext).symm
  · contradiction

theorem eq_of_execute_storeDecimal (hnext : machine.execute (.storeDecimal x) = .ok () next) :
    next = { machine with
      memory := machine.memory.write machine.registers.index.toNat
        (decimalDigits (machine.registers.read x)) } := by
  have hlength (value : UInt8) : (decimalDigits value).length = 3 := rfl
  rw [execute, Call.get_bind] at hnext
  exact eq_of_storeAtIndex (by rw [hlength]; omega) hnext

theorem eq_of_execute_storeRegisters (hnext : machine.execute (.storeRegisters x) = .ok () next) :
    next = { machine with
      memory := machine.memory.write machine.registers.index.toNat
        (machine.registers.readBlock x) }.stepIndex x := by
  have hlength := machine.registers.length_readBlock x
  rw [execute, Call.get_bind] at hnext
  obtain ⟨_, _, hstored, hnext⟩ := Call.bind_eq_ok_iff.mp hnext
  obtain rfl := eq_of_storeAtIndex (by omega) hstored
  exact (Call.eq_of_ok hnext).symm

theorem eq_of_execute_loadRegisters (hnext : machine.execute (.loadRegisters x) = .ok () next) :
    ∃ bytes, machine.memory.slice machine.indexAddress (UInt64.ofNat (x + 1)) = .ok bytes ∧
      next = (machine.withRegisters (machine.registers.writeBlock bytes)).stepIndex x := by
  rw [execute, Call.get_bind] at hnext
  obtain ⟨bytes, _, hbytes, hnext⟩ := Call.bind_eq_ok_iff.mp hnext
  obtain ⟨hslice, rfl⟩ := Call.lift_eq_ok_iff.mp hbytes
  exact ⟨bytes, hslice, (Call.eq_of_ok hnext).symm⟩

end Succeeds

/-! ### Instructions that fail -/

section Fails

variable {machine left : Machine} {instruction : Instruction} {fault : Fault}

/-- An instruction that fails leaves the machine as it found it. -/
theorem execute_eq_error_iff :
    machine.execute instruction = .error fault left ↔
      machine.ExecuteFault instruction fault ∧ left = machine := by
  cases instruction with
  | ret =>
    rw [execute]
    refine (Call.bind_eq_error_iff_of_ok fun _ _ => ⟨_, _, rfl⟩).trans ?_
    rw [onRegisters]
    refine (Call.on_eq_error_iff_of_kept (fun _ _ => Registers.pop_eq_error_iff) rfl).trans ?_
    refine and_congr_left fun _ => ⟨?_, ?_⟩
    · rintro ⟨hempty, rfl⟩
      exact .ret hempty
    · intro hfault
      cases hfault with
      | ret hempty => exact ⟨hempty, rfl⟩
  | call target =>
    rw [execute, Call.get_bind]
    refine (Call.bind_eq_error_iff_of_ok fun _ _ => ⟨_, _, rfl⟩).trans ?_
    rw [onRegisters]
    refine (Call.on_eq_error_iff_of_kept (fun _ _ => Registers.push_eq_error_iff) rfl).trans ?_
    refine and_congr_left fun _ => ⟨?_, ?_⟩
    · rintro ⟨hfull, rfl⟩
      exact .call hfull
    · intro hfault
      cases hfault with
      | call hfull => exact ⟨hfull, rfl⟩
  | draw x y rows =>
    have hrows := rows.isLt
    rw [execute, draw, Call.get_bind]
    refine (Call.bind_eq_error_iff_of_ok fun _ _ => ⟨_, _, rfl⟩).trans ?_
    rw [Call.lift_eq_error_iff, slice_index_eq_error_iff (by omega), eq_comm (a := machine)]
    refine and_congr_left fun _ => ⟨?_, ?_⟩
    · rintro ⟨hend, rfl⟩
      exact .draw hend
    · intro hfault
      cases hfault with
      | draw hend => exact ⟨hend, rfl⟩
  | storeDecimal x =>
    have hlength (value : UInt8) : (decimalDigits value).length = 3 := rfl
    rw [execute, Call.get_bind, storeAtIndex_eq_error_iff (by rw [hlength]; omega), hlength]
    refine and_congr_left fun _ => ⟨?_, ?_⟩
    · rintro ⟨hend, rfl⟩
      exact .storeDecimal (by omega)
    · intro hfault
      cases hfault with
      | storeDecimal hend => exact ⟨by omega, rfl⟩
  | storeRegisters x =>
    have hx := x.isLt
    have hlength := machine.registers.length_readBlock x
    rw [execute, Call.get_bind]
    refine (Call.bind_eq_error_iff_of_ok fun _ _ => ⟨_, _, rfl⟩).trans ?_
    rw [storeAtIndex_eq_error_iff (by omega), hlength]
    refine and_congr_left fun _ => ⟨?_, ?_⟩
    · rintro ⟨hend, rfl⟩
      exact .storeRegisters (by omega)
    · intro hfault
      cases hfault with
      | storeRegisters hend => exact ⟨by omega, rfl⟩
  | loadRegisters x =>
    have hx := x.isLt
    rw [execute, Call.get_bind]
    refine (Call.bind_eq_error_iff_of_ok fun _ _ => ⟨_, _, rfl⟩).trans ?_
    rw [Call.lift_eq_error_iff, slice_index_eq_error_iff (by omega), eq_comm (a := machine)]
    refine and_congr_left fun _ => ⟨?_, ?_⟩
    · rintro ⟨hend, rfl⟩
      exact .loadRegisters (by omega)
    · intro hfault
      cases hfault with
      | loadRegisters hend => exact ⟨by omega, rfl⟩
  | _ =>
    refine iff_of_false nofun ?_
    rintro ⟨⟨⟩, -⟩

/-- Moving the program counter changes none of the conditions of a fault. -/
theorem executeFault_advance_iff {machine : Machine} {instruction : Instruction} {fault : Fault} :
    machine.advance.ExecuteFault instruction fault ↔ machine.ExecuteFault instruction fault := by
  constructor <;> intro hfault <;> cases hfault <;> constructor <;> assumption

end Fails

end Machine

end Chip8
