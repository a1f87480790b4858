import Chip8.Proofs.Step

/-!
# Loading a program

A program that fits runs from its first word in an otherwise fresh memory; one that does not is
refused.
-/

namespace Chip8

namespace Machine

variable {machine loaded : Machine} {program : List UInt8}

/-- The only check of a program comes before the reset. -/
theorem load_eq (machine : Machine) (program : List UInt8) :
    machine.load program =
      if program.length ≤ 3584 then
        .ok () { machine.reset with
          memory := Memory.initial.write 0x200 program
          mode := .running }
      else .error (.programTooLarge program.length) machine := by
  rw [load]
  by_cases hfits : program.length ≤ 3584
  · have hcapacity : ¬Memory.programCapacity < program.length := Nat.not_lt.mpr hfits
    have hwritten : onMemory (Memory.loadProgram program) machine.reset =
        .ok () { machine.reset with memory := Memory.initial.write 0x200 program } := by
      rw [onMemory, Call.on, Memory.loadProgram_eq, if_pos (Nat.not_lt.mp hcapacity)]
      rfl
    rw [if_neg hcapacity, if_pos hfits, Call.modify_bind, Call.bind_of_ok hwritten, Call.modify_eq]
  · have hcapacity : Memory.programCapacity < program.length := Nat.lt_of_not_le hfits
    rw [if_pos hcapacity, if_neg hfits]
    rfl

theorem load_of_le (hfits : program.length ≤ 3584) :
    machine.load program =
      .ok () { machine.reset with
        memory := Memory.initial.write 0x200 program
        mode := .running } := by
  rw [load_eq, if_pos hfits]

theorem exists_load (machine : Machine) (hfits : program.length ≤ 3584) :
    ∃ loaded, machine.load program = .ok () loaded := ⟨_, load_of_le hfits⟩

theorem load_of_gt (hlong : 3584 < program.length) :
    machine.load program = .error (.programTooLarge program.length) machine := by
  rw [load_eq, if_neg (Nat.not_le_of_lt hlong)]

theorem load_eq_ok (hloaded : machine.load program = .ok () loaded) :
    loaded =
      { machine.reset with memory := Memory.initial.write 0x200 program, mode := .running } := by
  rw [load_eq] at hloaded
  split at hloaded
  · exact (Call.eq_of_ok hloaded).symm
  · contradiction

theorem mode_of_load (hloaded : machine.load program = .ok () loaded) : loaded.mode = .running := by
  rw [load_eq_ok hloaded]

theorem memory_of_load (hloaded : machine.load program = .ok () loaded) :
    loaded.memory = Memory.initial.write 0x200 program := by
  rw [load_eq_ok hloaded]

theorem registers_of_load (hloaded : machine.load program = .ok () loaded) :
    loaded.registers = .initial := by
  rw [load_eq_ok hloaded]
  rfl

theorem screen_of_load (hloaded : machine.load program = .ok () loaded) :
    loaded.screen = Screen.blank.markDirty := by
  rw [load_eq_ok hloaded]
  rfl

theorem keypad_of_load (hloaded : machine.load program = .ok () loaded) :
    loaded.keypad = .idle := by
  rw [load_eq_ok hloaded]
  rfl

theorem random_of_load (hloaded : machine.load program = .ok () loaded) :
    loaded.random = machine.random := by
  rw [load_eq_ok hloaded]
  dsimp only
  rw [reset]

theorem apply_load (hloaded : machine.load program = .ok () loaded) :
    machine.apply (.load program) = (loaded, {}) := by
  rw [apply, hloaded]
  rfl

/-- A program is loaded, or the machine stays as it is. -/
theorem apply_load_cases (machine : Machine) (program : List UInt8) :
    (∃ loaded, machine.load program = .ok () loaded ∧
      machine.apply (.load program) = (loaded, {})) ∨
      ∃ fault, machine.apply (.load program) = (machine, { fault := some fault }) := by
  by_cases hfits : program.length ≤ 3584
  · exact .inl ⟨_, load_of_le hfits, apply_load (load_of_le hfits)⟩
  · refine .inr ⟨.programTooLarge program.length, ?_⟩
    rw [apply, load_of_gt (Nat.lt_of_not_le hfits)]
    rfl

theorem load_after (hfits : program.length ≤ 3584) :
    machine.load program = .ok () (machine.after [.load program]) := by
  have hafter : machine.after [.load program] = (machine.apply (.load program)).1 := rfl
  rw [hafter, apply_load (load_of_le hfits), load_of_le hfits]

/-- A new machine with a program. -/
def boot (config : Config) (program : List UInt8) : Machine :=
  (create config (.ofList [])).after [.load program]

theorem load_boot {config : Config} (hfits : program.length ≤ 3584) :
    (create config (.ofList [])).load program = .ok () (boot config program) := load_after hfits

/-- A word of the program, where its bytes have not been overwritten. -/
theorem fetches_of_program {k : Nat} {high low : UInt8} {word : UInt16}
    (hmemory : machine.memory = Memory.initial.write 0x200 program)
    (hpc : machine.registers.pc.toNat = 0x200 + k) (hk : k + 1 < 3584)
    (hhigh : program[k]? = some high) (hlow : program[k + 1]? = some low)
    (hword : word.toNat = 256 * high.toNat + low.toNat) : machine.Fetches word := by
  refine ⟨by omega, ?_⟩
  have hnext : 0x200 + k + 1 - 0x200 = k + 1 := by omega
  simp only [hpc, hmemory, Memory.getElem_bytes_write, Nat.le_add_right, Nat.add_sub_cancel_left,
    Nat.le_add_right_of_le, ↓reduceIte, hnext, List.getD_eq_getElem?_getD, hhigh, hlow,
    Option.getD_some]
  exact hword

/-- Execution starts with the first two bytes of the program. -/
theorem fetches_of_load {high low : UInt8} {rest : List UInt8} {word : UInt16}
    (hloaded : machine.load (high :: low :: rest) = .ok () loaded)
    (hword : word.toNat = 256 * high.toNat + low.toNat) : loaded.Fetches word := by
  have hpc : loaded.registers.pc.toNat = 0x200 + 0 := by
    rw [registers_of_load hloaded]
    rfl
  exact fetches_of_program (memory_of_load hloaded) hpc (by decide) rfl rfl hword

end Machine

end Chip8
