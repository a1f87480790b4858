import Chip8.Proofs.Step

/-!
# When a step fails, and what it leaves behind

A step fails for one of seven causes, each a condition on the machine before the step. A failed
step leaves that machine halted, with the program counter moved on if the fetch succeeded.
-/

namespace Chip8

namespace Machine

/-- The faults of a step: no word at the program counter, a word that no entry of the table
accepts, or the fault of the instruction there. -/
inductive StepFault (machine : Machine) : Fault → Prop
  | fetch (hend : 0xFFF < machine.registers.pc.toNat + 1) :
      StepFault machine (.outOfBounds (UInt64.ofNat (machine.registers.pc.toNat + 1)))
  | unknown {word : UInt16} (hword : machine.Fetches word)
      (hunknown : ∀ entry ∈ table, entry.accepts word = false) :
      StepFault machine (.unknownOpcode word machine.registers.pc)
  | execute {instruction : Instruction} {fault : Fault} (hperforms : machine.Performs instruction)
      (hfault : machine.ExecuteFault instruction fault) : StepFault machine fault

section Step

variable {machine : Machine} (hrunning : machine.mode = .running)
include hrunning

theorem step_snd_eq_some_iff {fault : Fault} :
    machine.step.2 = some fault ↔ machine.StepFault fault := by
  obtain hend | ⟨word, hword, hunknown⟩ | ⟨instruction, hperforms⟩ := machine.fetch_cases
  · rw [step_of_pc_past_end hrunning hend, Option.some.injEq]
    constructor
    · rintro rfl
      exact .fetch hend
    · intro hfault
      cases hfault with
      | fetch => rfl
      | unknown hword => exact absurd hword.1 (by omega)
      | execute hperforms =>
        obtain ⟨word, ⟨hpc, -⟩, -⟩ := hperforms
        omega
  · rw [step_of_unknown hrunning hword hunknown, Option.some.injEq]
    constructor
    · rintro rfl
      exact .unknown hword hunknown
    · intro hfault
      cases hfault with
      | fetch hend => exact absurd hword.1 (by omega)
      | unknown hword' => rw [hword'.unique hword]
      | execute hperforms => exact absurd hperforms (not_performs_of_unknown hword hunknown)
  · have hstep : machine.step.2 = some fault ↔
        ∃ left, machine.advance.execute instruction = .error fault left := by
      rw [step_of_performs hrunning hperforms]
      cases machine.advance.execute instruction <;> simp
    simp only [hstep, execute_eq_error_iff, exists_eq_right,
      executeFault_advance_iff]
    constructor
    · exact .execute hperforms
    · intro hfault
      cases hfault with
      | fetch hend =>
        obtain ⟨word, ⟨hpc, -⟩, -⟩ := hperforms
        omega
      | unknown hword hunknown =>
        exact absurd hperforms (not_performs_of_unknown hword hunknown)
      | execute hperforms' hfault => rwa [hperforms.unique hperforms']

theorem step_snd_eq_none {instruction : Instruction} (hperforms : machine.Performs instruction)
    (hnone : ∀ fault, ¬machine.ExecuteFault instruction fault) : machine.step.2 = none := by
  rw [step_of_performs hrunning hperforms]
  cases hnext : machine.advance.execute instruction with
  | error fault left =>
    have hfault := (execute_eq_error_iff.mp hnext).1
    exact absurd (executeFault_advance_iff.mp hfault) (hnone fault)
  | ok _ next => rfl

/-- A failed step changes nothing but the mode and, unless the fetch failed, the program
counter. -/
theorem step_fst_of_step_snd_ne_none (hfailed : machine.step.2 ≠ none) :
    machine.step.1 =
      { machine with
        mode := .halted
        registers := { machine.registers with
          pc := if 0xFFF < machine.registers.pc.toNat + 1 then machine.registers.pc
            else machine.registers.pc + 2 } } := by
  obtain hend | ⟨word, hword, hunknown⟩ | ⟨instruction, hperforms⟩ := machine.fetch_cases
  · rw [step_of_pc_past_end hrunning hend, if_pos hend]
    rfl
  · have hpc := hword.1
    rw [step_of_unknown hrunning hword hunknown, if_neg (by omega)]
    rfl
  · obtain ⟨word, ⟨hpc, -⟩, -⟩ := id hperforms
    have hstep := step_of_performs hrunning hperforms
    cases hnext : machine.advance.execute instruction with
    | error fault left =>
      rw [hnext] at hstep
      rw [hstep, if_neg (by omega)]
      rfl
    | ok _ next =>
      rw [hnext] at hstep
      rw [hstep] at hfailed
      contradiction

end Step

/-- **Failure of a step.** A step of a running machine fails exactly for the listed causes, and a
failed step has no effect but to halt the machine and, past the fetch, to move its program
counter. -/
theorem step_fails_iff_and_atomic (machine : Machine) (hrunning : machine.mode = .running) :
    (∀ fault, machine.step.2 = some fault ↔ machine.StepFault fault) ∧
      (machine.step.2 ≠ none →
        machine.step.1 =
          { machine with
            mode := .halted
            registers := { machine.registers with
              pc := if 0xFFF < machine.registers.pc.toNat + 1 then machine.registers.pc
                else machine.registers.pc + 2 } }) :=
  ⟨fun _ => step_snd_eq_some_iff hrunning, step_fst_of_step_snd_ne_none hrunning⟩

/-- A machine that is about to draw thirteen rows, of which memory holds only eight. Its flag is
not clear, so that clearing it before the rows are read would show. -/
def cutOffSprite : Machine :=
  { create .default (.ofList []) with
    memory := ⟨Vector.replicate 4096 0xDD⟩
    registers := { Registers.initial with v := Vector.replicate 16 60, index := 0xFF8 }
    mode := .running }

theorem cutOffSprite_fails :
    cutOffSprite.mode = .running ∧ cutOffSprite.step.2 = some (.outOfBounds 0x1004) ∧
      cutOffSprite.step.1 =
        { cutOffSprite with
          mode := .halted
          registers := { cutOffSprite.registers with pc := 0x202 } } := by
  have hword : cutOffSprite.Fetches 0xDDDD := ⟨by decide, by
    simp only [cutOffSprite, Vector.getElem_replicate]
    decide⟩
  have hperforms : cutOffSprite.Performs (.draw 13 13 13) := ⟨0xDDDD, hword, by decide⟩
  have hfault : cutOffSprite.StepFault (.outOfBounds 0x1004) :=
    .execute hperforms (.draw (by decide))
  obtain ⟨hiff, hatomic⟩ := step_fails_iff_and_atomic cutOffSprite rfl
  have hfailed := (hiff _).mpr hfault
  refine ⟨rfl, hfailed, (hatomic ?_).trans rfl⟩
  rw [hfailed]
  exact Option.some_ne_none _

end Machine

end Chip8
