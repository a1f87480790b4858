import Chip8.Proofs.StepFault
import Chip8.Proofs.Twins

/-!
# Programs without a dialect

The dialect reaches a machine in two places: a shift reads it to choose its operand, and a block
transfer to move the index register. A program whose transfers all fail and whose shifts find the
same value in both registers runs alike in all dialects.
-/

namespace Chip8

/-- Any two dialects, and one random source. -/
def Likeness.anyDialect : Likeness where
  dialect _ _ := True
  random := Eq
  refl _ := trivial
  next := by
    rintro own _ rfl
    rfl

/-- The operand of a shift is the same in every dialect if the registers have the same value. -/
theorem Arithmetic.shifted_self (source : ShiftSource) (value : UInt8) :
    result.shifted source value value = value := by
  cases source <;> rfl

namespace Machine

/-- The step does not depend on the dialect. -/
structure DialectFree (machine : Machine) : Prop where
  store (x : Register) (hperforms : machine.Performs (.storeRegisters x)) : machine.step.2 ≠ none
  load (x : Register) (hperforms : machine.Performs (.loadRegisters x)) : machine.step.2 ≠ none
  shiftRight (x y : Register) (hperforms : machine.Performs (.arithmetic .shiftRight x y)) :
    machine.registers.read x = machine.registers.read y
  shiftLeft (x y : Register) (hperforms : machine.Performs (.arithmetic .shiftLeft x y)) :
    machine.registers.read x = machine.registers.read y

variable {first second machine other : Machine} {commands : List Command}

theorem twins_anyDialect_iff :
    machine.Twins .anyDialect other ↔ ∃ dialect, other = machine.setDialect dialect := by
  constructor
  · rintro ⟨dialect, random, rfl, -, rfl⟩
    exact ⟨dialect, rfl⟩
  · rintro ⟨dialect, rfl⟩
    exact ⟨dialect, machine.random, rfl, trivial, rfl⟩

theorem DialectFree.overlooks (hfree : machine.DialectFree) :
    machine.Overlooks (Periphery.Twins .anyDialect) := by
  rintro hsucceeds instruction hperforms _ ⟨dialect, random, rfl, -, rfl⟩
  cases instruction with
  | arithmetic op x y =>
    cases op with
    | shiftRight =>
      have hsame := hfree.shiftRight x y hperforms
      simp only [FindsSame, hsame, Arithmetic.result, Arithmetic.shifted_self]
    | shiftLeft =>
      have hsame := hfree.shiftLeft x y hperforms
      simp only [FindsSame, hsame, Arithmetic.result, Arithmetic.shifted_self]
    | _ => rfl
  | storeRegisters x => exact absurd hsucceeds (hfree.store x hperforms)
  | loadRegisters x => exact absurd hsucceeds (hfree.load x hperforms)
  | random | readDelay => rfl
  | _ => trivial

theorem dialectFree_of_performs {instruction : Instruction}
    (hperforms : machine.Performs instruction)
    (htransfer : ∀ x, instruction = .storeRegisters x ∨ instruction = .loadRegisters x →
      machine.step.2 ≠ none)
    (hshift : ∀ x y, instruction = .arithmetic .shiftRight x y ∨
      instruction = .arithmetic .shiftLeft x y →
        machine.registers.read x = machine.registers.read y) : machine.DialectFree where
  store x hstores := htransfer x (.inl (hperforms.unique hstores))
  load x hloads := htransfer x (.inr (hperforms.unique hloads))
  shiftRight x y hshifts := hshift x y (.inl (hperforms.unique hshifts))
  shiftLeft x y hshifts := hshift x y (.inr (hperforms.unique hshifts))

/-- **The dialect shows only where it is used.** Two machines that differ only in their dialect get
the same commands. If no step of the first machine succeeds in transferring a block, and every shift
that it takes finds the same value in both registers, the machines reply the same and never differ
in anything but the dialect. -/
theorem dialect_shows_only_in_use (hsame : ∃ dialect, second = first.setDialect dialect)
    (hfree : ∀ m ∈ first.executed commands, m.DialectFree) :
    first.replies commands = second.replies commands ∧
      ∀ before later, commands = before ++ later →
        ∃ dialect, second.after before = (first.after before).setDialect dialect := by
  have htwins : first.Twins .anyDialect second := twins_anyDialect_iff.mpr hsame
  constructor
  · exact (htwins.after fun m hm => (hfree m hm).overlooks).2
  · rintro before later rfl
    have hbefore : ∀ m ∈ first.executed before, m.DialectFree := fun m hm =>
      hfree m (mem_executed_append hm later)
    exact twins_anyDialect_iff.mp (htwins.after fun m hm => (hbefore m hm).overlooks).1

/-- Shifts V1 from V2, and then stores V0 and V1 at the last address. -/
def overrun : List UInt8 := [0x81, 0x26, 0xAF, 0xFF, 0xF1, 0x55]

/-- The first two steps succeed, and the third fails. -/
theorem visited_overrun (hat : machine.RunsAt overrun 0) (n : Nat) :
    ∃ second third, machine.visited (n + 3) = [machine, second, third] ∧
      machine.Performs (.arithmetic .shiftRight 1 2) ∧ second.Performs (.loadIndex 0xFFF) ∧
      third.Performs (.storeRegisters 1) ∧ third.step.2 ≠ none := by
  have hshift : machine.Performs (.arithmetic .shiftRight 1 2) :=
    ⟨0x8126, hat.fetches (by decide) rfl rfl rfl, by decide⟩
  obtain ⟨second, -, hstep, hat₂⟩ := hat.step hshift rfl rfl rfl rfl
  have hindex : second.Performs (.loadIndex 0xFFF) :=
    ⟨0xAFFF, hat₂.fetches (by decide) rfl rfl rfl, by decide⟩
  obtain ⟨third, hthird, hstep₂, hat₃⟩ := hat₂.step hindex rfl rfl rfl rfl
  have hstore : third.Performs (.storeRegisters 1) :=
    ⟨0xF155, hat₃.fetches (by decide) rfl rfl rfl, by decide⟩
  have hedge : third.registers.index = 0xFFF := by
    rw [hthird]
    rfl
  have hend : 4095 < third.registers.index.toNat + (1 : Register) := by
    rw [hedge]
    decide
  have hfault := (step_snd_eq_some_iff hat₃.mode).mpr (.execute hstore (.storeRegisters hend))
  refine ⟨second, third, ?_, hshift, hindex, hstore, by rw [hfault]; exact Option.some_ne_none _⟩
  rw [visited_succ_of_step hat.mode hstep, visited_succ_of_step hat₂.mode hstep₂,
    visited_succ_of_fault hat₃.mode hfault]

/-- A new machine with that program, in the first interpreter's dialect. -/
def overrunner : Machine := boot (.ofPreset .legacy) overrun

theorem overrunner_alike :
    let modern := overrunner.setDialect Preset.modern.dialect
    (∃ dialect, modern = overrunner.setDialect dialect) ∧
      modern.config.dialect ≠ overrunner.config.dialect ∧
      (overrunner.executed [.cycle]).length = 3 ∧
      (∀ m ∈ overrunner.executed [.cycle], m.DialectFree) ∧
      overrunner.replies [.cycle] = modern.replies [.cycle] ∧
      ∃ dialect, modern.after [.cycle] = (overrunner.after [.cycle]).setDialect dialect := by
  intro modern
  have hload : (create (.ofPreset .legacy) (.ofList [])).load overrun = .ok () overrunner :=
    load_boot (by decide)
  have hregisters := registers_of_load hload
  have hconfig : overrunner.config = .ofPreset .legacy := by
    rw [load_eq_ok hload]
    rfl
  have hspeed : overrunner.steps .cycle = overrunner.visited (7 + 3) := by
    rw [steps, hconfig]
    rfl
  obtain ⟨second, third, hvisited, hshift, hindex, hstore, hfails⟩ :=
    visited_overrun (runsAt_of_load hload) 7
  have hexecuted : overrunner.executed [.cycle] = [overrunner, second, third] := by
    rw [executed, hspeed, hvisited]
    rfl
  have hfree : ∀ m ∈ overrunner.executed [.cycle], m.DialectFree := by
    have hequal : overrunner.registers.read 1 = overrunner.registers.read 2 := by
      rw [hregisters]
      rfl
    rw [hexecuted]
    simp only [List.forall_mem_cons]
    refine ⟨dialectFree_of_performs hshift (by simp) ?_, ?_, ?_, by simp⟩
    · rintro x y (⟨⟨⟩⟩ | ⟨⟨⟩⟩)
      exact hequal
    · exact dialectFree_of_performs hindex (by simp) (by simp)
    · exact dialectFree_of_performs hstore (fun _ _ => hfails) (by simp)
  have hsame : ∃ dialect, modern = overrunner.setDialect dialect := ⟨_, rfl⟩
  obtain ⟨hreplies, hafter⟩ := dialect_shows_only_in_use hsame hfree
  refine ⟨hsame, ?_, by rw [hexecuted]; rfl, hfree, hreplies, hafter [.cycle] [] rfl⟩
  rw [hconfig]
  decide

end Machine

end Chip8
