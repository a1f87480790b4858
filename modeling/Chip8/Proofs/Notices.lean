import Chip8.Proofs.Picture

/-!
# What a cycle reports

A cycle reports its fault, then the sound, then the picture, the last only if it is marked as
changed. The mark is set by the steps that clear the screen or draw on it and by no other, and a
step that fails leaves it, so a cycle that reports no picture has not changed it.
-/

namespace Chip8

namespace Machine

/-- The step succeeds, and it clears the screen or draws on it. -/
def Draws (machine : Machine) : Prop :=
  machine.step.2 = none ∧ ∃ instruction, machine.Performs instruction ∧ instruction.Draws

variable {machine : Machine}

theorem dirty_step_iff (hrunning : machine.mode = .running) :
    machine.step.1.screen.dirty = true ↔ machine.screen.dirty = true ∨ machine.Draws := by
  obtain hend | ⟨word, hword, hunknown⟩ | ⟨instruction, hperforms⟩ := machine.fetch_cases
  · simp [Draws, step_of_pc_past_end hrunning hend, halt]
  · simp [Draws, step_of_unknown hrunning hword hunknown, halt, advance, withRegisters]
  · cases hnext : machine.advance.execute instruction with
    | error fault left =>
      have hstep := step_of_performs hrunning hperforms
      rw [hnext] at hstep
      simp [Draws, hstep, halt, advance, withRegisters]
    | ok _ next =>
      have hstep := step_of_execute_eq_ok hrunning hperforms hnext
      by_cases hdraws : instruction.Draws
      · have hmarks : machine.Draws := ⟨by rw [hstep], instruction, hperforms, hdraws⟩
        rw [hstep]
        exact iff_of_true (dirty_of_draws hnext hdraws) (.inr hmarks)
      · have hkept : next.screen = machine.advance.screen := screen_of_not_draws hnext hdraws
        have hscreen : machine.advance.screen = machine.screen := rfl
        have hmarks : ¬machine.Draws := by
          rintro ⟨-, performed, hperformed, hdrawn⟩
          exact hdraws (hperformed.unique hperforms ▸ hdrawn)
        rw [hstep, hkept, hscreen, or_iff_left hmarks]

theorem dirty_run_iff {n : Nat} :
    (machine.run n).1.screen.dirty = true ↔
      machine.screen.dirty = true ∨ ∃ m ∈ machine.visited n, m.Draws := by
  induction n generalizing machine with
  | zero => simp [run, visited]
  | succ n ih =>
    by_cases hrunning : machine.mode = .running
    · rw [run_succ, visited_succ hrunning, ih, dirty_step_iff hrunning, or_assoc]
      simp only [List.mem_cons, exists_eq_or_imp]
    · simp [run_of_not_running hrunning, visited_of_not_running hrunning]

theorem dirty_ticked_iff :
    machine.ticked.screen.dirty = true ↔
      machine.screen.dirty = true ∨ ∃ m ∈ machine.steps .cycle, m.Draws := by
  rw [ticked, screen_tick, dirty_run_iff]
  rfl

/-- A cycle that reports no picture ends with the one that it began with. -/
theorem pixels_cycle_of_no_frame (hnone : ∀ screen, .frame screen ∉ machine.cycle.2.2) :
    machine.cycle.1.screen.pixels = machine.screen.pixels := by
  obtain hsame | hdirty := machine.screen_ticked
  · rw [cycle_fst, hsame]
    rfl
  · rw [notices_cycle, if_pos hdirty] at hnone
    exact absurd (by simp) (hnone machine.cycle.1.screen)

/-- **The notices of a cycle.** A cycle reports its fault if it has one, then once whether there is
a tone, then once the picture that it leaves if that was marked as changed before or one of its
steps has drawn on it, and nothing else. In a row of cycles, one that reports no picture leaves the
picture of the cycle before. -/
theorem notices_of_cycle (machine : Machine) :
    let next := machine.cycle.1
    (∃ tone drawn : Bool,
      machine.cycle.2.2 =
          machine.cycle.2.1.toList.map Notice.fatal ++ Notice.sound tone ::
            (if drawn then [Notice.frame next.screen] else []) ∧
        (tone = true ↔ next.mode ≠ .halted ∧ next.registers.sound ≠ 0) ∧
        (drawn = true ↔
          machine.screen.dirty = true ∨ ∃ m ∈ machine.steps .cycle, m.Draws)) ∧
      ∀ n,
        let before := machine.after (List.replicate n .cycle)
        (∀ screen, .frame screen ∉ before.cycle.2.2) →
          (machine.after (List.replicate (n + 1) .cycle)).screen.pixels =
            before.screen.pixels := by
  intro next
  constructor
  · refine ⟨machine.ticked.sounds, machine.ticked.screen.dirty, rfl, ?_, dirty_ticked_iff⟩
    have hnext : next.mode = machine.ticked.mode ∧ next.registers = machine.ticked.registers :=
      ⟨rfl, rfl⟩
    rw [hnext.1, hnext.2, sounds, decide_eq_true_iff]
  · intro n before hnone
    have hafter : machine.after (List.replicate (n + 1) .cycle) = before.cycle.1 := by
      rw [List.replicate_succ', after_append]
      rfl
    rw [hafter]
    exact pixels_cycle_of_no_frame hnone

theorem silent_cycle_keeps_picture :
    let start := (create .default (.ofList [])).after [.togglePixel 3 4]
    let before := start.after [.cycle]
    start.cycle.2.2 = [.sound false, .frame before.screen] ∧
      (∀ screen, .frame screen ∉ before.cycle.2.2) ∧
      (start.after [.cycle, .cycle]).screen.pixels = before.screen.pixels := by
  intro start before
  have hnotices : before.cycle.2.2 = [.sound false] := rfl
  have hnone : ∀ screen, .frame screen ∉ before.cycle.2.2 := by
    intro screen
    rw [hnotices]
    simp
  exact ⟨rfl, hnone, (notices_of_cycle start).2 1 hnone⟩

end Machine

end Chip8
