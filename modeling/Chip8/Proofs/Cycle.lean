import Chip8.Proofs.KeyWait

/-!
# Cycles

A cycle stops stepping at the first fault, or as soon as the machine does not run. A step of such a
machine does nothing, so the cycle might as well have taken all the steps that the speed allows.
-/

namespace Chip8

namespace Machine

variable {machine : Machine}

/-- The faults of so many steps, in order. -/
def stepFaults (machine : Machine) (n : Nat) : List Fault :=
  (machine.replies (List.replicate n .step)).filterMap Reply.fault

theorem stepFaults_succ (machine : Machine) (n : Nat) :
    machine.stepFaults (n + 1) = machine.step.2.toList ++ machine.step.1.stepFaults n := by
  unfold stepFaults
  rw [List.replicate_succ, replies, List.filterMap_cons]
  simp only [apply]
  cases machine.step.2 with
  | none => rfl
  | some fault => rfl

theorem after_steps_succ (machine : Machine) (n : Nat) :
    machine.after (List.replicate (n + 1) .step) =
      machine.step.1.after (List.replicate n .step) := by
  rw [List.replicate_succ, after_cons]
  rfl

theorem stepFaults_add (machine : Machine) (n k : Nat) :
    machine.stepFaults (n + k) =
      machine.stepFaults n ++ (machine.after (List.replicate n .step)).stepFaults k := by
  unfold stepFaults
  rw [← List.replicate_append_replicate, replies_append, List.filterMap_append]

/-- The steps that a run leaves out would do nothing. -/
theorem run_eq_steps (machine : Machine) (n : Nat) :
    (machine.run n).1 = machine.after (List.replicate n .step) ∧
      (machine.run n).2.toList = machine.stepFaults n := by
  induction n generalizing machine with
  | zero => exact ⟨rfl, rfl⟩
  | succ n ih =>
    obtain ⟨hafter, hfaults⟩ := ih machine.step.1
    rw [run_succ, after_steps_succ, stepFaults_succ, ← hafter, ← hfaults]
    refine ⟨rfl, ?_⟩
    cases hfault : machine.step.2 with
    | none => rfl
    | some fault =>
      -- The fault has halted the machine, so no later step can fail again.
      rw [run_of_not_running (not_running_of_fault hfault)]
      rfl

/-- The machine at the end of a cycle, with its picture not yet taken. -/
def ticked (machine : Machine) : Machine := (machine.run machine.config.speed.toNat).1.tick

theorem cycle_fst (machine : Machine) :
    machine.cycle.1 = { machine.ticked with screen := machine.ticked.screen.markClean } := rfl

theorem notices_cycle (machine : Machine) :
    machine.cycle.2.2 =
      machine.cycle.2.1.toList.map Notice.fatal ++ Notice.sound machine.ticked.sounds ::
        if machine.ticked.screen.dirty then [Notice.frame machine.cycle.1.screen] else [] := rfl

theorem tick_of_running (hmode : machine.mode = .running) :
    machine.tick = machine.withRegisters machine.registers.tick := if_pos hmode

theorem toNat_countDown (timer : UInt8) :
    (Registers.countDown timer).toNat = timer.toNat - 1 := by
  unfold Registers.countDown
  split
  · rename_i hzero
    rw [hzero]
    rfl
  · rename_i hpos
    have hpos : timer.toNat ≠ 0 := fun hzero => hpos (UInt8.toNat_inj.mp hzero)
    have hone : (1 : UInt8) ≤ timer := by
      rw [UInt8.le_iff_toNat_le]
      exact Nat.pos_of_ne_zero hpos
    rw [UInt8.toNat_sub_of_le _ _ hone]
    rfl

/-- **A cycle is as many steps as its speed says.** Steps of a machine that does not run count as
well. The timers then go down by one, though not below zero, if the machine still runs, and the
picture counts as taken. The cycle fails if one of the steps does, and no more than one does. -/
theorem cycle_eq_steps (machine : Machine) :
    let steps := List.replicate machine.config.speed.toNat Command.step
    let last := machine.after steps
    let faults := (machine.replies steps).filterMap Reply.fault
    let elapsed := if last.mode = .running then 1 else 0
    (∃ delay sound : UInt8,
      delay.toNat = last.registers.delay.toNat - elapsed ∧
        sound.toNat = last.registers.sound.toNat - elapsed ∧
        machine.cycle.1 =
          { last with
            registers := { last.registers with delay, sound }
            screen := { last.screen with dirty := false } }) ∧
      (∀ fault, machine.cycle.2.1 = some fault ↔ fault ∈ faults) ∧ faults.length ≤ 1 := by
  intro steps last faults elapsed
  obtain ⟨hlast, hfaults⟩ := machine.run_eq_steps machine.config.speed.toNat
  have hticked : machine.ticked = last.tick := congrArg tick hlast
  have hfault : faults = machine.cycle.2.1.toList := hfaults.symm
  refine ⟨?_, ?_, ?_⟩
  · rw [cycle_fst, hticked]
    by_cases hrunning : last.mode = .running
    · refine ⟨_, _, ?_, ?_, by rw [tick_of_running hrunning]; rfl⟩
      · rw [toNat_countDown]
        simp only [elapsed, if_pos hrunning]
      · rw [toNat_countDown]
        simp only [elapsed, if_pos hrunning]
    · refine ⟨_, _, ?_, ?_, by rw [tick_of_not_running hrunning]; rfl⟩
      · simp only [elapsed, if_neg hrunning, Nat.sub_zero]
      · simp only [elapsed, if_neg hrunning, Nat.sub_zero]
  · intro fault
    rw [hfault, Option.mem_toList]
  · rw [hfault]
    cases machine.cycle.2.1 <;> simp

end Machine

end Chip8
