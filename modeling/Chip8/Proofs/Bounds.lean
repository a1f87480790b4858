import Chip8.Proofs.Control
import Chip8.Proofs.SessionConfig

/-!
# Bounds of the reachable machines

A fetch bounds the program counter that a call saves, the saved program counters bound the one that
a return restores, and a jump with an offset goes at most a byte past the last address that fits an
instruction word. None of this asks what the program is.
-/

namespace Chip8

/-- No program counter lies further past the end of memory than an offset reaches, and a live
return address lies past a fetched word. -/
def Confined (control : UInt16 × CallStack) : Prop :=
  control.1.toNat ≤ 0x10FE ∧
    ∀ address ∈ control.2.live, 2 ≤ address.toNat ∧ address.toNat ≤ 0x1000

namespace Machine

variable {machine : Machine}

theorem confined_of_moves {instruction : Instruction} {control : UInt16 × CallStack}
    (hconfined : Confined machine.control) (hlow : 2 ≤ machine.registers.pc.toNat)
    (hhigh : machine.registers.pc.toNat ≤ 0x1000)
    (hmoves : machine.Moves control instruction) : Confined control := by
  obtain ⟨hpc, hlive⟩ := hconfined
  change ∀ address ∈ machine.registers.stack.live, _ at hlive
  cases instruction with
  | ret =>
    obtain ⟨target, stack⟩ := control
    rw [CallStack.live_pop hmoves, List.forall_mem_append, List.forall_mem_singleton] at hlive
    obtain ⟨hrest, -, htarget⟩ := hlive
    exact ⟨Nat.le_trans htarget (by decide), hrest⟩
  | jump target =>
    obtain rfl := hmoves
    have htarget := target.isLt
    refine ⟨?_, hlive⟩
    rw [UInt16.toNat_ofNat_of_lt' (by rw [UInt16.size]; omega)]
    omega
  | call target =>
    obtain ⟨stack, hpush, rfl⟩ := hmoves
    have htarget := target.isLt
    refine ⟨?_, ?_⟩
    · rw [UInt16.toNat_ofNat_of_lt' (by rw [UInt16.size]; omega)]
      omega
    · rw [CallStack.live_push hpush, List.forall_mem_append, List.forall_mem_singleton]
      exact ⟨hlive, hlow, hhigh⟩
  | jumpOffset base =>
    obtain rfl := hmoves
    have hbase := base.isLt
    have hoffset := (machine.registers.read .v0).toNat_lt
    refine ⟨?_, hlive⟩
    rw [UInt16.toNat_add, UInt8.toNat_toUInt16,
      UInt16.toNat_ofNat_of_lt' (by rw [UInt16.size]; omega)]
    omega
  | skip condition =>
    obtain rfl := hmoves
    have hadvance := toNat_pc_advance (show machine.registers.pc.toNat + 2 < 2 ^ 16 by omega)
    split
    · exact ⟨by rw [control, hadvance]; omega, hlive⟩
    · exact ⟨hpc, hlive⟩
  | _ =>
    obtain rfl := hmoves
    exact ⟨hpc, hlive⟩

/-- After a fetch the program counter is at most at the end of memory. -/
theorem pc_advance_of_fetches {word : UInt16} (hword : machine.Fetches word) :
    2 ≤ machine.advance.registers.pc.toNat ∧ machine.advance.registers.pc.toNat ≤ 0x1000 := by
  obtain ⟨hpc, -⟩ := hword
  rw [toNat_pc_advance (by omega)]
  omega

theorem confined_advance {word : UInt16} (hword : machine.Fetches word)
    (hconfined : Confined machine.control) : Confined machine.advance.control :=
  ⟨Nat.le_trans (pc_advance_of_fetches hword).2 (by decide), hconfined.2⟩

theorem confined_step (hconfined : Confined machine.control) :
    Confined machine.step.1.control := by
  by_cases hrunning : machine.mode = .running
  · obtain hend | ⟨word, hword, hunknown⟩ | ⟨instruction, hperforms⟩ := machine.fetch_cases
    · rw [step_of_pc_past_end hrunning hend]
      exact hconfined
    · rw [step_of_unknown hrunning hword hunknown]
      exact confined_advance hword hconfined
    · obtain ⟨word, hword, -⟩ := id hperforms
      have hadvanced := confined_advance hword hconfined
      rw [step_of_performs hrunning hperforms]
      cases hnext : machine.advance.execute instruction with
      | error fault left => exact hadvanced
      | ok _ next =>
        obtain ⟨hlow, hhigh⟩ := pc_advance_of_fetches hword
        exact confined_of_moves hadvanced hlow hhigh (moves_of_execute hnext)
  · rwa [step, if_neg hrunning]

theorem confined_of_touched {next : Machine} (htouched : machine.Touched next)
    (hconfined : Confined machine.control) : Confined next.control := by
  rwa [htouched.control]

theorem confined_singleStep (hconfined : Confined machine.control) :
    Confined machine.singleStep.1.control := by
  rw [singleStep]
  split
  · have hresumed := confined_of_touched machine.touched_resume hconfined
    have hpaused := confined_of_touched (touched_pause _) (confined_step hresumed)
    exact hpaused
  · exact confined_step hconfined

theorem confined_run (hconfined : Confined machine.control) (n : Nat) :
    Confined (machine.run n).1.control :=
  run_induction (fun m => Confined m.control) (fun _ => True)
    (fun _ _ _ hstart => confined_step hstart) (fun _ _ => trivial) hconfined

theorem confined_cycle (hconfined : Confined machine.control) :
    Confined machine.cycle.1.control := by
  have hticked := confined_run hconfined machine.config.speed.toNat
  rw [← control_tick] at hticked
  exact hticked

theorem confined_initial : Confined (Registers.initial.pc, Registers.initial.stack) :=
  ⟨by decide, by simp [Registers.initial, CallStack.live_empty]⟩

theorem confined_apply (hconfined : Confined machine.control) (command : Command) :
    Confined (machine.apply command).1.control := by
  cases command with
  | load program =>
    obtain ⟨loaded, hload, happly⟩ | ⟨fault, happly⟩ := machine.apply_load_cases program
    · rw [happly, load_eq_ok hload]
      exact confined_initial
    · rwa [happly]
  | reset => exact confined_initial
  | step => exact confined_step hconfined
  | singleStep => exact confined_singleStep hconfined
  | cycle => exact confined_cycle hconfined
  | pause => exact confined_of_touched machine.touched_pause hconfined
  | resume => exact confined_of_touched machine.touched_resume hconfined
  | togglePause => exact confined_of_touched machine.touched_togglePause hconfined
  | keyUp key => exact confined_of_touched (machine.touched_withKeypad _) hconfined
  | setKeys keys => exact confined_of_touched (machine.touched_withKeypad _) hconfined
  | giveKey key => exact confined_of_touched (machine.touched_giveKey key) hconfined
  | _ => exact hconfined

theorem speed_of_config_eq {next : Machine} (hconfig : next.config = machine.config)
    (hspeed : 1 ≤ machine.config.speed) : 1 ≤ next.config.speed := by
  rwa [hconfig]

theorem speed_apply (hspeed : 1 ≤ machine.config.speed) (command : Command) :
    1 ≤ (machine.apply command).1.config.speed := by
  cases command with
  | load program =>
    obtain ⟨loaded, hload, happly⟩ | ⟨fault, happly⟩ := machine.apply_load_cases program
    · rw [happly]
      exact speed_of_config_eq (config_load hload) hspeed
    · rwa [happly]
  | reset => exact speed_of_config_eq machine.config_reset hspeed
  | step => exact speed_of_config_eq machine.config_step hspeed
  | singleStep => exact speed_of_config_eq machine.config_singleStep hspeed
  | cycle => exact speed_of_config_eq machine.config_cycle hspeed
  | pause => exact speed_of_config_eq machine.touched_pause.config hspeed
  | resume => exact speed_of_config_eq machine.touched_resume.config hspeed
  | togglePause => exact speed_of_config_eq machine.touched_togglePause.config hspeed
  | keyUp key => exact speed_of_config_eq (machine.touched_withKeypad _).config hspeed
  | setKeys keys => exact speed_of_config_eq (machine.touched_withKeypad _).config hspeed
  | giveKey key => exact speed_of_config_eq (machine.touched_giveKey key).config hspeed
  | setSpeed speed => exact Settings.one_le_max speed
  | setConfig config => exact Settings.one_le_max config.speed
  | _ => exact hspeed

theorem Reachable.speed_pos (hreachable : machine.Reachable) : 1 ≤ machine.config.speed :=
  @Reachable.induction machine (fun m => 1 ≤ m.config.speed)
    (fun config _ => Settings.one_le_max config.speed)
    (fun _ command hspeed => speed_apply hspeed command) hreachable

/-- What every reachable machine keeps to. -/
structure Bounded (machine : Machine) : Prop where
  pc_le : machine.registers.pc.toNat ≤ 0x10FE
  live_le : machine.registers.stack.live.length ≤ 16
  return_mem : ∀ address ∈ machine.registers.stack.live,
    2 ≤ address.toNat ∧ address.toNat ≤ 0x1000
  waiting_lt : ∀ x : Register, machine.mode = .waiting x → x.val < 16
  speed_pos : 1 ≤ machine.config.speed

theorem bounded_after (config : Config) (random : RandomSource) (commands : List Command) :
    ((create config random).after commands).Bounded := by
  have hcontrol : Confined ((create config random).after commands).control :=
    @after_induction (create config random) (fun m => Confined m.control)
      (fun _ command hconfined => confined_apply hconfined command) confined_initial commands
  have hspeed : 1 ≤ ((create config random).after commands).config.speed :=
    Reachable.speed_pos ⟨config, random, commands, rfl⟩
  refine ⟨hcontrol.1, ?_, hcontrol.2, fun x _ => x.isLt, hspeed⟩
  rw [CallStack.length_live]
  exact CallStack.depth_le _

end Machine

end Chip8
