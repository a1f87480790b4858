import Chip8.Proofs.Cycle
import Chip8.Proofs.Executed
import Chip8.Proofs.Periphery

/-!
# Pacing

A cycle takes as many steps as the speed says before the timers go down. Of what that moves, the
timers, the mark on the picture and the speed, a step reads the delay timer and nothing else, and
only if its instruction asks for it. A program that does not ask runs the same however its steps
are divided into cycles.
-/

namespace Chip8

/-- Peripheries that may differ in anything but the dialect and the random source. -/
def Periphery.SameButPace (own other : Periphery) : Prop :=
  own.random = other.random ∧ own.config.dialect = other.config.dialect

theorem Periphery.kept_sameButPace : Kept SameButPace := by
  rintro machine instruction own other ⟨hrandom, hdialect⟩
  cases instruction with
  | random => exact ⟨congrArg (·.next.2) hrandom, hdialect⟩
  | _ => exact ⟨hrandom, hdialect⟩

/-- One cycle at each of the speeds. -/
def paced (speeds : List UInt32) : List Command :=
  speeds.flatMap fun speed => [.setSpeed speed, .cycle]

/-- The number of steps that such cycles may take. -/
def pacedSteps (speeds : List UInt32) : Nat := (speeds.map UInt32.toNat).sum

namespace Machine

/-- Machines that differ only in the timers, the mark on the picture and the speed. -/
def SameButPace (machine other : Machine) : Prop :=
  ∃ delay sound dirty speed,
    other =
      { machine with
        registers := { machine.registers with delay, sound }
        screen := { machine.screen with dirty }
        config := { machine.config with speed } }

variable {machine other third : Machine} {first second speeds : List UInt32}

theorem sameButPace_iff_sameUpTo :
    machine.SameButPace other ↔ machine.SameUpTo Periphery.SameButPace other := by
  constructor
  · rintro ⟨delay, sound, dirty, speed, rfl⟩
    exact ⟨⟨delay, sound, dirty, { machine.config with speed }, machine.random⟩, rfl, rfl, rfl⟩
  · rintro ⟨⟨delay, sound, dirty, ⟨speed, dialect⟩, random⟩, rfl, hrandom, hdialect⟩
    obtain rfl : machine.random = random := hrandom
    obtain rfl : machine.config.dialect = dialect := hdialect
    exact ⟨delay, sound, dirty, speed, rfl⟩

theorem SameButPace.refl (machine : Machine) : machine.SameButPace machine := ⟨_, _, _, _, rfl⟩

theorem SameButPace.symm (hsame : machine.SameButPace other) : other.SameButPace machine := by
  obtain ⟨delay, sound, dirty, speed, rfl⟩ := hsame
  exact ⟨_, _, _, _, rfl⟩

theorem SameButPace.trans (hsame : machine.SameButPace other) (hsame' : other.SameButPace third) :
    machine.SameButPace third := by
  obtain ⟨delay, sound, dirty, speed, rfl⟩ := hsame
  obtain ⟨delay', sound', dirty', speed', rfl⟩ := hsame'
  exact ⟨delay', sound', dirty', speed', rfl⟩

theorem sameButPace_setSpeed (machine : Machine) (speed : UInt32) :
    machine.SameButPace (machine.setSpeed speed) := ⟨_, _, _, _, rfl⟩

/-- The end of a cycle moves the timers and takes the picture. -/
theorem sameButPace_cycle (machine : Machine) :
    (machine.run machine.config.speed.toNat).1.SameButPace machine.cycle.1 := by
  rw [cycle_fst, ticked]
  unfold tick
  split <;> exact ⟨_, _, _, _, rfl⟩

theorem overlooks_of_not_readDelay (hread : ∀ x, ¬machine.Performs (.readDelay x)) :
    machine.Overlooks Periphery.SameButPace := by
  rintro - instruction hperforms periphery ⟨hrandom, hdialect⟩
  refine findsSame_of_eq ?_ hdialect hrandom
  rintro x rfl
  exact absurd hperforms (hread x)

/-- A cycle of a machine is, but for the pace, so many steps of another. -/
theorem SameButPace.cycle
    (hread : ∀ m ∈ machine.executed (List.replicate other.config.speed.toNat .step),
      ∀ x, ¬m.Performs (.readDelay x))
    (hsame : machine.SameButPace other) :
    (machine.after (List.replicate other.config.speed.toNat .step)).SameButPace other.cycle.1 ∧
      machine.stepFaults other.config.speed.toNat = other.cycle.2.1.toList := by
  rw [executed_steps] at hread
  have hoverlooks : ∀ m ∈ machine.visited other.config.speed.toNat,
      m.Overlooks Periphery.SameButPace := fun m hm => overlooks_of_not_readDelay (hread m hm)
  obtain ⟨hrun, hfault⟩ :=
    (sameButPace_iff_sameUpTo.mp hsame).run Periphery.kept_sameButPace hoverlooks
  obtain ⟨hafter, hfaults⟩ := machine.run_eq_steps other.config.speed.toNat
  rw [← hafter, ← hfaults, hfault]
  exact ⟨(sameButPace_iff_sameUpTo.mpr hrun).trans other.sameButPace_cycle, rfl⟩

theorem faults_paced_cons (machine : Machine) (speed : UInt32) (rest : List UInt32) :
    (machine.replies (paced (speed :: rest))).filterMap Reply.fault =
      (machine.setSpeed speed).cycle.2.1.toList ++
        ((machine.setSpeed speed).cycle.1.replies (paced rest)).filterMap Reply.fault := by
  have hreplies : machine.replies (paced (speed :: rest)) =
      {} :: ((machine.setSpeed speed).apply .cycle).2 ::
        (machine.setSpeed speed).cycle.1.replies (paced rest) := rfl
  rw [hreplies, List.filterMap_cons, List.filterMap_cons]
  simp only [apply]
  cases (machine.setSpeed speed).cycle.2.1 <;> rfl

/-- Cycles at given speeds are, but for the pace, as many steps as the speeds add up to. -/
theorem SameButPace.paced (hpositive : ∀ speed ∈ speeds, 1 ≤ speed)
    (hread : ∀ m ∈ machine.executed (List.replicate (pacedSteps speeds) .step),
      ∀ x, ¬m.Performs (.readDelay x))
    (hsame : machine.SameButPace other) :
    (machine.after (List.replicate (pacedSteps speeds) .step)).SameButPace
        (other.after (Chip8.paced speeds)) ∧
      (other.replies (Chip8.paced speeds)).filterMap Reply.fault =
        machine.stepFaults (pacedSteps speeds) := by
  induction speeds generalizing machine other with
  | nil => exact ⟨hsame, rfl⟩
  | cons speed rest ih =>
    obtain ⟨hspeed, hrest⟩ := List.forall_mem_cons.mp hpositive
    have hset : machine.SameButPace (other.setSpeed speed) :=
      hsame.trans (other.sameButPace_setSpeed speed)
    have hcount : (other.setSpeed speed).config.speed = speed := Settings.max_one_eq hspeed
    have htotal : List.replicate (pacedSteps (speed :: rest)) Command.step =
        List.replicate speed.toNat .step ++ List.replicate (pacedSteps rest) .step :=
      List.replicate_append_replicate.symm
    rw [htotal, executed_append, List.forall_mem_append] at hread
    have hcycle := hset.cycle (by rw [hcount]; exact hread.1)
    rw [hcount] at hcycle
    obtain ⟨hlast, hfaults⟩ := ih hrest hread.2 hcycle.1
    refine ⟨?_, ?_⟩
    · rw [htotal, after_append]
      exact hlast
    · have hsplit : machine.stepFaults (pacedSteps (speed :: rest)) = _ :=
        machine.stepFaults_add speed.toNat (pacedSteps rest)
      rw [hsplit, ← hfaults, hcycle.2, faults_paced_cons]

/-- **Pace shows only in the delay timer.** A machine goes through some cycles, the speed of each
set before it, and through others that are set to as many steps in all. If none of so many steps
reads the delay timer, the machine ends the same both times but for the timers, the mark on the
picture and the speed. At most one cycle fails either time, and the same fault comes of both. -/
theorem pace_shows_only_in_delay (hfirst : ∀ speed ∈ first, 1 ≤ speed)
    (hsecond : ∀ speed ∈ second, 1 ≤ speed) (htotal : pacedSteps first = pacedSteps second)
    (hread : ∀ m ∈ machine.executed (List.replicate (pacedSteps first) .step),
      ∀ x, ¬m.Performs (.readDelay x)) :
    let faults := fun speeds => (machine.replies (paced speeds)).filterMap Reply.fault
    (machine.after (paced first)).SameButPace (machine.after (paced second)) ∧
      faults first = faults second ∧ (faults first).length ≤ 1 := by
  intro faults
  obtain ⟨hsame, hfaults⟩ := SameButPace.paced hfirst hread (.refl machine)
  rw [htotal] at hread
  obtain ⟨hsame', hfaults'⟩ := SameButPace.paced hsecond hread (.refl machine)
  rw [htotal] at hsame hfaults
  refine ⟨hsame.symm.trans hsame', hfaults.trans hfaults'.symm, ?_⟩
  have hsteps : faults first = (machine.run (pacedSteps second)).2.toList :=
    hfaults.trans (machine.run_eq_steps (pacedSteps second)).2.symm
  rw [hsteps]
  cases (machine.run (pacedSteps second)).2 <;> simp

/-- Starts a tone of five ticks, and then fails. -/
def brokenTone : List UInt8 := [0x61, 0x05, 0xF1, 0x18, 0x00, 0x00]

/-- None of the program's three steps reads the delay timer, and the last one fails. -/
theorem steps_brokenTone (hat : machine.RunsAt brokenTone 0) :
    (∀ m ∈ machine.executed (List.replicate 3 .step), ∀ x, ¬m.Performs (.readDelay x)) ∧
      machine.stepFaults 3 = [.unknownOpcode 0x0000 0x204] := by
  have hload : machine.Performs (.loadByte 1 5) :=
    ⟨0x6105, hat.fetches (by decide) rfl rfl rfl, by decide⟩
  obtain ⟨second, -, hstep, hat₂⟩ := hat.step hload rfl rfl rfl rfl
  have htone : second.Performs (.setSound 1) :=
    ⟨0xF118, hat₂.fetches (by decide) rfl rfl rfl, by decide⟩
  obtain ⟨third, -, hstep₂, hat₃⟩ := hat₂.step htone rfl rfl rfl rfl
  have hword : third.Fetches 0x0000 := hat₃.fetches (by decide) rfl rfl rfl
  have hunknown : ∀ entry ∈ table, entry.accepts 0x0000 = false :=
    decode_eq_none_iff.mp (by decide)
  have hpc : third.registers.pc = 0x204 := UInt16.toNat_inj.mp hat₃.pc
  have hfault : third.step.2 = some (.unknownOpcode 0x0000 0x204) := by
    rw [step_of_unknown hat₃.mode hword hunknown, hpc]
  constructor
  · rw [executed_steps, visited_succ_of_step hat.mode hstep, visited_succ_of_step hat₂.mode hstep₂,
      visited_succ_of_fault hat₃.mode hfault]
    simp only [List.forall_mem_cons]
    refine ⟨fun x hread => ?_, fun x hread => ?_, fun _ => ?_, by simp⟩
    · cases hload.unique hread
    · cases htone.unique hread
    · exact not_performs_of_unknown hword hunknown
  · rw [stepFaults_succ, stepFaults_succ, stepFaults_succ, hstep, hstep₂, hfault]
    rfl

/-- A new machine with that program. -/
def bellRinger : Machine := boot .default brokenTone

theorem bellRinger_fails_alike :
    let faults := fun speeds => (bellRinger.replies (paced speeds)).filterMap Reply.fault
    pacedSteps [2, 1] = pacedSteps [3] ∧
      (∀ m ∈ bellRinger.executed (List.replicate 3 .step), ∀ x, ¬m.Performs (.readDelay x)) ∧
      (bellRinger.after (paced [2, 1])).SameButPace (bellRinger.after (paced [3])) ∧
      faults [2, 1] = [.unknownOpcode 0x0000 0x204] ∧
      faults [3] = [.unknownOpcode 0x0000 0x204] := by
  intro faults
  have hload : (create .default (.ofList [])).load brokenTone = .ok () bellRinger :=
    load_boot (by decide)
  obtain ⟨hread, hfails⟩ := steps_brokenTone (runsAt_of_load hload)
  have hfirst : ∀ speed ∈ [2, 1], (1 : UInt32) ≤ speed := by simp
  have hsecond : ∀ speed ∈ [3], (1 : UInt32) ≤ speed := by simp
  obtain ⟨hsame, hfaults, -⟩ := pace_shows_only_in_delay hfirst hsecond rfl hread
  have hthree : faults [3] = bellRinger.stepFaults 3 :=
    (SameButPace.paced hsecond hread (.refl bellRinger)).2
  rw [hfails] at hthree
  exact ⟨rfl, hread, hsame, hfaults.trans hthree, hthree⟩

end Machine

end Chip8
