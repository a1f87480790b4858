import Chip8.Proofs.Cycle
import Chip8.Proofs.Tracing

/-!
# Pauses leave no trace

Cycles that go by while a machine is paused take no step and tick no timer, and resuming the machine
gives it back the mode that it had. A machine that waits for a key or is halted is not paused by a
pause in the first place. All that a pause costs is the mark on the picture, which a cycle takes and
no other command reads. So commands with pauses in between do what they do without them.
-/

namespace Chip8

/-- A command, and the pauses right before it, each given by the number of cycles that go by. -/
structure Delayed where
  pauses : List Nat
  command : Command

namespace Delayed

/-- A pause, so many cycles, and the end of the pause. -/
def pauseOf (cycles : Nat) : List Command := .pause :: List.replicate cycles .cycle ++ [.resume]

def interlude (delayed : Delayed) : List Command := delayed.pauses.flatMap pauseOf

def withoutPauses (schedule : List Delayed) : List Command := schedule.map command

def withPauses (schedule : List Delayed) : List Command :=
  schedule.flatMap fun delayed => delayed.interlude ++ [delayed.command]

end Delayed

namespace Machine

open Delayed (pauseOf withoutPauses withPauses)

/-- None of the pauses comes while the machine is paused already. -/
def MayPause (machine : Machine) : List Delayed → Prop
  | [] => True
  | delayed :: rest =>
    (delayed.pauses ≠ [] → machine.mode ≠ .paused) ∧
      (machine.apply delayed.command).1.MayPause rest

variable {machine other : Machine} {command : Command} {schedule : List Delayed}

theorem mayPause_append {earlier later : List Delayed} :
    machine.MayPause (earlier ++ later) ↔
      machine.MayPause earlier ∧ (machine.after (withoutPauses earlier)).MayPause later := by
  induction earlier generalizing machine with
  | nil => exact (and_iff_right trivial).symm
  | cons delayed earlier ih =>
    rw [List.cons_append, MayPause, MayPause, ih, and_assoc]
    rfl

theorem alike_iff :
    machine.Alike other ↔
      ∃ dirty, other = { machine with screen := { machine.screen with dirty } } := by
  rw [alike_iff_sameUpTo]
  constructor
  · rintro ⟨_, rfl, dirty, rfl⟩
    exact ⟨dirty, rfl⟩
  · rintro ⟨dirty, rfl⟩
    exact ⟨_, rfl, dirty, rfl⟩

theorem Alike.mode (halike : machine.Alike other) : machine.mode = other.mode := by
  obtain ⟨dirty, rfl⟩ := alike_iff.mp halike
  rfl

/-- What does the same with every mark leaves machines alike. -/
theorem Alike.event (event : Machine → Machine)
    (hevent : ∀ m periphery, event (m.withPeriphery periphery) =
      (event m).withPeriphery periphery)
    (halike : machine.Alike other) : (event machine).Alike (event other) := by
  rw [alike_iff_sameUpTo] at halike ⊢
  exact halike.event hevent

theorem Alike.pause (halike : machine.Alike other) : machine.pause.Alike other.pause :=
  halike.event Machine.pause withPeriphery_pause

theorem Alike.resume (halike : machine.Alike other) : machine.resume.Alike other.resume :=
  halike.event Machine.resume withPeriphery_resume

theorem Alike.singleStep (halike : machine.Alike other) :
    machine.singleStep.1.Alike other.singleStep.1 ∧
      machine.singleStep.2 = other.singleStep.2 := by
  by_cases hpaused : machine.mode = .paused
  · obtain ⟨hstep, hfault⟩ := halike.resume.step
    have hpaused' : other.mode = .paused := halike.mode.symm.trans hpaused
    rw [Machine.singleStep, Machine.singleStep, if_pos hpaused, if_pos hpaused']
    exact ⟨hstep.pause, hfault⟩
  · have hpaused' : other.mode ≠ .paused := fun hmode => hpaused (halike.mode.trans hmode)
    rw [Machine.singleStep, Machine.singleStep, if_neg hpaused, if_neg hpaused']
    exact halike.step

theorem Alike.tick (halike : machine.Alike other) : machine.tick.Alike other.tick := by
  obtain ⟨dirty, rfl⟩ := alike_iff.mp halike
  unfold Machine.tick
  split <;> rfl

theorem Alike.cycle (halike : machine.Alike other) :
    machine.cycle.1 = other.cycle.1 ∧ machine.cycle.2.1 = other.cycle.2.1 := by
  have hspeed : other.config.speed = machine.config.speed := by
    obtain ⟨dirty, rfl⟩ := alike_iff.mp halike
    rfl
  rw [alike_iff_sameUpTo] at halike
  obtain ⟨hrun, hfault⟩ := halike.run Periphery.kept_sameButMark (n := machine.config.speed.toNat)
    fun m _ => m.overlooks_mark
  rw [← alike_iff_sameUpTo] at hrun
  rw [cycle_fst, cycle_fst, ticked, ticked, hspeed]
  refine ⟨hrun.tick, ?_⟩
  simp only [Machine.cycle, hspeed, hfault]

/-- No command but the one that takes the mark tells whether it is set. -/
theorem Alike.apply (halike : machine.Alike other) (hmark : command ≠ .takeDirty) :
    (machine.apply command).1.Alike (other.apply command).1 ∧
      (other.apply command).2.fault = (machine.apply command).2.fault ∧
      (other.apply command).2.answer = (machine.apply command).2.answer := by
  obtain ⟨dirty, hother⟩ := alike_iff.mp halike
  cases command with
  | load program =>
    by_cases hfits : program.length ≤ 3584
    · simp only [Machine.apply, load_of_le hfits, settle, and_self, and_true]
      rw [hother]
      rfl
    · simp only [Machine.apply, load_of_gt (Nat.lt_of_not_le hfits), settle, and_self, and_true]
      exact halike
  | step =>
    obtain ⟨hstep, hfault⟩ := halike.step
    exact ⟨hstep, hfault.symm, rfl⟩
  | singleStep =>
    obtain ⟨hstep, hfault⟩ := halike.singleStep
    exact ⟨hstep, hfault.symm, rfl⟩
  | cycle =>
    obtain ⟨hcycle, hfault⟩ := halike.cycle
    exact ⟨congrArg unmarked hcycle, hfault.symm, rfl⟩
  | pause => exact ⟨halike.pause, rfl, rfl⟩
  | resume => exact ⟨halike.resume, rfl, rfl⟩
  | togglePause => exact ⟨halike.event Machine.togglePause withPeriphery_togglePause, rfl, rfl⟩
  | keyUp key =>
    exact ⟨halike.event (·.keyUp key) fun m p => withPeriphery_withKeypad m p _, rfl, rfl⟩
  | setKeys keys =>
    exact ⟨halike.event (·.setKeys keys) fun m p => withPeriphery_withKeypad m p _, rfl, rfl⟩
  | giveKey key =>
    refine ⟨halike.event (·.giveKey key) fun m p => withPeriphery_giveKey m p key, rfl, ?_⟩
    rw [hother]
    rfl
  | takeDirty => exact absurd rfl hmark
  | _ =>
    rw [hother]
    exact ⟨rfl, rfl, rfl⟩

theorem alike_after_cycles (hmode : machine.mode ≠ .running) (cycles : Nat) :
    machine.Alike (machine.after (List.replicate cycles .cycle)) := by
  induction cycles generalizing machine with
  | zero => rfl
  | succ cycles ih =>
    have hcycle : (machine.apply .cycle).1 = machine.unmarked := (cycle_of_not_running hmode).1
    have hunmarked : machine.Alike machine.unmarked := rfl
    have hkept : machine.unmarked.mode ≠ .running := hmode
    rw [List.replicate_succ, after_cons, hcycle]
    exact hunmarked.trans (ih hkept)

/-- The machine that resumes from a pause is the one that was paused. -/
theorem alike_after_pauseOf (hmode : machine.mode ≠ .paused) (cycles : Nat) :
    machine.Alike (machine.after (pauseOf cycles)) := by
  have hafter : machine.after (pauseOf cycles) =
      (machine.pause.after (List.replicate cycles .cycle)).resume :=
    after_append machine.pause (List.replicate cycles .cycle) [.resume]
  have hcycles := (alike_after_cycles machine.mode_pause_ne cycles).resume
  rwa [resume_pause_of_not_paused hmode, ← hafter] at hcycles

theorem alike_after_pauses (hmode : machine.mode ≠ .paused) (pauses : List Nat) :
    machine.Alike (machine.after (pauses.flatMap pauseOf)) := by
  induction pauses generalizing machine with
  | nil => rfl
  | cons cycles pauses ih =>
    have hfirst := alike_after_pauseOf hmode cycles
    rw [List.flatMap_cons, after_append]
    exact hfirst.trans (ih (hfirst.mode ▸ hmode))

theorem Alike.interlude {delayed : Delayed} (halike : machine.Alike other)
    (hmode : delayed.pauses ≠ [] → machine.mode ≠ .paused) :
    machine.Alike (other.after delayed.interlude) := by
  by_cases hnone : delayed.pauses = []
  · rw [Delayed.interlude, hnone]
    exact halike
  · exact halike.trans (alike_after_pauses (halike.mode ▸ hmode hnone) delayed.pauses)

theorem Alike.after_withPauses (halike : machine.Alike other) (hpauses : machine.MayPause schedule)
    (hmark : ∀ delayed ∈ schedule, delayed.command ≠ .takeDirty) :
    (machine.after (withoutPauses schedule)).Alike (other.after (withPauses schedule)) := by
  induction schedule generalizing machine other with
  | nil => exact halike
  | cons delayed rest ih =>
    obtain ⟨hcommand, hrest⟩ := List.forall_mem_cons.mp hmark
    have hnext := ((halike.interlude hpauses.1).apply hcommand).1
    have hwith : other.after (withPauses (delayed :: rest)) =
        ((other.after delayed.interlude).apply delayed.command).1.after (withPauses rest) := by
      rw [withPauses, List.flatMap_cons, after_append, after_append]
      rfl
    rw [hwith]
    exact ih hnext hpauses.2 hrest

/-- **Pauses leave no trace.** A machine gets some commands, and a copy of it gets the same ones
with pauses in between, each put in while the copy is not paused already, and ended after any number
of cycles. None of the commands takes the mark on the picture. Then each of them has the same outcome
on both machines, and leaves them the same but for that mark. -/
theorem pauses_leave_no_trace (hpauses : machine.MayPause schedule)
    (hmark : ∀ delayed ∈ schedule, delayed.command ≠ .takeDirty) :
    ∀ before delayed later, schedule = before ++ delayed :: later →
      let plain := (machine.after (withoutPauses before)).apply delayed.command
      let paused := (machine.after (withPauses before ++ delayed.interlude)).apply delayed.command
      paused.2.fault = plain.2.fault ∧ paused.2.answer = plain.2.answer ∧
        ∃ dirty, paused.1 = { plain.1 with screen := { plain.1.screen with dirty } } := by
  rintro before delayed later rfl plain paused
  obtain ⟨hbefore, hmode, -⟩ := mayPause_append.mp hpauses
  obtain ⟨hearlier, hlater⟩ := List.forall_mem_append.mp hmark
  have hself : machine.Alike machine := rfl
  have hfound := (hself.after_withPauses hbefore hearlier).interlude hmode
  rw [← after_append] at hfound
  obtain ⟨halike, hfault, hanswer⟩ := hfound.apply (hlater delayed List.mem_cons_self)
  exact ⟨hfault, hanswer, alike_iff.mp halike⟩

/-- A new machine whose first step begins a wait. -/
def beforeWait : Machine := boot .default keyCounter

theorem beforeWait_awaits :
    beforeWait.mode = .running ∧ beforeWait.Performs (.awaitKey 0) := by
  have hload : (create .default (.ofList [])).load keyCounter = .ok () beforeWait :=
    load_boot (by decide)
  exact ⟨mode_of_load hload, 0xF00A, fetches_of_load hload (by decide), by decide⟩

/-- The second pause comes during the wait. -/
theorem beforeWait_paused_twice :
    let schedule : List Delayed := [⟨[2, 0], .step⟩, ⟨[3], .keyUp 5⟩]
    beforeWait.MayPause schedule ∧ (∀ delayed ∈ schedule, delayed.command ≠ .takeDirty) ∧
      (beforeWait.after [.step]).mode = .waiting 0 ∧
      ∃ dirty, beforeWait.after (withPauses schedule) =
        { beforeWait.after [.step, .keyUp 5] with
          screen := { (beforeWait.after [.step, .keyUp 5]).screen with dirty } } := by
  intro schedule
  obtain ⟨machine, hmachine⟩ : ∃ machine, beforeWait = machine := ⟨_, rfl⟩
  obtain ⟨hrunning, hawaits⟩ := beforeWait_awaits
  rw [hmachine] at hrunning hawaits ⊢
  have hwaiting : (machine.after [.step]).mode = .waiting 0 := by
    have hafter : machine.after [.step] = machine.step.1 := rfl
    rw [hafter, step_of_execute_eq_ok hrunning hawaits rfl]
  have hpauses : machine.MayPause schedule :=
    ⟨fun _ => by simp [hrunning], fun _ => hwaiting ▸ by decide, trivial⟩
  have hmark : ∀ delayed ∈ schedule, delayed.command ≠ .takeDirty := by simp [schedule]
  obtain ⟨-, -, hsame⟩ :=
    pauses_leave_no_trace hpauses hmark [⟨[2, 0], .step⟩] ⟨[3], .keyUp 5⟩ [] rfl
  exact ⟨hpauses, hmark, hwaiting, hsame⟩

end Machine

end Chip8
