import Chip8.Proofs.Executed
import Chip8.Proofs.Periphery

/-!
# Twins

Two machines that differ only in their dialect and their random source get the same commands. None
of these reads the dialect or the source but through the steps that it takes, so as long as the
first machine takes only steps that overlook the difference, the two stay twins and reply the same.
-/

namespace Chip8

/-- How the dialects and the random sources of two machines are related. Two machines can always be
given the same dialect, and both can draw a byte. -/
structure Likeness where
  dialect : Dialect → Dialect → Prop
  random : RandomSource → RandomSource → Prop
  refl (own : Dialect) : dialect own own
  next (own other : RandomSource) (hrandom : random own other) : random own.next.2 other.next.2

/-- Peripheries that differ only in dialect and random source, and in these as related. -/
def Periphery.Twins (likeness : Likeness) (own other : Periphery) : Prop :=
  ∃ dialect random,
    other = { own with config := { own.config with dialect }, random } ∧
      likeness.dialect own.config.dialect dialect ∧ likeness.random own.random random

theorem Periphery.kept_twins (likeness : Likeness) : Kept (Twins likeness) := by
  rintro machine instruction own _ ⟨dialect, random, rfl, hdialect, hrandom⟩
  cases instruction with
  | random => exact ⟨dialect, random.next.2, rfl, hdialect, likeness.next _ _ hrandom⟩
  | _ => exact ⟨dialect, random, rfl, hdialect, hrandom⟩

namespace Machine

/-- Machines that differ only in dialect and random source, and in these as related. -/
def Twins (likeness : Likeness) (machine other : Machine) : Prop :=
  ∃ dialect random,
    other = { machine with config := { machine.config with dialect }, random } ∧
      likeness.dialect machine.config.dialect dialect ∧ likeness.random machine.random random

variable {machine other : Machine} {likeness : Likeness} {command : Command}
  {commands : List Command}

theorem twins_iff_sameUpTo :
    machine.Twins likeness other ↔ machine.SameUpTo (Periphery.Twins likeness) other := by
  constructor
  · rintro ⟨dialect, random, rfl, hdialect, hrandom⟩
    exact ⟨_, rfl, dialect, random, rfl, hdialect, hrandom⟩
  · rintro ⟨_, rfl, dialect, random, rfl, hdialect, hrandom⟩
    exact ⟨dialect, random, rfl, hdialect, hrandom⟩

theorem Twins.run {n : Nat}
    (hoverlooks : ∀ m ∈ machine.visited n, m.Overlooks (Periphery.Twins likeness))
    (htwins : machine.Twins likeness other) :
    (machine.run n).1.Twins likeness (other.run n).1 ∧ (machine.run n).2 = (other.run n).2 := by
  rw [twins_iff_sameUpTo] at htwins ⊢
  exact htwins.run (Periphery.kept_twins likeness) hoverlooks

theorem Twins.event (event : Machine → Machine)
    (hevent : ∀ m periphery, event (m.withPeriphery periphery) =
      (event m).withPeriphery periphery)
    (htwins : machine.Twins likeness other) : (event machine).Twins likeness (event other) := by
  rw [twins_iff_sameUpTo] at htwins ⊢
  exact SameUpTo.event hevent htwins

theorem Twins.pause (htwins : machine.Twins likeness other) :
    machine.pause.Twins likeness other.pause := htwins.event Machine.pause withPeriphery_pause

theorem Twins.resume (htwins : machine.Twins likeness other) :
    machine.resume.Twins likeness other.resume := htwins.event Machine.resume withPeriphery_resume

theorem Twins.reset (htwins : machine.Twins likeness other) :
    machine.reset.Twins likeness other.reset := by
  obtain ⟨dialect, random, rfl, hrelated⟩ := htwins
  unfold Machine.reset
  exact ⟨dialect, random, rfl, hrelated⟩

theorem Twins.withProgram (htwins : machine.Twins likeness other) (memory : Memory) :
    Twins likeness { machine with memory, mode := .running }
      { other with memory, mode := .running } := by
  obtain ⟨dialect, random, rfl, hrelated⟩ := htwins
  exact ⟨dialect, random, rfl, hrelated⟩

theorem Twins.markDirty (htwins : machine.Twins likeness other) :
    Twins likeness { machine with screen := machine.screen.markDirty }
      { other with screen := other.screen.markDirty } := by
  obtain ⟨dialect, random, rfl, hrelated⟩ := htwins
  exact ⟨dialect, random, rfl, hrelated⟩

theorem Twins.tick (htwins : machine.Twins likeness other) :
    machine.tick.Twins likeness other.tick := by
  obtain ⟨dialect, random, rfl, hrelated⟩ := htwins
  unfold Machine.tick
  split <;> exact ⟨dialect, random, rfl, hrelated⟩

theorem Twins.singleStep
    (hoverlooks : ∀ m ∈ machine.steps .singleStep, m.Overlooks (Periphery.Twins likeness))
    (htwins : machine.Twins likeness other) :
    machine.singleStep.1.Twins likeness other.singleStep.1 ∧
      machine.singleStep.2 = other.singleStep.2 := by
  obtain ⟨hstep, hfault⟩ := htwins.resume.run hoverlooks
  rw [run_one, run_one] at hstep hfault
  have hmode : other.mode = machine.mode := by
    obtain ⟨dialect, random, rfl, -⟩ := htwins
    rfl
  by_cases hpaused : machine.mode = .paused
  · rw [Machine.singleStep, Machine.singleStep, hmode, if_pos hpaused, if_pos hpaused]
    exact ⟨hstep.pause.markDirty, hfault⟩
  · have hpaused' : other.mode ≠ .paused := hmode ▸ hpaused
    rw [resume_of_not_paused hpaused, resume_of_not_paused hpaused'] at hstep hfault
    rw [Machine.singleStep, Machine.singleStep, if_neg hpaused, if_neg hpaused']
    exact ⟨hstep, hfault⟩

theorem Twins.cycle
    (hoverlooks : ∀ m ∈ machine.steps .cycle, m.Overlooks (Periphery.Twins likeness))
    (htwins : machine.Twins likeness other) :
    machine.cycle.1.Twins likeness other.cycle.1 ∧ machine.cycle.2 = other.cycle.2 := by
  have hspeed : other.config.speed = machine.config.speed := by
    obtain ⟨dialect, random, rfl, -⟩ := htwins
    rfl
  obtain ⟨hrun, hfault⟩ := htwins.run hoverlooks
  obtain ⟨dialect, random, hticked, hrelated⟩ := hrun.tick
  simp only [Machine.cycle, hspeed, ← hfault, hticked]
  exact ⟨⟨dialect, random, rfl, hrelated⟩, rfl⟩

/-- Twins stay twins under a command whose steps overlook the difference, and reply the same. -/
theorem Twins.apply
    (hoverlooks : ∀ m ∈ machine.steps command, m.Overlooks (Periphery.Twins likeness))
    (htwins : machine.Twins likeness other) :
    (machine.apply command).1.Twins likeness (other.apply command).1 ∧
      (machine.apply command).2 = (other.apply command).2 := by
  obtain ⟨dialect, random, hother, hdialect, hrandom⟩ := id htwins
  cases command with
  | load program =>
    by_cases hfits : program.length ≤ 3584
    · simp only [Machine.apply, load_of_le hfits, settle, and_true]
      exact htwins.reset.withProgram _
    · simp only [Machine.apply, load_of_gt (Nat.lt_of_not_le hfits), settle, and_true]
      exact htwins
  | reset => exact ⟨htwins.reset, rfl⟩
  | step =>
    obtain ⟨hstep, hfault⟩ := htwins.run hoverlooks
    rw [run_one, run_one] at hstep hfault
    simp only [Machine.apply, ← hfault, and_true]
    exact hstep
  | singleStep =>
    obtain ⟨hstep, hfault⟩ := htwins.singleStep hoverlooks
    simp only [Machine.apply, ← hfault, and_true]
    exact hstep
  | cycle =>
    obtain ⟨hcycle, hreply⟩ := htwins.cycle hoverlooks
    simp only [Machine.apply, ← hreply, and_true]
    exact hcycle
  | pause => exact ⟨htwins.pause, rfl⟩
  | resume => exact ⟨htwins.resume, rfl⟩
  | togglePause => exact ⟨htwins.event Machine.togglePause withPeriphery_togglePause, rfl⟩
  | keyUp key =>
    exact ⟨htwins.event (·.keyUp key) fun m p => withPeriphery_withKeypad m p _, rfl⟩
  | setKeys keys =>
    exact ⟨htwins.event (·.setKeys keys) fun m p => withPeriphery_withKeypad m p _, rfl⟩
  | giveKey key =>
    refine ⟨htwins.event (·.giveKey key) fun m p => withPeriphery_giveKey m p key, ?_⟩
    rw [hother]
    rfl
  | setDialect given =>
    rw [hother]
    exact ⟨⟨given, random, rfl, likeness.refl given, hrandom⟩, rfl⟩
  | setConfig config =>
    rw [hother]
    exact ⟨⟨config.dialect, random, rfl, likeness.refl config.dialect, hrandom⟩, rfl⟩
  | _ =>
    rw [hother]
    exact ⟨⟨dialect, random, rfl, hdialect, hrandom⟩, rfl⟩

theorem Twins.after
    (hoverlooks : ∀ m ∈ machine.executed commands, m.Overlooks (Periphery.Twins likeness))
    (htwins : machine.Twins likeness other) :
    (machine.after commands).Twins likeness (other.after commands) ∧
      machine.replies commands = other.replies commands := by
  induction commands generalizing machine other with
  | nil => exact ⟨htwins, rfl⟩
  | cons command rest ih =>
    obtain ⟨hcommand, hrest⟩ := List.forall_mem_append.mp hoverlooks
    obtain ⟨hnext, hreply⟩ := htwins.apply hcommand
    obtain ⟨hlast, hreplies⟩ := ih hrest hnext
    refine ⟨hlast, ?_⟩
    rw [replies, replies, hreply, hreplies]

end Machine

end Chip8
