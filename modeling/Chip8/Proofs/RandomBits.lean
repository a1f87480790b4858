import Chip8.Proofs.Twins

/-!
# The bits of a random byte

A machine draws one byte of its random source for each step that asks for one, and none otherwise,
whatever commands it gets. Of a byte that is drawn under a mask it keeps the masked bits. Two
machines whose sources agree in the masked bits of as many bytes as are drawn therefore run alike,
and have then used up equally many bytes.
-/

namespace Chip8

namespace RandomSource

/-- The source after so many draws. -/
def skip (source : RandomSource) (count : Nat) : RandomSource :=
  { source with drawn := source.drawn + count }

/-- The byte that is drawn after so many others. -/
def ahead (source : RandomSource) (count : Nat) : UInt8 := source.bytes (source.drawn + count)

variable {source : RandomSource} {count more : Nat}

theorem next_skip (source : RandomSource) (count : Nat) :
    (source.skip count).next = (source.ahead count, source.skip (count + 1)) := rfl

theorem skip_zero (source : RandomSource) : source.skip 0 = source := rfl

theorem skip_skip (source : RandomSource) (count more : Nat) :
    (source.skip count).skip more = source.skip (count + more) := by
  simp only [skip, Nat.add_assoc]

theorem ahead_skip (source : RandomSource) (count more : Nat) :
    (source.skip count).ahead more = source.ahead (count + more) := by
  simp only [skip, ahead, Nat.add_assoc]

theorem skip_inj : source.skip count = source.skip more ↔ count = more := by
  simp [skip]

end RandomSource

/-- One dialect, and two random sources of which equally many bytes are used up. -/
def Likeness.inStep (own other : RandomSource) : Likeness where
  dialect := Eq
  random source source' := ∃ count, source = own.skip count ∧ source' = other.skip count
  refl _ := rfl
  next := by
    rintro _ _ ⟨count, rfl, rfl⟩
    exact ⟨count + 1, rfl, rfl⟩

/-- The mask of the byte that an instruction draws. -/
def Instruction.mask? : Instruction → Option UInt8
  | .random _ mask => some mask
  | _ => none

namespace Machine

/-- The mask of the byte that the next step draws. -/
def mask? (machine : Machine) : Option UInt8 :=
  (machine.current?.map Decoded.instruction).bind Instruction.mask?

/-- The masks of the bytes that the next steps of some machines draw. -/
def masks (machines : List Machine) : List UInt8 := machines.filterMap mask?

/-- Each of the machines finds the source as the draws of those before it leave it. -/
def DrawInTurn (source : RandomSource) : List Machine → Prop
  | [] => True
  | m :: rest => m.random = source ∧ DrawInTurn (source.skip (masks [m]).length) rest

variable {machine other first second : Machine} {instruction : Instruction}
  {source stream : RandomSource} {machines earlier later : List Machine} {command : Command}
  {commands : List Command}

theorem performs_iff_current :
    machine.Performs instruction ↔
      machine.current?.map Decoded.instruction = some instruction := by
  rw [current?]
  cases hfetch : machine.fetch with
  | error fault =>
    constructor
    · rintro ⟨word, hword, -⟩
      rw [fetch_eq_ok_iff.mpr hword] at hfetch
      contradiction
    · intro hnone
      contradiction
  | ok word =>
    have hword := fetch_eq_ok_iff.mp hfetch
    constructor
    · rintro ⟨word', hword', hdecode⟩
      rw [hword.unique hword']
      exact hdecode
    · intro hdecode
      exact ⟨word, hword, hdecode⟩

theorem mask?_eq_some_iff {mask : UInt8} :
    machine.mask? = some mask ↔ ∃ x, machine.Performs (.random x mask) := by
  rw [mask?, Option.bind_eq_some_iff]
  constructor
  · rintro ⟨instruction, hcurrent, hmask⟩
    cases instruction with
    | random x drawn =>
      obtain rfl := Option.some.inj hmask
      exact ⟨x, performs_iff_current.mpr hcurrent⟩
    | _ => contradiction
  · rintro ⟨x, hperforms⟩
    exact ⟨_, performs_iff_current.mp hperforms, rfl⟩

theorem mask?_of_performs (hperforms : machine.Performs instruction) :
    machine.mask? = instruction.mask? := by
  rw [mask?, performs_iff_current.mp hperforms, Option.bind_some]

theorem mask?_of_no_instruction (hnone : ∀ instruction, ¬machine.Performs instruction) :
    machine.mask? = none := by
  rw [Option.eq_none_iff_forall_ne_some]
  intro mask hmask
  obtain ⟨x, hperforms⟩ := mask?_eq_some_iff.mp hmask
  exact hnone _ hperforms

theorem length_masks_singleton (machine : Machine) :
    (masks [machine]).length = machine.mask?.toList.length := by
  rw [masks, List.filterMap_cons]
  cases machine.mask? <;> rfl

theorem masks_append (earlier later : List Machine) :
    masks (earlier ++ later) = masks earlier ++ masks later := List.filterMap_append

theorem drawInTurn_append :
    DrawInTurn source (earlier ++ later) ↔
      DrawInTurn source earlier ∧ DrawInTurn (source.skip (masks earlier).length) later := by
  induction earlier generalizing source with
  | nil => simp [DrawInTurn, masks, RandomSource.skip_zero]
  | cons m earlier ih =>
    have hmasks : masks (m :: earlier) = masks [m] ++ masks earlier := masks_append [m] earlier
    rw [List.cons_append, DrawInTurn, DrawInTurn, ih, hmasks, List.length_append,
      RandomSource.skip_skip, and_assoc]

theorem random_of_execute {next : Machine} (hnext : machine.execute instruction = .ok () next) :
    next.random = machine.random.skip instruction.mask?.toList.length := by
  have hrandom : next.random = (machine.periphery.after machine instruction).random :=
    congrArg Periphery.random (periphery_of_execute hnext)
  rw [hrandom]
  cases instruction <;> rfl

/-- A step uses up one byte if it draws one, and none otherwise. -/
theorem random_step (hrunning : machine.mode = .running) :
    machine.step.1.random = machine.random.skip (masks [machine]).length := by
  rw [length_masks_singleton]
  obtain hend | ⟨word, hword, hunknown⟩ | ⟨instruction, hperforms⟩ := machine.fetch_cases
  · have hnone : ∀ instruction, ¬machine.Performs instruction := by
      rintro instruction ⟨word, ⟨hpc, -⟩, -⟩
      omega
    rw [step_of_pc_past_end hrunning hend, mask?_of_no_instruction hnone]
    rfl
  · have hnone : ∀ instruction, ¬machine.Performs instruction := fun _ =>
      not_performs_of_unknown hword hunknown
    rw [step_of_unknown hrunning hword hunknown, mask?_of_no_instruction hnone]
    rfl
  · rw [mask?_of_performs hperforms, step_of_performs hrunning hperforms]
    cases hnext : machine.advance.execute instruction with
    | error fault =>
      cases instruction with
      | random => contradiction
      | _ => rfl
    | ok next => exact (random_of_execute hnext :)

theorem drawInTurn_visited (machine : Machine) (n : Nat) :
    DrawInTurn machine.random (machine.visited n) ∧
      (machine.run n).1.random = machine.random.skip (masks (machine.visited n)).length := by
  induction n generalizing machine with
  | zero => exact ⟨trivial, rfl⟩
  | succ n ih =>
    by_cases hrunning : machine.mode = .running
    · obtain ⟨hturns, hlast⟩ := ih machine.step.1
      rw [random_step hrunning] at hturns hlast
      rw [run_succ, visited_succ hrunning]
      refine ⟨⟨rfl, hturns⟩, ?_⟩
      have hmasks : masks (machine :: machine.step.1.visited n) =
          masks [machine] ++ masks (machine.step.1.visited n) := masks_append [machine] _
      rw [hlast, hmasks, List.length_append, RandomSource.skip_skip]
    · rw [run_of_not_running hrunning, visited_of_not_running hrunning]
      exact ⟨trivial, rfl⟩

theorem random_tick (machine : Machine) : machine.tick.random = machine.random := by
  unfold tick
  split <;> rfl

theorem random_singleStep (machine : Machine) :
    machine.singleStep.1.random = machine.resume.step.1.random := by
  unfold singleStep
  split
  · exact (touched_pause _).random
  · rename_i hpaused
    rw [resume_of_not_paused hpaused]

theorem random_reset (machine : Machine) : machine.reset.random = machine.random := by
  rw [reset]

/-- Whatever the command, it uses up the bytes that its steps draw. -/
theorem drawInTurn_apply (machine : Machine) (command : Command) :
    DrawInTurn machine.random (machine.steps command) ∧
      (machine.apply command).1.random =
        machine.random.skip (masks (machine.steps command)).length := by
  have htouched {next : Machine} (h : machine.Touched next) :
      DrawInTurn machine.random [] ∧ next.random = machine.random.skip 0 := ⟨trivial, h.random⟩
  cases command with
  | load program =>
    by_cases hfits : program.length ≤ 3584
    · obtain ⟨loaded, hload⟩ := machine.exists_load hfits
      rw [apply_load hload]
      exact ⟨trivial, random_of_load hload⟩
    · simp only [apply, load_of_gt (Nat.lt_of_not_le hfits)]
      exact ⟨trivial, rfl⟩
  | reset => exact ⟨trivial, machine.random_reset⟩
  | step =>
    have hstep := machine.drawInTurn_visited 1
    rwa [run_one] at hstep
  | singleStep =>
    have hstep := machine.resume.drawInTurn_visited 1
    rw [run_one, machine.touched_resume.random, ← random_singleStep] at hstep
    exact hstep
  | cycle =>
    obtain ⟨hturns, hlast⟩ := machine.drawInTurn_visited machine.config.speed.toNat
    exact ⟨hturns, (random_tick _).trans hlast⟩
  | pause => exact htouched machine.touched_pause
  | resume => exact htouched machine.touched_resume
  | togglePause => exact htouched machine.touched_togglePause
  | keyUp key => exact htouched (machine.touched_withKeypad _)
  | setKeys keys => exact htouched (machine.touched_withKeypad _)
  | giveKey key => exact htouched (machine.touched_giveKey key)
  | _ => exact ⟨trivial, rfl⟩

theorem drawInTurn_executed (machine : Machine) (commands : List Command) :
    DrawInTurn machine.random (machine.executed commands) ∧
      (machine.after commands).random =
        machine.random.skip (masks (machine.executed commands)).length := by
  induction commands generalizing machine with
  | nil => exact ⟨trivial, rfl⟩
  | cons command rest ih =>
    obtain ⟨hsteps, hnext⟩ := machine.drawInTurn_apply command
    obtain ⟨hrest, hlast⟩ := ih (machine.apply command).1
    rw [hnext] at hrest hlast
    refine ⟨drawInTurn_append.mpr ⟨hsteps, hrest⟩, ?_⟩
    rw [after_cons, hlast, executed, masks_append, List.length_append, RandomSource.skip_skip]

/-- What is assumed of the draws by number holds at each machine that draws. -/
theorem DrawInTurn.agree (hturns : DrawInTurn source machines)
    (hagree : ∀ (k : Nat) (mask : UInt8), (masks machines)[k]? = some mask →
      source.ahead k &&& mask = stream.ahead k &&& mask) :
    ∀ m ∈ machines, ∀ mask, m.mask? = some mask →
      ∃ k, m.random = source.skip k ∧ source.ahead k &&& mask = stream.ahead k &&& mask := by
  induction machines generalizing source stream with
  | nil => nofun
  | cons m rest ih =>
    obtain ⟨hfirst, hrest⟩ := hturns
    have hmasks : masks (m :: rest) = masks [m] ++ masks rest := masks_append [m] rest
    rw [hmasks] at hagree
    have hlater : ∀ (k : Nat) (mask : UInt8), (masks rest)[k]? = some mask →
        (source.skip (masks [m]).length).ahead k &&& mask =
          (stream.skip (masks [m]).length).ahead k &&& mask := by
      intro k mask hmask
      rw [RandomSource.ahead_skip, RandomSource.ahead_skip]
      refine hagree _ mask ?_
      rw [List.getElem?_append_right (Nat.le_add_right _ _), Nat.add_sub_cancel_left, hmask]
    intro found hfound mask hmask
    obtain rfl | hfound := List.mem_cons.mp hfound
    · refine ⟨0, hfirst, hagree 0 mask ?_⟩
      have hsingle : masks [found] = [mask] := by
        rw [masks, List.filterMap_cons, hmask]
        rfl
      rw [hsingle]
      rfl
    · obtain ⟨k, hrandom, hsame⟩ := ih hrest hlater found hfound mask hmask
      rw [RandomSource.ahead_skip, RandomSource.ahead_skip] at hsame
      rw [RandomSource.skip_skip] at hrandom
      exact ⟨_, hrandom, hsame⟩

/-- A machine whose draw agrees in its masked bits overlooks the other bits. -/
theorem overlooks_of_agree
    (hagree : ∀ mask, machine.mask? = some mask →
      ∃ k, machine.random = source.skip k ∧ source.ahead k &&& mask = stream.ahead k &&& mask) :
    machine.Overlooks (Periphery.Twins (.inStep source stream)) := by
  rintro - instruction hperforms _ ⟨dialect, random, rfl, hdialect, k, hk, rfl⟩
  obtain rfl : machine.config.dialect = dialect := hdialect
  have hk : machine.random = source.skip k := hk
  cases instruction with
  | random x mask =>
    obtain ⟨k', hrandom, hsame⟩ := hagree mask (mask?_of_performs hperforms)
    obtain rfl : k = k' := RandomSource.skip_inj.mp (hk.symm.trans hrandom)
    rw [FindsSame, hk, RandomSource.next_skip, RandomSource.next_skip]
    exact hsame
  | arithmetic | readDelay | storeRegisters | loadRegisters => rfl
  | _ => trivial

/-- **Only masked bits matter.** Two machines that differ only in their random source get the same
commands. If the byte of each draw of the first machine agrees with that of the other source in the
bits that the draw keeps, the machines reply the same and never differ in anything but the source,
and of both sources as many bytes are used up as were drawn. -/
theorem only_masked_bits_matter (hsame : ∃ random, second = { first with random })
    (hagree : ∀ (k : Nat) (mask : UInt8), (masks (first.executed commands))[k]? = some mask →
      first.random.ahead k &&& mask = second.random.ahead k &&& mask) :
    first.replies commands = second.replies commands ∧
      ∀ before later, commands = before ++ later →
        let count := (masks (first.executed before)).length
        (first.after before).random = first.random.skip count ∧
          second.after before =
            { first.after before with random := second.random.skip count } := by
  obtain ⟨stream, rfl⟩ := hsame
  have htwins : first.Twins (.inStep first.random stream) { first with random := stream } :=
    ⟨first.config.dialect, stream, rfl, rfl, 0, rfl, rfl⟩
  have hoverlooks : ∀ m ∈ first.executed commands,
      m.Overlooks (Periphery.Twins (.inStep first.random stream)) := by
    intro m hm
    have hturns := (first.drawInTurn_executed commands).1
    exact overlooks_of_agree (hturns.agree hagree m hm)
  refine ⟨(htwins.after hoverlooks).2, ?_⟩
  rintro before later rfl count
  have hdrawn : (first.after before).random = first.random.skip count :=
    (first.drawInTurn_executed before).2
  refine ⟨hdrawn, ?_⟩
  have hbefore : ∀ m ∈ first.executed before,
      m.Overlooks (Periphery.Twins (.inStep first.random stream)) := fun m hm =>
    hoverlooks m (mem_executed_append hm later)
  obtain ⟨dialect, random, hafter, hdialect, k, hk, rfl⟩ := (htwins.after hbefore).1
  obtain rfl : k = count := RandomSource.skip_inj.mp (hk.symm.trans hdrawn)
  rw [hafter, ← hdialect]

/-- Draws a byte for V1 and keeps its low half, and draws one for V2 and keeps nothing. -/
def twoDraws : List UInt8 := [0xC1, 0x0F, 0xC2, 0x00]

theorem masks_twoDraws (hat : machine.RunsAt twoDraws 0) :
    masks (machine.executed [.step, .keyDown 7, .step]) = [0x0F, 0x00] := by
  have hfirst : machine.Performs (.random 1 0x0F) :=
    ⟨0xC10F, hat.fetches (by decide) rfl rfl rfl, by decide⟩
  obtain ⟨next, -, hstep, hnext⟩ := hat.step hfirst rfl rfl rfl rfl
  have hpressed : (next.keyDown 7).RunsAt twoDraws 2 := ⟨hnext.mode, hnext.memory, hnext.pc⟩
  have hsecond : (next.keyDown 7).Performs (.random 2 0x00) :=
    ⟨0xC200, hpressed.fetches (by decide) rfl rfl rfl, by decide⟩
  obtain ⟨last, -, hlast, -⟩ := hpressed.step hsecond rfl rfl rfl rfl
  have hkey : next.executed [.keyDown 7, .step] = (next.keyDown 7).executed [.step] := rfl
  rw [executed_step hat.mode hstep, hkey, executed_step hpressed.mode hlast, masks,
    List.filterMap_cons, mask?_of_performs hfirst, List.filterMap_cons, mask?_of_performs hsecond]
  rfl

/-- A new machine with that program and a source of its own. -/
def drawer : Machine := (create .default (.ofList [0xA3, 0x11])).after [.load twoDraws]

theorem drawer_keeps_low_half :
    let commands : List Command := [.step, .keyDown 7, .step]
    let stream := RandomSource.ofList [0x53, 0xEE]
    let other := { drawer with random := stream }
    (∃ random, other = { drawer with random }) ∧
      drawer.random.ahead 0 ≠ stream.ahead 0 ∧ drawer.random.ahead 1 ≠ stream.ahead 1 ∧
      (∀ (k : Nat) (mask : UInt8), (masks (drawer.executed commands))[k]? = some mask →
        drawer.random.ahead k &&& mask = stream.ahead k &&& mask) ∧
      drawer.replies commands = other.replies commands ∧
      (drawer.after commands).random = drawer.random.skip 2 ∧
      other.after commands = { drawer.after commands with random := stream.skip 2 } := by
  intro commands stream other
  have hload : (create .default (.ofList [0xA3, 0x11])).load twoDraws = .ok () drawer :=
    load_after (by decide)
  have hmasks : masks (drawer.executed commands) = [0x0F, 0x00] :=
    masks_twoDraws (runsAt_of_load hload)
  have hrandom : drawer.random = .ofList [0xA3, 0x11] := by
    rw [random_of_load hload]
    rfl
  have hagree : ∀ (k : Nat) (mask : UInt8), (masks (drawer.executed commands))[k]? = some mask →
      drawer.random.ahead k &&& mask = stream.ahead k &&& mask := by
    intro k mask hmask
    rw [hmasks] at hmask
    rw [hrandom]
    match k with
    | 0 =>
      obtain rfl := Option.some.inj hmask
      decide
    | 1 =>
      obtain rfl := Option.some.inj hmask
      decide
    | k + 2 => cases hmask
  have hsame : ∃ random, other = { drawer with random } := ⟨stream, rfl⟩
  obtain ⟨hreplies, hafter⟩ := only_masked_bits_matter hsame hagree
  obtain ⟨hdrawn, hother⟩ := hafter commands [] (List.append_nil _).symm
  rw [hmasks] at hdrawn hother
  refine ⟨hsame, ?_, ?_, hagree, hreplies, hdrawn, hother⟩
  · rw [hrandom]
    decide
  · rw [hrandom]
    decide

end Machine

end Chip8
