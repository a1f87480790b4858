import Chip8.Proofs.Bounds

/-!
# The steps that commands take

A list of commands takes its steps from machines that follow one another. What the outside does
between two steps leaves the program counter and the call stack alone, so each step starts from the
control state that the step before it left, whether both are of one cycle or of different commands.
-/

namespace Chip8

/-- The commands that take a machine back to the start: a reset and a program that fits. -/
def Command.Restarts : Command → Prop
  | .reset => True
  | .load program => program.length ≤ 3584
  | _ => False

namespace Machine

/-- The machines from which a list of commands takes its steps, in order. -/
def executed (machine : Machine) : List Command → List Machine
  | [] => []
  | command :: rest => machine.steps command ++ (machine.apply command).1.executed rest

theorem executed_append (machine : Machine) (earlier later : List Command) :
    machine.executed (earlier ++ later) =
      machine.executed earlier ++ (machine.after earlier).executed later := by
  induction earlier generalizing machine with
  | nil => rfl
  | cons command earlier ih =>
    rw [List.cons_append, executed, executed, ih, List.append_assoc, after_cons]

theorem mem_executed_append {machine m : Machine} {earlier : List Command}
    (hm : m ∈ machine.executed earlier) (later : List Command) :
    m ∈ machine.executed (earlier ++ later) := by
  rw [executed_append]
  exact List.mem_append_left _ hm

theorem mem_executed_iff {machine m : Machine} {commands : List Command} :
    m ∈ machine.executed commands ↔
      ∃ command before later,
        commands = before ++ command :: later ∧ m ∈ (machine.after before).steps command := by
  induction commands generalizing machine with
  | nil => simp [executed]
  | cons command rest ih =>
    rw [executed, List.mem_append, ih]
    simp only [exists_split_cons_iff, exists_or, exists_eq_left']
    rfl

theorem executed_step {machine next : Machine} {rest : List Command}
    (hrunning : machine.mode = .running) (hstep : machine.step = (next, none)) :
    machine.executed (.step :: rest) = machine :: next.executed rest := by
  have hvisited : machine.steps .step = [machine] := visited_succ_of_step hrunning hstep 0
  have hnext : (machine.apply .step).1 = next := congrArg Prod.fst hstep
  rw [executed, hvisited, hnext, List.singleton_append]

/-- The machine runs a program that is in memory as it was loaded, and has come this far in it. -/
structure RunsAt (machine : Machine) (program : List UInt8) (k : Nat) : Prop where
  mode : machine.mode = .running
  memory : machine.memory = Memory.initial.write 0x200 program
  pc : machine.registers.pc.toNat = 0x200 + k

theorem runsAt_of_load {machine loaded : Machine} {program : List UInt8}
    (hloaded : machine.load program = .ok () loaded) : loaded.RunsAt program 0 where
  mode := mode_of_load hloaded
  memory := memory_of_load hloaded
  pc := by
    rw [registers_of_load hloaded]
    rfl

theorem RunsAt.fetches {machine : Machine} {program : List UInt8} {k : Nat} {high low : UInt8}
    {word : UInt16} (hat : machine.RunsAt program k) (hk : k + 1 < 3584)
    (hhigh : program[k]? = some high) (hlow : program[k + 1]? = some low)
    (hword : word.toNat = 256 * high.toNat + low.toNat) : machine.Fetches word :=
  fetches_of_program hat.memory hat.pc hk hhigh hlow hword

theorem RunsAt.next {machine next : Machine} {program : List UInt8} {k : Nat}
    (hat : machine.RunsAt program k) (hk : k < 3584) (hmode : next.mode = machine.mode)
    (hmemory : next.memory = machine.memory)
    (hpc : next.registers.pc = machine.advance.registers.pc) : next.RunsAt program (k + 2) := by
  have hplace := hat.pc
  refine ⟨hmode.trans hat.mode, hmemory.trans hat.memory, ?_⟩
  rw [hpc, toNat_pc_advance (by omega), hplace, Nat.add_assoc]

/-- An instruction that leaves the memory and the mode and does not jump takes the program on to
its next word. -/
theorem RunsAt.step {machine next : Machine} {program : List UInt8} {k : Nat}
    {instruction : Instruction} (hat : machine.RunsAt program k)
    (hperforms : machine.Performs instruction)
    (hnext : machine.advance.execute instruction = .ok () next)
    (hmode : next.mode = machine.mode) (hmemory : next.memory = machine.memory)
    (hpc : next.registers.pc = machine.advance.registers.pc) :
    ∃ stepped, stepped = next ∧ machine.step = (stepped, none) ∧
      stepped.RunsAt program (k + 2) := by
  obtain ⟨word, ⟨hbound, -⟩, -⟩ := id hperforms
  have hplace := hat.pc
  exact ⟨next, rfl, step_of_execute_eq_ok hat.mode hperforms hnext,
    hat.next (by omega) hmode hmemory hpc⟩

theorem executed_steps (machine : Machine) (n : Nat) :
    machine.executed (List.replicate n .step) = machine.visited n := by
  induction n generalizing machine with
  | zero => rfl
  | succ n ih =>
    have hnext : (machine.apply .step).1 = machine.step.1 := rfl
    rw [List.replicate_succ, executed, hnext, ih]
    by_cases hrunning : machine.mode = .running
    · rw [steps, visited_succ hrunning, visited_succ hrunning]
      rfl
    · rw [steps, step_of_not_running hrunning]
      simp only [visited_of_not_running hrunning, List.nil_append]

theorem running_of_mem_visited {machine m : Machine} {n : Nat} (hm : m ∈ machine.visited n) :
    m.mode = .running := by
  induction n generalizing machine with
  | zero => contradiction
  | succ n ih =>
    by_cases hrunning : machine.mode = .running
    · rw [visited_succ hrunning] at hm
      obtain rfl | hm := List.mem_cons.mp hm
      · exact hrunning
      · exact ih hm
    · rw [visited_of_not_running hrunning] at hm
      contradiction

theorem running_of_mem_steps {machine m : Machine} {command : Command}
    (hm : m ∈ machine.steps command) : m.mode = .running := by
  cases command with
  | step | singleStep | cycle => exact running_of_mem_visited hm
  | _ => contradiction

theorem running_of_mem_executed {machine m : Machine} {commands : List Command}
    (hm : m ∈ machine.executed commands) : m.mode = .running := by
  obtain ⟨command, before, later, -, hstep⟩ := mem_executed_iff.mp hm
  exact running_of_mem_steps hstep

/-- Each of the machines starts its step from the control state that the step before it left. -/
inductive Flows : UInt16 × CallStack → List Machine → UInt16 × CallStack → Prop
  | nil (control : UInt16 × CallStack) : Flows control [] control
  | cons {m : Machine} {rest : List Machine} {last : UInt16 × CallStack}
      (hrest : Flows m.step.1.control rest last) : Flows m.control (m :: rest) last

variable {machine : Machine} {first middle last : UInt16 × CallStack}
  {earlier later : List Machine}

theorem flows_nil_iff : Flows first [] last ↔ first = last := by
  constructor
  · intro hflows
    cases hflows
    rfl
  · rintro rfl
    exact .nil first

theorem flows_cons_iff {m : Machine} :
    Flows first (m :: later) last ↔ first = m.control ∧ Flows m.step.1.control later last := by
  constructor
  · intro hflows
    cases hflows with
    | cons hrest => exact ⟨rfl, hrest⟩
  · rintro ⟨rfl, hrest⟩
    exact .cons hrest

theorem Flows.append (hearlier : Flows first earlier middle) (hlater : Flows middle later last) :
    Flows first (earlier ++ later) last := by
  induction hearlier with
  | nil => exact hlater
  | cons _ ih => exact .cons (ih hlater)

theorem Flows.split (hflows : Flows first (earlier ++ later) last) :
    ∃ middle, Flows first earlier middle ∧ Flows middle later last := by
  induction earlier generalizing first with
  | nil => exact ⟨first, .nil first, hflows⟩
  | cons m earlier ih =>
    obtain ⟨rfl, hrest⟩ := flows_cons_iff.mp hflows
    obtain ⟨middle, hearlier, hlater⟩ := ih hrest
    exact ⟨middle, .cons hearlier, hlater⟩

theorem flows_of_control_eq {next : Machine} (hcontrol : next.control = machine.control) :
    Flows machine.control [] next.control := by
  rw [hcontrol]
  exact .nil machine.control

theorem flows_visited (machine : Machine) (n : Nat) :
    Flows machine.control (machine.visited n) (machine.run n).1.control := by
  induction n generalizing machine with
  | zero => exact .nil machine.control
  | succ n ih =>
    by_cases hrunning : machine.mode = .running
    · rw [visited_succ hrunning, run_succ]
      exact .cons (ih machine.step.1)
    · rw [visited_of_not_running hrunning, run_of_not_running hrunning]
      exact .nil machine.control

theorem flows_singleStep (machine : Machine) :
    Flows machine.control (machine.resume.visited 1) machine.singleStep.1.control := by
  have hflows := machine.resume.flows_visited 1
  rw [machine.touched_resume.control, run_one] at hflows
  have hcontrol : machine.singleStep.1.control = machine.resume.step.1.control := by
    unfold singleStep
    split
    · exact (touched_pause _).control
    · rename_i hpaused
      rw [resume_of_not_paused hpaused]
  rwa [hcontrol]

theorem flows_apply {command : Command} (hkept : ¬command.Restarts) :
    Flows machine.control (machine.steps command) (machine.apply command).1.control := by
  cases command with
  | reset => exact absurd trivial hkept
  | load program =>
    simp only [apply, load_of_gt (Nat.lt_of_not_le hkept)]
    exact .nil machine.control
  | step =>
    have hflows := machine.flows_visited 1
    rwa [run_one] at hflows
  | singleStep => exact machine.flows_singleStep
  | cycle =>
    have hcontrol : machine.cycle.1.control =
        (machine.run machine.config.speed.toNat).1.control := control_tick _
    have hflows := machine.flows_visited machine.config.speed.toNat
    rwa [← hcontrol] at hflows
  | pause => exact flows_of_control_eq machine.touched_pause.control
  | resume => exact flows_of_control_eq machine.touched_resume.control
  | togglePause => exact flows_of_control_eq machine.touched_togglePause.control
  | keyUp key => exact flows_of_control_eq (machine.touched_withKeypad _).control
  | setKeys keys => exact flows_of_control_eq (machine.touched_withKeypad _).control
  | giveKey key => exact flows_of_control_eq (machine.touched_giveKey key).control
  | _ => exact .nil machine.control

theorem flows_executed {commands : List Command}
    (hkept : ∀ command ∈ commands, ¬command.Restarts) :
    Flows machine.control (machine.executed commands) (machine.after commands).control := by
  induction commands generalizing machine with
  | nil => exact .nil machine.control
  | cons command rest ih =>
    obtain ⟨hcommand, hrest⟩ := List.forall_mem_cons.mp hkept
    exact (flows_apply hcommand).append (ih hrest)

end Machine

end Chip8
