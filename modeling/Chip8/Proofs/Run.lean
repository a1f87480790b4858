import Chip8.Proofs.Step

/-!
# Runs

What every step keeps, a run, a cycle and a single step keep, and what every command keeps, all
reachable machines have. The steps that a command takes start from the machines that it visits, so
a property of those may be assumed of each of them.
-/

namespace Chip8

/-- An element splits a list at its front or somewhere behind it. -/
theorem exists_split_cons_iff {α : Type} {first x : α} {rest : List α}
    {Around : List α → List α → Prop} :
    (∃ before later, first :: rest = before ++ x :: later ∧ Around before later) ↔
      (first = x ∧ Around [] rest) ∨
        ∃ before later, rest = before ++ x :: later ∧ Around (first :: before) later := by
  constructor
  · rintro ⟨before, later, hsplit, haround⟩
    cases before with
    | nil =>
      obtain ⟨rfl, rfl⟩ := List.cons.inj hsplit
      exact .inl ⟨rfl, haround⟩
    | cons head before =>
      obtain ⟨rfl, rfl⟩ := List.cons.inj hsplit
      exact .inr ⟨before, later, rfl, haround⟩
  · rintro (⟨rfl, haround⟩ | ⟨before, later, rfl, haround⟩)
    · exact ⟨[], rest, rfl, haround⟩
    · exact ⟨first :: before, later, rfl, haround⟩

/-- Where each step of a fold either sets a view of the state or leaves it, the view is what the
latest of the steps that set it made of it. -/
theorem foldl_eq_latest {σ γ α : Type} {next : σ → γ → σ} (view : σ → α) (sets? : γ → Option α)
    (hnext : ∀ s c, view (next s c) = (sets? c).getD (view s)) (cs : List γ) (s : σ) :
    view (cs.foldl next s) = (cs.reverse.findSome? sets?).getD (view s) := by
  induction cs generalizing s with
  | nil => rfl
  | cons c rest ih =>
    calc view (rest.foldl next (next s c))
        = (rest.reverse.findSome? sets?).getD (view (next s c)) := ih _
      _ = (rest.reverse.findSome? sets?).getD ((sets? c).getD (view s)) := by rw [hnext]
      _ = ((c :: rest).reverse.findSome? sets?).getD (view s) := by
          rw [List.reverse_cons, List.findSome?_append, List.findSome?_singleton]
          cases rest.reverse.findSome? sets? <;> rfl

namespace Machine

variable {machine : Machine}

theorem step_of_not_running (hmode : machine.mode ≠ .running) : machine.step = (machine, none) := by
  rw [step, if_neg hmode]

theorem run_of_not_running (hmode : machine.mode ≠ .running) (n : Nat) :
    machine.run n = (machine, none) := by
  cases n with
  | zero => rfl
  | succ n => rw [run, if_neg hmode]

theorem visited_of_not_running (hmode : machine.mode ≠ .running) (n : Nat) :
    machine.visited n = [] := by
  cases n with
  | zero => rfl
  | succ n => rw [visited, if_neg hmode]

theorem mode_step_of_fault {fault : Fault} (hfault : machine.step.2 = some fault) :
    machine.step.1.mode = .halted := by
  by_cases hrunning : machine.mode = .running
  · obtain ⟨registers, fault', hstep⟩ | ⟨x, -, hstep⟩ |
        ⟨-, memory, registers, screen, random, hstep⟩ := step_cases hrunning
    · rw [hstep]
    · rw [hstep] at hfault
      contradiction
    · rw [hstep] at hfault
      contradiction
  · rw [step_of_not_running hrunning] at hfault
    contradiction

theorem not_running_of_fault {fault : Fault} (hfault : machine.step.2 = some fault) :
    machine.step.1.mode ≠ .running := by
  rw [mode_step_of_fault hfault]
  decide

/-- A run takes a step and runs on: after a fault, or where nothing runs, that does nothing. -/
theorem run_succ (machine : Machine) (n : Nat) :
    machine.run (n + 1) =
      ((machine.step.1.run n).1, machine.step.2.or (machine.step.1.run n).2) := by
  by_cases hrunning : machine.mode = .running
  · rw [run, if_pos hrunning]
    cases hfault : machine.step.2 with
    | none =>
      have hstep : machine.step = (machine.step.1, none) := Prod.ext rfl hfault
      rw [hstep]
      rfl
    | some fault =>
      have hstep : machine.step = (machine.step.1, some fault) := Prod.ext rfl hfault
      rw [run_of_not_running (not_running_of_fault hfault), hstep]
      rfl
  · rw [step_of_not_running hrunning, run_of_not_running hrunning, run_of_not_running hrunning]
    rfl

theorem visited_succ (hrunning : machine.mode = .running) (n : Nat) :
    machine.visited (n + 1) = machine :: machine.step.1.visited n := by
  rw [visited, if_pos hrunning]
  cases hfault : machine.step.2 with
  | none =>
    have hstep : machine.step = (machine.step.1, none) := Prod.ext rfl hfault
    rw [hstep]
  | some fault =>
    have hstep : machine.step = (machine.step.1, some fault) := Prod.ext rfl hfault
    rw [visited_of_not_running (not_running_of_fault hfault), hstep]

theorem run_one (machine : Machine) : machine.run 1 = machine.step := by
  rw [run_succ, run, Option.or_none]

theorem run_succ_of_step {next : Machine} (hstep : machine.step = (next, none)) (n : Nat) :
    machine.run (n + 1) = next.run n := by
  rw [run_succ, hstep, Option.none_or]

theorem visited_succ_of_step {next : Machine} (hrunning : machine.mode = .running)
    (hstep : machine.step = (next, none)) (n : Nat) :
    machine.visited (n + 1) = machine :: next.visited n := by
  rw [visited_succ hrunning, hstep]

theorem visited_succ_of_fault {fault : Fault} (hrunning : machine.mode = .running)
    (hfault : machine.step.2 = some fault) (n : Nat) : machine.visited (n + 1) = [machine] := by
  rw [visited_succ hrunning, visited_of_not_running (not_running_of_fault hfault)]

/-- Each step may rely on a property of the machines that the run visits. -/
theorem run_induction (Holds Allows : Machine → Prop)
    (hstep : ∀ m : Machine, m.mode = .running → Allows m → Holds m → Holds m.step.1)
    {n : Nat} (hvisited : ∀ m ∈ machine.visited n, Allows m) (hstart : Holds machine) :
    Holds (machine.run n).1 := by
  induction n generalizing machine with
  | zero => exact hstart
  | succ n ih =>
    by_cases hrunning : machine.mode = .running
    · rw [visited_succ hrunning] at hvisited
      obtain ⟨hallows, hrest⟩ := List.forall_mem_cons.mp hvisited
      rw [run_succ]
      exact ih hrest (hstep machine hrunning hallows hstart)
    · rwa [run_of_not_running hrunning]

theorem after_cons (command : Command) (commands : List Command) :
    machine.after (command :: commands) = (machine.apply command).1.after commands := rfl

theorem after_append (machine : Machine) (earlier later : List Command) :
    machine.after (earlier ++ later) = (machine.after earlier).after later := List.foldl_append

theorem Reachable.after (hreachable : machine.Reachable) (commands : List Command) :
    (machine.after commands).Reachable := by
  obtain ⟨config, random, earlier, rfl⟩ := hreachable
  exact ⟨config, random, earlier ++ commands, (after_append _ earlier commands).symm⟩

theorem after_induction {Holds : Machine → Prop}
    (happly : ∀ (m : Machine) (command : Command), Holds m → Holds (m.apply command).1)
    (hstart : Holds machine) (commands : List Command) : Holds (machine.after commands) := by
  induction commands generalizing machine with
  | nil => exact hstart
  | cons command commands ih => exact ih (happly machine command hstart)

theorem Reachable.induction {Holds : Machine → Prop}
    (hcreate : ∀ config random, Holds (create config random))
    (happly : ∀ (m : Machine) (command : Command), Holds m → Holds (m.apply command).1)
    (hreachable : machine.Reachable) : Holds machine := by
  obtain ⟨config, random, commands, rfl⟩ := hreachable
  exact after_induction happly (hcreate config random) commands

end Machine

end Chip8
