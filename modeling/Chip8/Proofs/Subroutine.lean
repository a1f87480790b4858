import Chip8.Proofs.Cycle
import Chip8.Proofs.Executed
import Chip8.Proofs.StepFault

/-!
# Subroutines

A step leaves the call stack, appends an address to it or takes the last one off. So as long as the
stack stays as deep as a call made it, the addresses up to the one that the call pushed stay on it,
and the return that ends this takes off the address that the call pushed.
-/

namespace Chip8

namespace Machine

/-- The live return addresses, oldest first. -/
def calls (machine : Machine) : List UInt16 := machine.registers.stack.live

variable {machine next : Machine}

theorem length_calls (machine : Machine) :
    machine.calls.length = machine.registers.stack.depth := CallStack.length_live _

/-- The stack afterwards is the one before, or one of the two has an address more than the other. -/
theorem calls_of_execute {instruction : Instruction}
    (hnext : machine.execute instruction = .ok () next) :
    next.calls = machine.calls ∨ (∃ address, next.calls = machine.calls ++ [address]) ∨
      ∃ address, machine.calls = next.calls ++ [address] := by
  have hmoves := moves_of_execute hnext
  cases instruction with
  | ret => exact .inr (.inr ⟨_, CallStack.live_pop hmoves⟩)
  | call target =>
    obtain ⟨stack, hpush, rfl⟩ := eq_of_execute_call hnext
    exact .inr (.inl ⟨_, CallStack.live_push hpush⟩)
  | skip condition =>
    have hcontrol : next.control.2 = machine.registers.stack := by
      rw [hmoves]
      split <;> rfl
    exact .inl (congrArg CallStack.live hcontrol)
  | _ => exact .inl (congrArg (fun control => control.2.live) hmoves)

theorem calls_step (machine : Machine) :
    machine.step.1.calls = machine.calls ∨
      (∃ address, machine.step.1.calls = machine.calls ++ [address]) ∨
      ∃ address, machine.calls = machine.step.1.calls ++ [address] := by
  by_cases hrunning : machine.mode = .running
  · obtain hend | ⟨word, hword, hunknown⟩ | ⟨instruction, hperforms⟩ := machine.fetch_cases
    · rw [step_of_pc_past_end hrunning hend]
      exact .inl rfl
    · rw [step_of_unknown hrunning hword hunknown]
      exact .inl rfl
    · rw [step_of_performs hrunning hperforms]
      cases hnext : machine.advance.execute instruction with
      | error fault left => exact .inl rfl
      | ok _ next =>
        have hcalls := calls_of_execute hnext
        exact hcalls
  · rw [step_of_not_running hrunning]
    exact .inl rfl

section Base

variable {base : List UInt16}

theorem prefix_calls_step (hbase : base <+: machine.calls)
    (hdeep : base.length ≤ machine.step.1.calls.length) : base <+: machine.step.1.calls := by
  obtain hsame | ⟨address, hpushed⟩ | ⟨address, hpopped⟩ := machine.calls_step
  · rwa [hsame]
  · rw [hpushed]
    exact hbase.trans (List.prefix_append _ _)
  · rw [hpopped] at hbase
    exact List.prefix_of_prefix_length_le hbase (List.prefix_append _ _) hdeep

/-- Steps from stacks that are deep enough keep the addresses at the bottom, down to that depth. -/
theorem prefix_calls_of_flows {first last : UInt16 × CallStack} {machines : List Machine}
    (hflows : Flows first machines last) (hdeep : ∀ m ∈ machines, base.length ≤ m.calls.length)
    (hfirst : base.length ≤ first.2.live.length → base <+: first.2.live) :
    base.length ≤ last.2.live.length → base <+: last.2.live := by
  induction hflows with
  | nil => exact hfirst
  | @cons m rest last _ ih =>
    obtain ⟨hm, hrest⟩ := List.forall_mem_cons.mp hdeep
    have hbase : base <+: m.calls := hfirst hm
    exact ih hrest (prefix_calls_step hbase)

end Base

/-- A step succeeds and leaves the memory, and this is the control state that it leads to. -/
structure Jumps (machine next : Machine) (pc : UInt16) (calls : List UInt16) : Prop where
  step : machine.step = (next, none)
  mode : next.mode = .running
  memory : next.memory = machine.memory
  pc : next.registers.pc = pc
  calls : next.calls = calls

section Step

variable (hrunning : machine.mode = .running)
include hrunning

theorem jumps_of_call {target : Fin 4096} (hcall : machine.Performs (.call target))
    (hroom : machine.calls.length < 16) :
    ∃ next, machine.Jumps next (UInt16.ofNat target)
      (machine.calls ++ [machine.registers.pc + 2]) := by
  cases hnext : machine.advance.execute (.call target) with
  | error fault left =>
    cases (execute_eq_error_iff.mp hnext).1 with
    | call hfull =>
      rw [length_calls] at hroom
      exact absurd hfull (Nat.ne_of_lt hroom)
  | ok _ next =>
    have hstep := step_of_execute_eq_ok hrunning hcall hnext
    obtain ⟨stack, hpush, rfl⟩ := eq_of_execute_call hnext
    exact ⟨_, hstep, hrunning, rfl, rfl, CallStack.live_push hpush⟩

theorem jumps_of_ret {calls : List UInt16} {address : UInt16} (hret : machine.Performs .ret)
    (hcalls : machine.calls = calls ++ [address]) : ∃ next, machine.Jumps next address calls := by
  cases hnext : machine.advance.execute .ret with
  | error fault left =>
    cases (execute_eq_error_iff.mp hnext).1 with
    | ret hempty =>
      have hlength := machine.length_calls.trans hempty
      rw [hcalls] at hlength
      simp at hlength
  | ok _ next =>
    have hstep := step_of_execute_eq_ok hrunning hret hnext
    obtain ⟨target, stack, hpop, rfl⟩ := eq_of_execute_ret hnext
    have hpopped : machine.calls = stack.live ++ [target] := CallStack.live_pop hpop
    obtain ⟨hrest, haddress⟩ := List.append_inj' (hcalls.symm.trans hpopped) rfl
    exact ⟨_, hstep, hrunning, rfl, (List.singleton_inj.mp haddress).symm, hrest.symm⟩

end Step

/-- **Subroutines return to their caller.** Among the steps that commands take, without a reset or
a new program, let one perform a call that finds room on the stack, and a later one the return that
takes the stack back to its depth before the call, with no step in between from a stack that is less
deep than the call made it. Then both succeed, the return leads to the instruction after the call,
and all live return addresses are those before the call. -/
theorem return_resumes_caller {commands : List Command}
    (hkept : ∀ command ∈ commands, ¬command.Restarts)
    {before between later : List Machine} {caller returning : Machine} {target : Fin 4096}
    (hexecuted : machine.executed commands = before ++ caller :: (between ++ returning :: later))
    (hcall : caller.Performs (.call target)) (hroom : caller.calls.length < 16)
    (hdeep : ∀ m ∈ between, caller.calls.length + 1 ≤ m.calls.length)
    (hreturn : returning.Performs .ret)
    (hdepth : returning.calls.length = caller.calls.length + 1) :
    caller.step.2 = none ∧ caller.step.1.registers.pc = UInt16.ofNat target ∧
      returning.step.2 = none ∧
      returning.step.1.registers.pc.toNat = caller.registers.pc.toNat + 2 ∧
      returning.step.1.calls = caller.calls ∧
      (later = [] → (machine.after commands).control = returning.step.1.control) := by
  have hmem (m : Machine) (hm : m = caller ∨ m = returning) : m ∈ machine.executed commands := by
    rw [hexecuted]
    obtain rfl | rfl := hm <;> simp
  have hcaller : caller.mode = .running := running_of_mem_executed (hmem caller (.inl rfl))
  have hreturning : returning.mode = .running :=
    running_of_mem_executed (hmem returning (.inr rfl))
  obtain ⟨callee, hcallee⟩ := jumps_of_call hcaller hcall hroom
  have hflows : Flows machine.control (machine.executed commands)
      (machine.after commands).control := flows_executed hkept
  rw [hexecuted] at hflows
  obtain ⟨_, -, hfromCall⟩ := hflows.split
  obtain ⟨-, hfromCallee⟩ := flows_cons_iff.mp hfromCall
  obtain ⟨_, hbetween, hfromReturn⟩ := hfromCallee.split
  obtain ⟨rfl, hlater⟩ := flows_cons_iff.mp hfromReturn
  rw [hcallee.step] at hbetween
  -- What the call leaves on the stack is at its bottom until the return.
  have hlength : callee.calls.length = caller.calls.length + 1 := by
    rw [hcallee.calls, List.length_append, List.length_singleton]
  have hbase : callee.calls <+: returning.calls :=
    prefix_calls_of_flows hbetween (by rwa [hlength]) (fun _ => List.prefix_rfl)
      (Nat.le_of_eq (hlength.trans hdepth.symm))
  have hcalls : returning.calls = caller.calls ++ [caller.registers.pc + 2] := by
    rw [← hcallee.calls]
    exact (hbase.eq_of_length (hlength.trans hdepth.symm)).symm
  obtain ⟨returned, hreturned⟩ := jumps_of_ret hreturning hreturn hcalls
  obtain ⟨word, ⟨hword, -⟩, -⟩ := id hcall
  rw [hcallee.step, hreturned.step]
  refine ⟨rfl, hcallee.pc, rfl, ?_, hreturned.calls, ?_⟩
  · have hresumed : returned.registers.pc = caller.advance.registers.pc := hreturned.pc
    rw [hresumed, toNat_pc_advance (by omega)]
  · rintro rfl
    rw [hreturned.step] at hlater
    exact (flows_nil_iff.mp hlater).symm

/-- Two calls, each of the instruction after it, and a return for both. -/
def descent : List UInt8 := [0x22, 0x02, 0x22, 0x04, 0x00, 0xEE]

theorem performs_descent (hmemory : machine.memory = Memory.initial.write 0x200 descent)
    (k : Fin 3) (hpc : machine.registers.pc.toNat = 0x200 + 2 * k) :
    machine.Performs ([.call 0x202, .call 0x204, .ret].get k) := by
  have hfetch := fun word high low => @fetches_of_program machine descent (2 * k) high low word
    hmemory hpc
  match k with
  | 0 => exact ⟨0x2202, hfetch _ _ _ (by decide) rfl rfl rfl, by decide⟩
  | 1 => exact ⟨0x2204, hfetch _ _ _ (by decide) rfl rfl rfl, by decide⟩
  | 2 => exact ⟨0x00EE, hfetch _ _ _ (by decide) rfl rfl rfl, by decide⟩

theorem executed_descent (hmemory : machine.memory = Memory.initial.write 0x200 descent)
    (hpc : machine.registers.pc = 0x200) (hcalls : machine.calls = [])
    (hrunning : machine.mode = .running) :
    ∃ outer inner last : Machine,
      machine.executed (List.replicate 4 .step) = [machine, outer, inner, last] ∧
        outer.calls.length = 1 ∧ inner.calls.length = 2 ∧
        last.Performs .ret ∧ last.calls.length = 1 := by
  have hcall := performs_descent hmemory 0 (by rw [hpc]; rfl)
  obtain ⟨outer, houter⟩ := jumps_of_call hrunning hcall (by rw [hcalls]; decide)
  have houter_calls : outer.calls = [0x202] := by
    rw [houter.calls, hcalls, hpc]
    rfl
  have hmemory_outer := houter.memory.trans hmemory
  have hcall_outer := performs_descent hmemory_outer 1 (by rw [houter.pc]; rfl)
  obtain ⟨inner, hinner⟩ :=
    jumps_of_call houter.mode hcall_outer (by rw [houter_calls]; decide)
  have hinner_calls : inner.calls = [0x202] ++ [0x204] := by
    rw [hinner.calls, houter_calls, houter.pc]
    rfl
  have hmemory_inner := hinner.memory.trans hmemory_outer
  have hret_inner := performs_descent hmemory_inner 2 (by rw [hinner.pc]; rfl)
  obtain ⟨last, hlast⟩ := jumps_of_ret hinner.mode hret_inner hinner_calls
  have hlast_calls : last.calls = [] ++ [0x202] := hlast.calls
  have hret := performs_descent (hlast.memory.trans hmemory_inner) 2 (by rw [hlast.pc]; rfl)
  obtain ⟨home, hhome⟩ := jumps_of_ret hlast.mode hret hlast_calls
  refine ⟨outer, inner, last, ?_, by rw [houter_calls]; rfl, by rw [hinner_calls]; rfl, hret,
    by rw [hlast_calls]; rfl⟩
  show machine.executed [.step, .step, .step, .step] = _
  rw [executed_step hrunning houter.step, executed_step houter.mode hinner.step,
    executed_step hinner.mode hlast.step, executed_step hlast.mode hhome.step, executed]

/-- A new machine with that program. -/
def descender : Machine := (create .default (.ofList [])).after [.load descent]

theorem load_descender : (create .default (.ofList [])).load descent = .ok () descender :=
  load_after (by decide)

theorem descender_returns :
    let returned := descender.after (List.replicate 4 .step)
    descender.registers.pc.toNat = 0x200 ∧ descender.Performs (.call 0x202) ∧
      returned.registers.pc.toNat = 0x202 ∧ returned.calls = descender.calls := by
  have hload := load_descender
  generalize descender = machine at hload ⊢
  have hloaded := load_eq_ok hload
  have hmemory : machine.memory = Memory.initial.write 0x200 descent := by rw [hloaded]
  have hregisters : machine.registers = .initial := by
    rw [hloaded]
    rfl
  have hrunning : machine.mode = .running := by rw [hloaded]
  have hpc : machine.registers.pc = 0x200 := by
    rw [hregisters]
    rfl
  have hcalls : machine.calls = [] := by
    rw [calls, hregisters]
    rfl
  have hcall := performs_descent hmemory 0 (by rw [hpc]; rfl)
  obtain ⟨outer, inner, last, hexecuted, houter, hinner, hret, hlast⟩ :=
    executed_descent hmemory hpc hcalls hrunning
  have hsplit : machine.executed (List.replicate 4 .step) =
      [] ++ machine :: ([outer, inner] ++ last :: []) := hexecuted
  obtain ⟨-, -, -, hpc', hcalls', hcontrol⟩ :=
    return_resumes_caller (by simp [Command.Restarts]) hsplit hcall (by rw [hcalls]; decide)
      (by simp [hcalls, houter, hinner]) hret (by rw [hlast, hcalls]; rfl)
  obtain ⟨hpcs, hstacks⟩ := Prod.mk.inj (hcontrol rfl)
  refine ⟨by rw [hpc]; rfl, hcall, ?_, ?_⟩
  · rw [hpcs, hpc', hpc]
    rfl
  · rw [calls, hstacks]
    exact hcalls'

end Machine

end Chip8
