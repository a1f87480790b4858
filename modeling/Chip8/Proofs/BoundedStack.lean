import Chip8.Proofs.Control
import Chip8.Proofs.StepFault

/-!
# The call stack as a bounded list

The live part of the call stack is a list of at most sixteen addresses: a push appends to it while
there is room, a pop takes its last address off, and a reset empties it. Which cells hold old
addresses makes no difference, and calls that fail change neither the list nor the registers.
-/

namespace Chip8

/-- What is asked of the call stack of a register file. -/
inductive StackCall
  | push (address : UInt16)
  | pop
  | reset
  deriving DecidableEq

/-- What a call makes of a list of at most sixteen addresses. -/
def StackCall.revise (entries : List UInt16) : StackCall → List UInt16
  | push address => if entries.length < 16 then entries ++ [address] else entries
  | pop => entries.dropLast
  | reset => []

namespace Registers

/-- The registers after a call, and its outcome: the address that a pop takes off, nothing for
other calls that succeed, and a fault for one that does not. -/
def call (registers : Registers) : StackCall → Registers × Except Fault (Option UInt16)
  | .push address =>
    match registers.push address with
    | .ok () pushed => (pushed, .ok none)
    | .error fault left => (left, .error fault)
  | .pop =>
    match registers.pop with
    | .ok address popped => (popped, .ok (some address))
    | .error fault left => (left, .error fault)
  | .reset => (.initial, .ok none)

def afterCalls (registers : Registers) (calls : List StackCall) : Registers :=
  calls.foldl (fun current call => (current.call call).1) registers

variable {registers : Registers} {address : UInt16} {fault : Fault}

theorem length_live (registers : Registers) :
    registers.stack.live.length = registers.stack.depth := registers.stack.length_live

theorem length_live_le (registers : Registers) : registers.stack.live.length ≤ 16 := by
  rw [length_live]
  exact registers.stack.depth_le

theorem push_cases (registers : Registers) (address : UInt16) :
    (registers.stack.live.length = 16 ∧
        registers.push address = .error .stackOverflow registers) ∨
      ∃ stack, registers.push address = .ok () { registers with stack } ∧
        registers.stack.live.length < 16 ∧ stack.live = registers.stack.live ++ [address] := by
  cases hpush : registers.push address with
  | error fault left =>
    obtain ⟨⟨hfull, hfault⟩, hleft⟩ := push_eq_error_iff.mp hpush
    exact .inl ⟨registers.length_live.trans hfull, by rw [hfault, hleft]⟩
  | ok _ pushed =>
    obtain ⟨stack, hstack, rfl⟩ := push_eq_ok_iff.mp hpush
    refine .inr ⟨stack, rfl, ?_, CallStack.live_push hstack⟩
    refine Nat.lt_of_le_of_ne registers.length_live_le fun hfull => ?_
    rw [length_live] at hfull
    rw [push_eq_error_iff.mpr ⟨⟨hfull, rfl⟩, rfl⟩] at hpush
    contradiction

theorem pop_cases (registers : Registers) :
    (registers.stack.live = [] ∧ registers.pop = .error .stackUnderflow registers) ∨
      ∃ address stack, registers.pop = .ok address { registers with stack } ∧
        registers.stack.live = stack.live ++ [address] := by
  cases hpop : registers.pop with
  | error fault left =>
    obtain ⟨⟨hempty, hfault⟩, hleft⟩ := pop_eq_error_iff.mp hpop
    exact .inl ⟨List.length_eq_zero_iff.mp (registers.length_live.trans hempty),
      by rw [hfault, hleft]⟩
  | ok address popped =>
    obtain ⟨stack, hstack, rfl⟩ := pop_eq_ok_iff.mp hpop
    exact .inr ⟨address, stack, rfl, CallStack.live_pop hstack⟩

/-- One call does to the live part what it does to the list. -/
theorem live_call (registers : Registers) (call : StackCall) :
    (registers.call call).1.stack.live = call.revise registers.stack.live := by
  cases call with
  | push address =>
    obtain ⟨hfull, hpush⟩ | ⟨stack, hpush, hroom, hlive⟩ := registers.push_cases address
    · rw [Registers.call, hpush, StackCall.revise, if_neg (by omega)]
    · rw [Registers.call, hpush, StackCall.revise, if_pos hroom]
      exact hlive
  | pop =>
    obtain ⟨hempty, hpop⟩ | ⟨address, stack, hpop, hlive⟩ := registers.pop_cases
    · rw [Registers.call, hpop, StackCall.revise, hempty]
      rfl
    · rw [Registers.call, hpop, StackCall.revise, hlive, List.dropLast_concat]
  | reset => rfl

theorem live_afterCalls (registers : Registers) (calls : List StackCall) :
    (registers.afterCalls calls).stack.live =
      calls.foldl StackCall.revise registers.stack.live :=
  (List.foldl_hom (fun current : Registers => current.stack.live)
    fun current call => (current.live_call call).symm).symm

theorem call_of_error {call : StackCall} (hfails : (registers.call call).2 = .error fault) :
    (registers.call call).1 = registers := by
  cases call with
  | push address =>
    obtain ⟨-, hpush⟩ | ⟨stack, hpush, -⟩ := registers.push_cases address
    · rw [Registers.call, hpush]
    · rw [Registers.call, hpush] at hfails
      contradiction
  | pop =>
    obtain ⟨-, hpop⟩ | ⟨address, stack, hpop, -⟩ := registers.pop_cases
    · rw [Registers.call, hpop]
    · rw [Registers.call, hpop] at hfails
      contradiction
  | reset => contradiction

/-- Pushes and pops leave everything but the call stack. -/
theorem call_eq_withStack {call : StackCall} (hcall : call ≠ .reset) :
    (registers.call call).1 = { registers with stack := (registers.call call).1.stack } := by
  cases call with
  | push address =>
    obtain ⟨-, hpush⟩ | ⟨stack, hpush, -⟩ := registers.push_cases address <;>
      rw [Registers.call, hpush]
  | pop =>
    obtain ⟨-, hpop⟩ | ⟨address, stack, hpop, -⟩ := registers.pop_cases <;>
      rw [Registers.call, hpop]
  | reset => exact absurd rfl hcall

theorem push_outcome_eq_error_iff :
    (registers.call (.push address)).2 = .error fault ↔
      registers.stack.live.length = 16 ∧ fault = .stackOverflow := by
  obtain ⟨hfull, hpush⟩ | ⟨stack, hpush, hroom, -⟩ := registers.push_cases address
  · simp [Registers.call, hpush, hfull, eq_comm]
  · simp [Registers.call, hpush, Nat.ne_of_lt hroom]

theorem pop_outcome_eq_error_iff :
    (registers.call .pop).2 = .error fault ↔
      registers.stack.live = [] ∧ fault = .stackUnderflow := by
  obtain ⟨hempty, hpop⟩ | ⟨address, stack, hpop, hlive⟩ := registers.pop_cases
  · simp [Registers.call, hpop, hempty, eq_comm]
  · simp [Registers.call, hpop, hlive]

theorem pop_outcome_eq_ok_iff {popped : Option UInt16} :
    (registers.call .pop).2 = .ok popped ↔
      ∃ last, registers.stack.live.getLast? = some last ∧ popped = some last := by
  obtain ⟨hempty, hpop⟩ | ⟨address, stack, hpop, hlive⟩ := registers.pop_cases
  · rw [Registers.call, hpop, hempty]
    simp
  · rw [Registers.call, hpop, hlive, List.getLast?_concat, Except.ok.injEq]
    simp [eq_comm]

/-- **A bounded list.** After any pushes, pops and resets, failed ones among them, the live part of
the call stack is the list that they make of the one before. A push fails exactly if the list has
sixteen addresses, and a pop exactly if it has none; else the pop returns its last. Calls that fail
change nothing, and no push or pop changes more than the stack. -/
theorem stack_refines_bounded_list (start : Registers) (calls : List StackCall) :
    let registers := start.afterCalls calls
    let entries := calls.foldl StackCall.revise start.stack.live
    Registers.initial.stack.live = [] ∧ registers.stack.live = entries ∧
      registers.stack.depth = entries.length ∧
      (∀ address fault, (registers.call (.push address)).2 = .error fault ↔
        entries.length = 16 ∧ fault = .stackOverflow) ∧
      (∀ fault, (registers.call .pop).2 = .error fault ↔
        entries = [] ∧ fault = .stackUnderflow) ∧
      (∀ popped, (registers.call .pop).2 = .ok popped ↔
        ∃ last, entries.getLast? = some last ∧ popped = some last) ∧
      (∀ call fault, (registers.call call).2 = .error fault →
        (registers.call call).1 = registers) ∧
      ∀ call ≠ .reset, (registers.call call).1 =
        { registers with stack := (registers.call call).1.stack } := by
  intro registers entries
  have hlive : registers.stack.live = entries := start.live_afterCalls calls
  rw [← hlive]
  exact ⟨CallStack.live_empty, rfl, registers.length_live.symm,
    fun _ _ => push_outcome_eq_error_iff, fun _ => pop_outcome_eq_error_iff,
    fun _ => pop_outcome_eq_ok_iff, fun _ _ => call_of_error, fun _ => call_eq_withStack⟩

end Registers

end Chip8
