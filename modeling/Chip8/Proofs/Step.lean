import Chip8.Proofs.Execution

/-!
# One step

A step of a running machine has three outcomes: there is no word at the program counter, there is
an unknown one, or the instruction there is executed. No instruction but the key wait touches the
keypad and the mode, and none the configuration.
-/

namespace Chip8

theorem decode_eq_none_iff {word : UInt16} :
    decode word = none ↔ ∀ entry ∈ table, entry.accepts word = false := by
  simp [decode, scan]

namespace Machine

/-- The word at the program counter, high byte first, where both its bytes are in memory. -/
def Fetches (machine : Machine) (word : UInt16) : Prop :=
  ∃ _ : machine.registers.pc.toNat + 1 < 4096,
    word.toNat = 256 * machine.memory.bytes[machine.registers.pc.toNat].toNat +
      machine.memory.bytes[machine.registers.pc.toNat + 1].toNat

/-- The instruction at the program counter. -/
def Performs (machine : Machine) (instruction : Instruction) : Prop :=
  ∃ word, machine.Fetches word ∧ (decode word).map Decoded.instruction = some instruction

section Fetch

variable {machine : Machine} {word word' : UInt16} {instruction instruction' : Instruction}

theorem fetch_eq_ok_iff : machine.fetch = .ok word ↔ machine.Fetches word := by
  rw [fetch, Memory.fetch_eq, Fetches]
  split
  · rename_i hend
    simp only [UInt16.toNat_toUInt64] at hend ⊢
    rw [Except.ok.injEq, ← UInt16.toNat_inj, Memory.toNat_word]
    constructor
    · exact fun hword => ⟨by omega, hword.symm⟩
    · exact fun ⟨_, hword⟩ => hword.symm
  · rename_i hend
    rw [UInt16.toNat_toUInt64] at hend
    constructor
    · nofun
    · rintro ⟨hpc, -⟩
      omega

theorem fetch_eq_error_iff {fault : Fault} :
    machine.fetch = .error fault ↔
      0xFFF < machine.registers.pc.toNat + 1 ∧
        fault = .outOfBounds (UInt64.ofNat (machine.registers.pc.toNat + 1)) := by
  have hpc := machine.registers.pc.toNat_lt
  have hend : Memory.rangeEnd machine.registers.pc.toUInt64 2 =
      UInt64.ofNat (machine.registers.pc.toNat + 1) := by
    have htwo : (2 : UInt64).toNat = 2 := rfl
    rw [Memory.rangeEnd, UInt16.toNat_toUInt64, htwo, Nat.min_eq_left (by omega)]
  rw [fetch, Memory.fetch_eq, hend]
  split
  · rename_i hbound
    rw [UInt16.toNat_toUInt64] at hbound
    constructor
    · intro hfetched
      contradiction
    · rintro ⟨hpast, -⟩
      omega
  · rename_i hbound
    rw [UInt16.toNat_toUInt64] at hbound
    simp only [Except.error.injEq]
    constructor
    · rintro rfl
      exact ⟨by omega, rfl⟩
    · exact fun h => h.2.symm

theorem Fetches.unique (hword : machine.Fetches word) (hword' : machine.Fetches word') :
    word = word' := by
  have hfetch := fetch_eq_ok_iff.mpr hword
  rw [fetch_eq_ok_iff.mpr hword', Except.ok.injEq] at hfetch
  exact hfetch.symm

theorem Performs.unique (hperforms : machine.Performs instruction)
    (hperforms' : machine.Performs instruction') : instruction = instruction' := by
  obtain ⟨word, hword, hdecode⟩ := hperforms
  obtain ⟨word', hword', hdecode'⟩ := hperforms'
  rw [hword'.unique hword, hdecode] at hdecode'
  exact Option.some.inj hdecode'

theorem not_performs_of_unknown (hword : machine.Fetches word)
    (hunknown : ∀ entry ∈ table, entry.accepts word = false) : ¬machine.Performs instruction := by
  rintro ⟨word', hword', hdecode⟩
  rw [hword'.unique hword, decode_eq_none_iff.mpr hunknown] at hdecode
  contradiction

/-- A machine has no word at the program counter, or an unknown one, or an instruction. -/
theorem fetch_cases (machine : Machine) :
    0xFFF < machine.registers.pc.toNat + 1 ∨
      (∃ word, machine.Fetches word ∧ ∀ entry ∈ table, entry.accepts word = false) ∨
      ∃ instruction, machine.Performs instruction := by
  cases hfetch : machine.fetch with
  | error fault => exact .inl (fetch_eq_error_iff.mp hfetch).1
  | ok word =>
    have hword := fetch_eq_ok_iff.mp hfetch
    cases hdecode : decode word with
    | none => exact .inr (.inl ⟨word, hword, decode_eq_none_iff.mp hdecode⟩)
    | some decoded => exact .inr (.inr ⟨_, word, hword, by rw [hdecode, Option.map_some]⟩)

theorem fetchAndPerform_of_fetch_eq_ok (hfetch : machine.fetch = .ok word) :
    machine.fetchAndPerform = machine.advance.perform word machine.registers.pc := by
  have hword : (liftM machine.fetch : Call Machine UInt16) machine = .ok word machine :=
    Call.lift_eq_ok_iff.mpr ⟨hfetch, rfl⟩
  rw [fetchAndPerform, Call.get_bind, Call.bind_of_ok hword]
  rfl

theorem fetchAndPerform_of_fetch_eq_error {fault : Fault} (hfetch : machine.fetch = .error fault) :
    machine.fetchAndPerform = .error fault machine := by
  have herror : (liftM machine.fetch : Call Machine UInt16) machine = .error fault machine :=
    Call.lift_eq_error_iff.mpr ⟨hfetch, rfl⟩
  rw [fetchAndPerform, Call.get_bind, Call.bind_of_error herror]

end Fetch

section Step

variable {machine : Machine} (hrunning : machine.mode = .running)
include hrunning

theorem step_of_pc_past_end (hend : 0xFFF < machine.registers.pc.toNat + 1) :
    machine.step =
      (machine.halt, some (.outOfBounds (UInt64.ofNat (machine.registers.pc.toNat + 1)))) := by
  have hfetch := fetch_eq_error_iff.mpr ⟨hend, rfl⟩
  rw [step, if_pos hrunning, fetchAndPerform_of_fetch_eq_error hfetch]

theorem step_of_unknown {word : UInt16} (hword : machine.Fetches word)
    (hunknown : ∀ entry ∈ table, entry.accepts word = false) :
    machine.step = (machine.advance.halt, some (.unknownOpcode word machine.registers.pc)) := by
  have hfetch := fetch_eq_ok_iff.mpr hword
  have hdecode := decode_eq_none_iff.mpr hunknown
  rw [step, if_pos hrunning, fetchAndPerform_of_fetch_eq_ok hfetch, perform, hdecode]
  rfl

/-- A fault comes before any change, so the machine is halted as it was with the program counter
moved on. -/
theorem step_of_performs {instruction : Instruction} (hperforms : machine.Performs instruction) :
    machine.step =
      match machine.advance.execute instruction with
      | .error fault _ => (machine.advance.halt, some fault)
      | .ok () next => (next, none) := by
  obtain ⟨word, hword, hdecoded⟩ := hperforms
  obtain ⟨decoded, hdecode, rfl⟩ := Option.map_eq_some_iff.mp hdecoded
  have hperform : machine.fetchAndPerform = machine.advance.execute decoded.instruction := by
    rw [fetchAndPerform_of_fetch_eq_ok (fetch_eq_ok_iff.mpr hword), perform, hdecode]
  rw [step, if_pos hrunning, hperform]
  cases hexecute : machine.advance.execute decoded.instruction with
  | ok _ next => rfl
  | error fault left =>
    obtain ⟨-, rfl⟩ := execute_eq_error_iff.mp hexecute
    rfl

theorem step_of_execute_eq_ok {instruction : Instruction} {next : Machine}
    (hperforms : machine.Performs instruction)
    (hnext : machine.advance.execute instruction = .ok () next) :
    machine.step = (next, none) := by
  rw [step_of_performs hrunning hperforms, hnext]

end Step

/-- An instruction other than the key wait leaves the keypad, the mode and the configuration. -/
theorem execute_eq_ok {machine next : Machine} {instruction : Instruction}
    (hnext : machine.execute instruction = .ok () next) (hwait : ∀ x, instruction ≠ .awaitKey x) :
    ∃ memory registers screen random,
      next = { machine with memory, registers, screen, random } := by
  cases instruction with
  | ret =>
    obtain ⟨target, stack, -, rfl⟩ := eq_of_execute_ret hnext
    exact ⟨_, _, _, _, rfl⟩
  | call target =>
    obtain ⟨stack, -, rfl⟩ := eq_of_execute_call hnext
    exact ⟨_, _, _, _, rfl⟩
  | skip condition =>
    obtain rfl := eq_of_execute_skip hnext
    split <;> exact ⟨_, _, _, _, rfl⟩
  | draw x y rows =>
    obtain ⟨sprite, -, rfl⟩ := eq_of_draw hnext
    exact ⟨_, _, _, _, rfl⟩
  | awaitKey x => exact absurd rfl (hwait x)
  | storeDecimal x =>
    obtain rfl := eq_of_execute_storeDecimal hnext
    exact ⟨_, _, _, _, rfl⟩
  | storeRegisters x =>
    obtain rfl := eq_of_execute_storeRegisters hnext
    exact ⟨_, _, _, _, rfl⟩
  | loadRegisters x =>
    obtain ⟨bytes, -, rfl⟩ := eq_of_execute_loadRegisters hnext
    exact ⟨_, _, _, _, rfl⟩
  | _ =>
    obtain rfl := Call.eq_of_ok hnext
    exact ⟨_, _, _, _, rfl⟩

/-- What a step does to keypad, mode and configuration: it halts, begins a wait, or leaves all
three. -/
theorem step_cases {machine : Machine} (hrunning : machine.mode = .running) :
    (∃ registers fault, machine.step = ({ machine with registers, mode := .halted }, some fault)) ∨
      (∃ x, machine.Performs (.awaitKey x) ∧
        machine.step =
          ({ machine.advance with mode := .waiting x, keypad := machine.keypad.arm }, none)) ∨
      ((∀ x, ¬machine.Performs (.awaitKey x)) ∧ ∃ memory registers screen random,
        machine.step = ({ machine with memory, registers, screen, random }, none)) := by
  obtain hend | ⟨word, hword, hunknown⟩ | ⟨instruction, hperforms⟩ := machine.fetch_cases
  · exact .inl ⟨_, _, step_of_pc_past_end hrunning hend⟩
  · exact .inl ⟨_, _, step_of_unknown hrunning hword hunknown⟩
  · have hstep := step_of_performs hrunning hperforms
    cases hnext : machine.advance.execute instruction with
    | error fault left =>
      rw [hnext] at hstep
      exact .inl ⟨_, _, hstep⟩
    | ok _ next =>
      rw [hnext] at hstep
      by_cases hwait : ∃ x, instruction = .awaitKey x
      · obtain ⟨x, rfl⟩ := hwait
        obtain rfl := Call.eq_of_ok hnext
        exact .inr (.inl ⟨x, hperforms, hstep⟩)
      · obtain ⟨memory, registers, screen, random, rfl⟩ :=
          execute_eq_ok hnext fun x heq => hwait ⟨x, heq⟩
        refine .inr (.inr ⟨fun x hawaits => hwait ⟨x, hperforms.unique hawaits⟩, ?_⟩)
        exact ⟨_, _, _, _, hstep⟩

end Machine

end Chip8
